import PagePreview.Text.Matcher

/-! Telling page sources apart from structured content. -/

namespace PagePreview.Content
open Text Matcher

def exportsDefault : Matcher Unit := do
  text "export"
  let _ ← blanks1
  text "default"

def isQuote (c : Char) : Bool := c == '\'' || c == '"'

def importsFrom : Matcher Unit := do
  text "import"
  let _ ← blanks1
  let _ ← most1 (· != '\n')
  text "from"
  let _ ← blanks1
  let _ ← char isQuote
  let _ ← most1 fun c => !isQuote c
  let _ ← char isQuote

/-- Whether a text reads like a page source: not blank, not opened like an object or a list, and
with a default export or an import in it. -/
def isPageSource (value : Option String) : Bool :=
  match value with
  | none => false
  | some value =>
    match trim value.toList with
    | [] => false
    | c :: s =>
      c != '\x7b' && c != '[' && (exportsDefault.occurs (c :: s) || importsFrom.occurs (c :: s))

end PagePreview.Content
