import PagePreview.Text.Letter
import PagePreview.Text.Matcher

/-! Style islands: style elements with a `jsx` flag whose only child is a literal of CSS. Each is
rewritten to a style element that carries its CSS as raw markup, and the flags that no island
carries are dropped. -/

namespace PagePreview.StyleIsland
open Text Matcher

/-- The ends of the runs inside a literal closed by `quote`, from the empty run to the longest; a
backslash takes the next character with it. -/
def literalRuns (quote : Char) (behind : Option Char) : List Char → List Place
  | [] => [⟨behind, []⟩]
  | '\\' :: [] => [⟨behind, ['\\']⟩]
  | '\\' :: c :: s => ⟨behind, '\\' :: c :: s⟩ :: literalRuns quote (some c) s
  | c :: s => ⟨behind, c :: s⟩ :: if c == quote then [] else literalRuns quote (some c) s

def literal (quote : Char) : Matcher Span := do
  let _ ← char (· == quote)
  let payload ← fun p => spans p (literalRuns quote p.behind p.ahead).reverse
  let _ ← char (· == quote)
  pure payload

def flag (name : String) : Matcher Unit := do
  text name
  let _ ← opt (text "=\x7btrue\x7d")

def island (payload : Matcher Span) : Matcher Span := do
  text "<style"
  let _ ← blanks1
  flag "jsx"
  let _ ← opt (do let _ ← blanks1; flag "global")
  let _ ← blanks
  text ">"
  let _ ← blanks
  text "\x7b"
  let _ ← blanks
  let css ← payload
  let _ ← blanks
  text "\x7d"
  let _ ← blanks
  text "</style"
  let _ ← blanks
  text ">"
  pure css

def templateIsland : Matcher Span := island (literal '\x60')
def stringIsland : Matcher Span := island (literal '"' <|> literal '\'')

/-- What a literal stands for: the known escapes are resolved and the others stay as written. -/
def cook : List Char → List Char
  | [] => []
  | '\\' :: c :: s =>
    (match c with
      | '\\' => ['\\']
      | '\x60' => ['\x60']
      | '\'' => ['\'']
      | '"' => ['"']
      | '$' => ['$']
      | 'n' => ['\n']
      | 't' => ['\t']
      | 'r' => ['\r']
      | other => ['\\', other]) ++ cook s
  | c :: s => c :: cook s

def escape (css : List Char) : List Char :=
  let slashes := replaceAll ['\\'] ['\\', '\\'] css
  let ticks := replaceAll ['\x60'] ['\\', '\x60'] slashes
  replaceAll ['$', '\x7b'] ['\\', '$', '\x7b'] ticks

def element (css : List Char) : List Char :=
  "<style dangerouslySetInnerHTML=\x7b\x7b __html: \x60".toList ++ escape css ++
    "\x60 \x7d\x7d />".toList

def rewriteIslands (m : Matcher Span) (s : List Char) : List Char :=
  m.rewrite (fun payload _ => element (cook payload.text)) s

def openTag : Matcher Span := do
  text "<style"
  edge isWord
  let attributes ← most (· != '>')
  text ">"
  pure attributes

def strayFlag : Matcher (List Char) := do
  let _ ← blanks1
  flag "jsx" <|> flag "global"
  ((fun c => [c]) <$> char fun c => isBlank c || c == '/') <|> (do textEnd; pure [])

def dropFlags (attributes : List Char) : List Char :=
  strayFlag.rewrite (fun kept _ => kept) attributes

def dropAllFlags : Nat → List Char → List Char
  | 0, attributes => attributes
  | bound + 1, attributes =>
    let next := dropFlags attributes
    if next = attributes then attributes else dropAllFlags bound next

def cleanTag (attributes : Span) (whole : List Char) : List Char :=
  let inner := attributes.text
  if holds "dangerouslySetInnerHTML".toList inner then whole
  else "<style".toList ++ dropAllFlags inner.length inner ++ ['>']

def normalize (source : List Char) : List Char :=
  let rewritten := rewriteIslands stringIsland (rewriteIslands templateIsland source)
  openTag.rewrite cleanTag rewritten

end PagePreview.StyleIsland
