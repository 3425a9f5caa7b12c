import PagePreview.Text.Letter
import PagePreview.Text.Matcher

/-! The entry: the one symbol a page exposes. It is found by a list of forms, bound to a plain name,
and every module-export form is removed, since the page runs as a function body. -/

namespace PagePreview

inductive EntryForm
  | defaultFunction
  | defaultIdentifier
  | defaultClass
  | anonymousDefault
  | constDeclaration
  | functionDeclaration
  | fabricated
  deriving DecidableEq

def EntryForm.label : EntryForm → String
  | .defaultFunction => "defaultFunction"
  | .defaultIdentifier => "defaultIdentifier"
  | .defaultClass => "defaultClass"
  | .anonymousDefault => "anonymousDefault"
  | .constDeclaration => "constDeclaration"
  | .functionDeclaration => "functionDeclaration"
  | .fabricated => "fabricated"

structure Entry where
  body : List Char
  name : String
  form : EntryForm

namespace Entry
open Text Matcher

def clientDirective : Matcher Unit := do
  textStart
  let _ ← blanks
  text "'use client'" <|> text "\"use client\""
  let _ ← inlineBlanks
  let _ ← opt (char (· == ';'))
  let _ ← inlineBlanks
  let _ ← opt (char (· == '\r'))
  let _ ← opt (char (· == '\n'))

def stripClientDirective (source : List Char) : List Char :=
  match clientDirective.matchStart? source with
  | some (_, rest) => rest
  | none => source

def declaredName : Matcher Span := span do
  let _ ← char isPlainStart
  most isDeclaredRest

def keyword : List String → Matcher Unit
  | [] => fun _ => []
  | w :: ws => (do text w; edge isWord) <|> keyword ws

def exportDefault : Matcher Unit := do
  text "export"
  let _ ← blanks1
  text "default"
  let _ ← blanks1

def lineExportDefault : Matcher Unit := do
  lineStart
  let _ ← inlineBlanks
  exportDefault

def asyncWord : Matcher Unit := do
  text "async"
  let _ ← blanks1

def exportedDeclaration (declared : Matcher Span) : Matcher (Span × Span) := do
  lineExportDefault
  fun p => (declared p).map fun (name, q) => ((⟨p.ahead, q.ahead⟩, name), q)

def defaultFunction : Matcher (Span × Span) := exportedDeclaration do
  let _ ← opt asyncWord
  text "function"
  let _ ← blanks
  let _ ← opt (char (· == '*'))
  let _ ← blanks
  let name ← declaredName
  let _ ← blanks
  let _ ← char fun c => c == '(' || c == '<'
  pure name

def defaultClass : Matcher (Span × Span) := exportedDeclaration do
  text "class"
  let _ ← blanks1
  declaredName

def defaultIdentifier : Matcher Span := do
  lineExportDefault
  let name ← declaredName
  let _ ← inlineBlanks
  let _ ← opt (char (· == ';'))
  let _ ← inlineBlanks
  lineEnd
  pure name

def constDeclaration : Matcher Span := do
  edge isWord
  text "const"
  let _ ← blanks1
  let name ← declaredName
  let _ ← blanks
  let _ ← opt (do let _ ← char (· == ':'); most1 fun c => c != '=' && c != '\n')
  text "="
  let _ ← blanks
  text "("
  pure name

def functionDeclaration : Matcher Span := do
  edge isWord
  text "function"
  let _ ← blanks1
  let name ← declaredName
  let _ ← blanks
  text "("
  pure name

def nonBindingWords : List String := [
  "function", "class", "async", "new", "null", "undefined", "true", "false", "this",
  "typeof", "void", "await", "yield"]

def isBindingName (name : Span) : Bool := !nonBindingWords.contains (String.ofList name.text)

/-- Drops the first match whose value passes `test`; the value, and the text without that match. -/
def dropFirst? {α : Type} (test : α → Bool) : List (Piece α) → Option (α × List Char)
  | [] => none
  | .kept c :: pieces => (dropFirst? test pieces).map fun (a, s) => (a, c :: s)
  | .hit a whole :: pieces =>
    if test a then some (a, pieces.flatMap (Piece.write fun _ t => t))
    else (dropFirst? test pieces).map fun (b, s) => (b, whole ++ s)

def dropExport? (m : Matcher (Span × Span)) (body : List Char) : Option (List Char × Span) :=
  (m.find? body).map fun f => (f.skipped ++ f.value.1.start, f.value.2)

def ofDeclared (form : EntryForm) (found : List Char × Span) : Entry :=
  ⟨found.1, String.ofList found.2.text, form⟩

def bindAnonymous? (fallback : String) (body : List Char) : Option Entry :=
  (lineExportDefault.find? body).map fun f =>
    ⟨f.skipped ++ ("const " ++ fallback ++ " = ").toList ++ f.rest.ahead, fallback,
      .anonymousDefault⟩

def fabricate (fallback : String) (body : List Char) : Entry :=
  let kept := trimEnd body
  let kept := if kept.isEmpty then [] else kept ++ ['\n']
  ⟨kept ++ ("const " ++ fallback ++ " = () => null;\n").toList, fallback, .fabricated⟩

def locate (fallback : String) (body : List Char) : Entry :=
  let found :=
    ((dropExport? defaultFunction body).map (ofDeclared .defaultFunction)) <|>
    ((dropFirst? isBindingName (defaultIdentifier.pieces body)).map fun (name, rest) =>
      ofDeclared .defaultIdentifier (rest, name)) <|>
    ((dropExport? defaultClass body).map (ofDeclared .defaultClass)) <|>
    bindAnonymous? fallback body <|>
    ((constDeclaration.find? body).map fun f => ofDeclared .constDeclaration (body, f.value)) <|>
    ((functionDeclaration.find? body).map fun f => ofDeclared .functionDeclaration (body, f.value))
  found.getD (fabricate fallback body)

def quotedModule : Matcher Unit := do
  let _ ← char fun c => c == '"' || c == '\''
  let _ ← most fun c => c != '"' && c != '\''
  let _ ← char fun c => c == '"' || c == '\''

def statementEnd : Matcher Unit := do
  let _ ← inlineBlanks
  let _ ← opt (char (· == ';'))
  let _ ← inlineBlanks
  lineEnd

def exportList : Matcher Unit := do
  lineStart
  let _ ← inlineBlanks
  text "export"
  let _ ← blanks1
  let _ ← opt (do text "type"; blanks1)
  text "\x7b"
  let _ ← most (· != '\x7d')
  text "\x7d"
  let _ ← blanks
  let _ ← opt (do
    text "from"
    let _ ← blanks
    quotedModule)
  statementEnd

def exportStar : Matcher Unit := do
  lineStart
  let _ ← inlineBlanks
  text "export"
  let _ ← blanks
  text "*"
  let _ ← blanks
  let _ ← opt (do
    text "as"
    let _ ← blanks1
    let _ ← declaredName
    blanks1)
  text "from"
  let _ ← blanks
  quotedModule
  statementEnd

def declarationWords : List String := [
  "const", "let", "var", "function", "async", "class", "interface", "type", "enum", "abstract",
  "declare"]

def exportDeclaration : Matcher (Span × Span) := do
  lineStart
  let indent ← inlineBlanks
  text "export"
  let _ ← blanks1
  let first ← span (keyword declarationWords)
  pure (indent, first)

/-- What may follow a default export that is no entry: a function or class, or an expression. -/
def leftoverDefault : Matcher (Span × Option Span) := do
  lineStart
  let indent ← inlineBlanks
  exportDefault
  let declared ← opt (span ((do
    let _ ← opt asyncWord
    keyword ["function"]) <|> keyword ["class"]))
  pure (indent, declared)

/-- A default declaration keeps its declaration; a default expression is evaluated and dropped. -/
def neutralise : Span × Option Span → List Char → List Char
  | (indent, some declared), _ => indent.text ++ declared.text
  | (indent, none), _ => indent.text ++ "void ".toList

def stripExports (body : List Char) : List Char :=
  let body := exportStar.erase (exportList.erase body)
  let body := exportDeclaration.rewrite (fun (indent, first) _ => indent.text ++ first.text) body
  leftoverDefault.rewrite neutralise body

def extract (fallback : String) (body : List Char) : Entry :=
  let entry := locate fallback body
  { entry with body := stripExports entry.body }

end Entry
end PagePreview
