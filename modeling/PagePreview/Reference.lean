import PagePreview.Failure
import PagePreview.Text.Letter
import PagePreview.Text.Matcher

/-! References: what an import statement binds, and from which module. -/

namespace PagePreview
open Text Matcher

structure NamedSymbol where
  imported : String
  localName : String
  deriving DecidableEq

structure Reference where
  moduleName : String
  defaultName : Option String := none
  named : List NamedSymbol := []
  namespaceName : Option String := none
  typeOnly : Bool := false
  deriving DecidableEq

namespace Reference

def isEffectOnly (r : Reference) : Bool :=
  r.defaultName.isNone && r.named.isEmpty && r.namespaceName.isNone

inductive Fault
  | notAnImport
  | notAName (name : List Char)
  | danglingComma
  | missingAs
  | unbalancedBraces
  | unreadableBinding (chunk : List Char)
  | unexpected (rest : List Char)

def Fault.message : Fault → String
  | .notAnImport => "not an import declaration"
  | .notAName name => "`" ++ String.ofList name ++ "` is not a valid binding name"
  | .danglingComma => "dangling `,` after default binding"
  | .missingAs => "expected `as` after `*`"
  | .unbalancedBraces => "unbalanced braces in named bindings"
  | .unreadableBinding chunk => "cannot read binding `" ++ String.ofList chunk ++ "`"
  | .unexpected rest => "unexpected `" ++ String.ofList rest ++ "`"

def isQuote (c : Char) : Bool := c == '"' || c == '\''
def isClauseChar (c : Char) : Bool := c != ';' && !isQuote c
def isModuleChar (c : Char) : Bool := !isQuote c

def quotedModule : Matcher Span := do
  let _ ← char isQuote
  let name ← most1 isModuleChar
  let _ ← char isQuote
  pure name

def boundImport : Matcher (Span × Span) := do
  text "import"
  let _ ← blanks1
  let clause ← least1 isClauseChar
  let _ ← blanks1
  text "from"
  let _ ← blanks
  let module ← quotedModule
  pure (clause, module)

def effectImport : Matcher Span := do
  text "import"
  let _ ← blanks
  quotedModule

def whole {α : Type} (m : Matcher α) : Matcher α := do
  let _ ← blanks
  let value ← m
  let _ ← blanks
  let _ ← opt (char (· == ';'))
  let _ ← blanks
  textEnd
  pure value

def onLines {α : Type} (m : Matcher α) : Matcher α := do
  lineStart
  let _ ← inlineBlanks
  let value ← m
  let _ ← inlineBlanks
  let _ ← opt (char (· == ';'))
  let _ ← inlineBlanks
  lineEnd
  pure value

def bindingName (name : List Char) : Except Fault String :=
  if isPlainName name then .ok (String.ofList name) else .error (.notAName name)

def afterWord? (word : String) (s : List Char) : Option (List Char) :=
  (after? word.toList s).filter fun rest => rest.head?.any isBlank

def namedEntry (chunk : List Char) : Except Fault (Option NamedSymbol) := do
  let (isType, binding) := match afterWord? "type" chunk with
    | some rest => (true, rest)
    | none => (false, chunk)
  let (imported, name) ← match words binding with
    | [name] => pure (name, name)
    | [imported, ['a', 's'], name] => pure (imported, name)
    | _ => throw (.unreadableBinding chunk)
  let imported ← bindingName imported
  let name ← bindingName name
  pure (if isType then none else some ⟨imported, name⟩)

def namedEntries : List (List Char) → Except Fault (List NamedSymbol)
  | [] => .ok []
  | chunk :: chunks =>
    match trim chunk with
    | [] => namedEntries chunks
    | chunk => do
      let entry ← namedEntry chunk
      let entries ← namedEntries chunks
      pure (entry.toList ++ entries)

def group (moduleName : String) (defaultName : Option String) (rest : List Char) :
    Except Fault Reference :=
  match rest with
  | '*' :: rest =>
    match afterWord? "as" (trimStart rest) with
    | none => .error .missingAs
    | some name => do
      let name ← bindingName (trim name)
      pure { moduleName, defaultName, namespaceName := some name }
  | '\x7b' :: rest =>
    match before? ['\x7d'] rest with
    | none => .error .unbalancedBraces
    | some inner =>
      if inner.contains '\x7b' || inner.contains '\x7d' then .error .unbalancedBraces
      else do
        let named ← namedEntries (splitAt (· == ',') inner)
        pure { moduleName, defaultName, named }
  | rest => .error (.unexpected rest)

/-- A clause: a default name, a group in braces or after `*`, or the one and then the other. -/
def ofClause (moduleName : String) (clause : List Char) : Except Fault Reference :=
  let clause := trim clause
  if startsWith ['\x7b'] clause || startsWith ['*'] clause then group moduleName none clause
  else do
    let name ← bindingName (trim (clause.takeWhile (· != ',')))
    match clause.dropWhile (· != ',') with
    | [] => pure { moduleName, defaultName := some name }
    | _ :: tail =>
      match trim tail with
      | [] => throw .danglingComma
      | tail => group moduleName (some name) tail

def splitTypeOnly (clause : List Char) : Bool × List Char :=
  match after? "type".toList clause with
  | some rest =>
    if rest.head?.any fun c => isBlank c || c == '\x7b' then (true, trimStart rest)
    else (false, clause)
  | none => (false, clause)

def ofStatement (statement : List Char) : Except Fault Reference :=
  match (whole effectImport).matchStart? statement with
  | some (module, _) => .ok { moduleName := String.ofList (trim module.text) }
  | none =>
    match (whole boundImport).matchStart? statement with
    | none => .error .notAnImport
    | some ((clause, module), _) => do
      let (typeOnly, clause) := splitTypeOnly (trim clause.text)
      let r ← ofClause (String.ofList (trim module.text)) clause
      pure { r with typeOnly }

def parse (statement : List Char) : Except Failure Reference :=
  (ofStatement statement).mapError fun fault =>
    .malformedReference (String.ofList (trim statement)) fault.message

end Reference
end PagePreview
