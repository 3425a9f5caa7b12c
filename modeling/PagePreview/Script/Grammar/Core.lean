import PagePreview.Script.Early
import PagePreview.Script.Scope
import PagePreview.Script.Token

/-! The machinery of the grammar. A rule reads tokens, can complain and go on, or give up. Rules
that need one another are named by goals; how a goal is met is a parameter of each rule, so the
grammar is tied together in one place, by recursion on a bound that no text meets. -/

namespace PagePreview.Script

structure Dialect where
  markup : Bool := true
  types : Bool := true
  isModule : Bool := true
  looseReturn : Bool := false
  clauses : Bool := true

namespace Grammar

structure Context where
  allowsIn : Bool := true
  inGenerator : Bool := false
  inAsync : Bool := false
  inFunction : Bool := false
  inDecorator : Bool := false
  isAmbient : Bool := false
  isStrict : Bool := false
  construct : String := "expression statement"
  allowsConditionalType : Bool := true

structure State where
  dialect : Dialect
  fuel : Nat
  token : Token
  context : Context := {}
  lastStop : Nat := 0
  lexerFaults : List Fault := []
  faults : List Fault := []
  notArrow : List Nat := []
  openDefaults : List (String × Nat) := []

abbrev Rule := EStateM Fault State

inductive Goal : Type → Type
  | expression : Goal Expr
  /-- An expression without commas; a return type may follow the parameters of an arrow function. -/
  | assignment (allowsResult : Bool) : Goal Expr
  | binary (bound : Nat) : Goal Expr
  | unary : Goal Expr
  | statement : Goal Stmt
  | pattern : Goal Expr
  | type : Goal TypeNode
  | element (isInner : Bool) : Goal Expr
  | functionBody : Goal (List Stmt)
  | function : Goal Expr

abbrev Meet := ∀ {α : Type}, Goal α → Rule α

def token : Rule Token := do return (← get).token

def setToken (t : Token) : Rule Unit := modify fun s =>
  { s with token := t, lexerFaults := t.faults.reverse ++ s.lexerFaults }

def advance : Rule Unit := do
  let s ← get
  set { s with lastStop := s.token.stop }
  setToken (Lexer.nextToken s.fuel s.token)

def following : Rule Token := do
  let s ← get
  return Lexer.nextToken s.fuel s.token

def Token.spells (t : Token) (text : String) : Bool :=
  t.text == text && (t.kind == .mark || (t.kind == .word && !t.escaped))

def at_ (text : String) : Rule Bool := do return Token.spells (← token) text

def atAny (texts : List String) : Rule Bool := do
  let t ← token
  return texts.any (Token.spells t)

def atKind (kind : TokenKind) : Rule Bool := do return (← token).kind == kind

def eat (text : String) : Rule Bool := do
  if ← at_ text then do advance; return true
  else return false

def dialect : Rule Dialect := do return (← get).dialect

/-- Whether the source is a plain script. The first complaint about one ends the reading, and it
names the token that does not fit. -/
def isPlain : Rule Bool := do return !(← dialect).types

def refuseAt {α : Type} (position : Nat) (message : String) : Rule α := throw ⟨message, position⟩

def abruptEnd : String := "abrupt end"

/-- Gives up at a token of a plain script; the lexer may have told why, and where the text ends
there is nothing to name. -/
def refuse {α : Type} (message : Token → String) : Rule α := do
  let s ← get
  match s.token.kind, s.lexerFaults with
  | .unknown, f :: fs => do set { s with lexerFaults := fs }; throw f
  | .eof, f :: fs => do set { s with lexerFaults := fs }; throw f
  | .eof, [] => refuseAt s.token.start abruptEnd
  | _, _ =>
    if Token.spells s.token "@" then throw (Lexer.strayCharacter '@' s.token.start)
    refuseAt s.token.start (message s.token)

def refuseToken {α : Type} (construct : String) : Rule α :=
  refuse fun t => "unexpected token '" ++ t.spelling ++ "', " ++ construct

def refuseFor {α : Type} (texts : List String) (construct : String) : Rule α :=
  refuse fun t =>
    let wanted := match texts with
      | [one] => "token '" ++ one ++ "'"
      | texts => "one of " ++ ", ".intercalate (texts.dropLast.map fun w => "'" ++ w ++ "'") ++
        " or '" ++ texts.getLastD "" ++ "'"
    "expected " ++ wanted ++ ", got '" ++ t.spelling ++ "' in " ++ construct

def giveUp {α : Type} (message : String) : Rule α := do
  if ← isPlain then refuseToken "primary expression" else throw ⟨message, (← token).start⟩

def complain (message : String) : Rule Unit := do
  if ← isPlain then giveUp message
  let t ← token
  modify fun s => { s with faults := ⟨message, t.start⟩ :: s.faults }

def unexpected {α : Type} : Rule α := do
  let s ← get
  match s.token.kind, s.lexerFaults with
  | .eof, f :: fs => do set { s with lexerFaults := fs }; throw f
  | .unknown, f :: fs => do set { s with lexerFaults := fs }; throw f
  | _, _ => giveUp "Unexpected token"

def knownWords : List String := [
  "await", "break", "case", "catch", "class", "const", "continue", "debugger", "default", "delete",
  "do", "else", "enum", "export", "extends", "finally", "for", "function", "if", "import", "in",
  "instanceof", "new", "return", "super", "switch", "this", "throw", "try", "typeof", "var", "void",
  "while", "with", "async", "from", "get", "meta", "of", "set", "target", "accessor", "abstract",
  "as", "asserts", "assert", "any", "bigint", "boolean", "constructor", "declare", "infer",
  "intrinsic", "is", "keyof", "module", "namespace", "never", "out", "readonly", "require", "number",
  "object", "satisfies", "string", "symbol", "type", "undefined", "unique", "using", "unknown",
  "global", "override", "source", "defer", "implements", "interface", "let", "package", "private",
  "protected", "public", "static", "yield", "true", "false", "null"]

def reservedWords : List String := [
  "break", "case", "catch", "class", "const", "continue", "debugger", "default", "delete", "do",
  "else", "enum", "export", "extends", "false", "finally", "for", "function", "if", "import", "in",
  "instanceof", "new", "null", "return", "super", "switch", "this", "throw", "true", "try", "typeof",
  "var", "void", "while", "with"]

def describe (t : Token) : String :=
  match t.kind with
  | .eof => "EOF"
  | .unknown => "Unknown"
  | .word => if knownWords.contains t.text && !t.escaped then t.text else "Identifier"
  | .privateName => "#identifier"
  | .number => if t.text.any fun c => c == '.' || c == 'e' then "float" else "decimal"
  | .bigint => "decimal"
  | .string => "string"
  | .template => if t.isTail then "$\x7b\x7d" else "$\x7b"
  | .regex => "/regexp/"
  | .jsxText => "jsx"
  | .mark => t.text

def expected {α : Type} (text : String) : Rule α := do
  if ← isPlain then return ← refuseFor [text] (← get).context.construct
  giveUp ("Expected \x60" ++ text ++ "\x60 but found \x60" ++ describe (← token) ++ "\x60")

def expect (text : String) : Rule Unit := do
  if ← at_ text then advance else expected text

def lookahead {α : Type} (m : Rule α) : Rule α := fun s =>
  match m s with
  | .ok a _ => .ok a s
  | .error e _ => .error e s

def foresee (m : Rule Bool) : Rule Bool := fun s =>
  match m s with
  | .ok b _ => .ok b s
  | .error _ _ => .ok false s

def attempt {α : Type} (m : Rule (Option α)) : Rule (Option α) := fun s =>
  match m s with
  | .ok (some a) s => .ok (some a) s
  | .ok none _ => .ok none s
  | .error _ _ => .ok none s

def within {α : Type} (change : Context → Context) (m : Rule α) : Rule α := do
  let old := (← get).context
  modify fun s => { s with context := change old }
  let a ← m
  modify fun s => { s with context := old }
  return a

def context : Rule Context := do return (← get).context

def reading {α : Type} (construct : String) (m : Rule α) : Rule α := within ({ · with construct }) m

def many {α : Type} (m : Rule (Option α)) : Rule (List α) := do
  let rec go : Nat → List α → Rule (List α)
    | 0, done => return done.reverse
    | fuel + 1, done => do
      match ← m with
      | some a => go fuel (a :: done)
      | none => return done.reverse
  go (← get).fuel []

/-- Items between marks; the closing one is left. Complaints about plain scripts expect the marks
in `wanted`. -/
def delimited {α : Type} (close separator : String) (m : Rule α)
    (wanted : List String := [separator, close]) : Rule (List α) := do
  let ends : Rule Bool := do
    let t ← token
    return Token.spells t close || t.kind == .eof || t.kind == .unknown
  let rec go : Nat → List α → Rule (List α)
    | 0, done => return done.reverse
    | fuel + 1, done => do
      let a ← m
      if ← ends then return (a :: done).reverse
      if !(← at_ separator) then
        if ← isPlain then return ← refuseFor wanted (← context).construct
        giveUp ("Expected \x60" ++ separator ++ "\x60 or \x60" ++ close ++ "\x60 but found \x60" ++
          describe (← token) ++ "\x60")
      advance
      if ← at_ close then return (a :: done).reverse
      go fuel (a :: done)
  if ← ends then return []
  go (← get).fuel []

def canEndStatement : Rule Bool := do
  let t ← token
  return Token.spells t ";" || Token.spells t "\x7d" || t.kind == .eof || t.afterBreak

def endStatement : Rule Unit := do
  if !(← canEndStatement) then
    if ← isPlain then refuseFor [";"] (← context).construct
    giveUp "Expected a semicolon or an implicit semicolon after a statement, but found none"
  let _ ← eat ";"

def anyWord : Rule String := do
  let t ← token
  if t.kind == .word then do advance; return t.text
  else unexpected

def isName (t : Token) : Bool :=
  t.kind == .word && !(reservedWords.contains t.text)

def atName : Rule Bool := do return isName (← token)

def refuseWord (t : Token) : Rule Unit := do
  let c ← context
  if t.text == "yield" && c.inGenerator then
    refuseToken "keyword \x60yield\x60 not allowed in this context"
  if t.text == "await" && c.inAsync then
    refuseToken "keyword \x60await\x60 not allowed in this context"
  if c.isStrict && strictWords.contains t.text then refuseToken "strict reserved word"

def strictNameComplaint (name : String) : String := "unexpected identifier '" ++ name ++ "' in strict mode"

def plainBindingName : Rule String := do
  let t ← token
  if !isName t then refuseFor ["identifier"] "identifier parsing"
  refuseWord t
  if (← context).isStrict && ["eval", "arguments"].contains t.text then
    refuseAt t.start (strictNameComplaint t.text)
  advance
  return t.text

def bindingName : Rule String := do
  if ← isPlain then return ← plainBindingName
  let t ← token
  if isName t then do
    let c ← context
    if t.text == "await" && (c.inAsync || (← dialect).isModule) then
      complain "Cannot use \x60await\x60 as an identifier in an async context"
    if t.text == "yield" && c.inGenerator then
      complain "Cannot use \x60yield\x60 as an identifier in a generator context"
    advance
    return t.text
  else if t.kind == .word then
    giveUp ("Identifier expected. '" ++ t.text ++ "' is a reserved word that cannot be used here.")
  else unexpected

def onSameLine (t : Token) : Bool := !t.afterBreak

def nextQuasi : Rule Token := do
  let s ← get
  if Token.spells s.token "\x7d" then
    let t := Lexer.asTemplate s.fuel s.token
    modify fun s => { s with lastStop := t.stop }
    setToken t
    let t ← token
    if t.kind == .template then do advance; return t
    else unexpected
  else expected "\x7d"

def quasi (t : Token) : Quasi := ⟨t.text, t.str, t.start⟩

/-- A template whose first piece is the current token; `value` reads what stands between pieces. -/
def templateParts {α : Type} (isTagged : Bool) (value : Rule α) : Rule (List Quasi × List α) := do
  let first ← token
  let check (t : Token) : Rule Unit := do
    if t.str.isNone && !isTagged then complain "Invalid escape sequence in template"
  check first
  advance
  let rec go : Nat → List Quasi → List α → Rule (List Quasi × List α)
    | 0, quasis, values => return (quasis.reverse, values.reverse)
    | fuel + 1, quasis, values => do
      let v ← value
      let t ← nextQuasi
      check t
      if t.isTail then return ((quasi t :: quasis).reverse, (v :: values).reverse)
      go fuel (quasi t :: quasis) (v :: values)
  if first.isTail then return ([quasi first], [])
  go (← get).fuel [quasi first] []

end Grammar
end PagePreview.Script
