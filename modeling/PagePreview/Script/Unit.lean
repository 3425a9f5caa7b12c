import PagePreview.Script.Declared
import PagePreview.Script.Grammar
import PagePreview.Text.Blank

/-! Plain scripts: sources without types, markup and module clauses, as they are run. A complaint
about one names the token that does not fit and its place. -/

namespace PagePreview.Script

def lineAndColumn (source : List Char) (position : Nat) : Nat × Nat :=
  (source.take position).foldl (fun (line, column) c =>
    if Lexer.isLineBreak c then (line + 1, 1) else (line, column + 1)) (1, 1)

def lexicalMessage? (source : List Char) (f : Fault) : Option (String × Nat) :=
  let rest := source.drop f.position
  let at_ (message : String) : Option (String × Nat) := some (message, f.position)
  match f.message with
  | "Unterminated string" =>
    at_ (if rest.head? == some '\x60' then "unterminated template literal" else "unterminated string literal")
  | "Unterminated multiline comment" => at_ "unterminated multi-line comment"
  | "Unterminated regular expression" =>
    if rest.any Lexer.isLineBreak then at_ "new lines are not allowed in regular expressions" else at_ abrupt
  | "Invalid characters after number" =>
    let numeral := rest.takeWhile fun c => Text.isAsciiDigit c || c == '.'
    some ("a numeric literal must not be followed by an alphanumeric, $ or _ characters",
      f.position + numeral.length)
  | "Invalid Number" => at_ "invalid number"
  | "Invalid escape sequence" | "Invalid Unicode escape sequence" =>
    at_ "malformed Unicode character escape sequence"
  | _ => none
where
  abrupt : String := Grammar.abruptEnd

def strayMessage? (f : Fault) : Option String :=
  match f.message.splitOn "\x60" with
  | ["Invalid Character ", c, ""] => some ("unexpected '" ++ c ++ "'")
  | _ => none

def Fault.messageAt (source : List Char) (f : Fault) (placed : Nat → Nat × Nat) : String :=
  let located (message : String) (position : Nat) : String :=
    if message == Grammar.abruptEnd then message
    else
      let (line, column) := placed position
      message ++ " at line " ++ toString line ++ ", col " ++ toString column
  match lexicalMessage? source f, strayMessage? f with
  | some (message, position), _ => located message position
  | none, some message =>
    let (line, column) := placed f.position
    located (message ++ " at line " ++ toString line ++ ", column " ++ toString column) f.position
  | none, none => located f.message f.position

def plainDialect : Dialect := { markup := false, types := false, isModule := false, clauses := false }

/-- The statements of a plain script without comments and parentheses. In a script that is
evaluated where it stands, names and words may mean something around it. -/
def readPlain (isDirect : Bool) (source : String) : Except String (List Stmt) :=
  let chars := source.toList
  let fuel := chars.length + 2
  let (_, rest) := splitHashbang chars
  let first := Lexer.firstToken fuel rest (chars.length - rest.length)
  let depth := 8 * fuel
  let start : Grammar.State :=
    { dialect := plainDialect, fuel, token := first, lexerFaults := first.faults.reverse }
  let complaint (f : Fault) : String := f.messageAt chars (lineAndColumn chars)
  match Grammar.plainScript (Grammar.meet depth) isDirect start with
  | .ok body s =>
    match s.lexerFaults.getLast? with
    | none => .ok (Declared.bareBody depth body)
    | some f => .error (complaint f)
  | .error f s => .error (complaint (s.lexerFaults.getLastD f))

/-- A function read from the texts of its parameters and its body. What follows a brace that ends
the body too early is not read. -/
def readFunction (isAsync isGenerator : Bool) (params body : String) : Except String Expr :=
  let opening := (if isGenerator then "function*" else "function") ++ " anonymous("
  let part (text : String) (params body : String) (lines columns : Nat) : Except String Expr :=
    let chars := (opening ++ params ++ "\n) \x7b\n" ++ body ++ "\n\x7d").toList
    let fuel := chars.length + 2
    let start : Grammar.State :=
      { dialect := plainDialect, fuel, token := Lexer.firstToken fuel chars 0 }
    match Grammar.functionOf (Grammar.meet (8 * fuel)) isAsync false false start with
    | .ok e s =>
      match s.lexerFaults.getLast? with
      | none => .ok (Declared.bareExpr (8 * fuel) e)
      | some f => .error (complaint text chars f lines columns)
    | .error f s => .error (complaint text chars (s.lexerFaults.getLastD f) lines columns)
  let lines := (params.toList.filter Lexer.isLineBreak).length
  match part "parameters" params "" 0 opening.length with
  | .error m => .error m
  | .ok _ => part "body" params body (lines + 2) 0
where
  complaint (part : String) (chars : List Char) (f : Fault) (lines columns : Nat) : String :=
    let placed (position : Nat) : Nat × Nat :=
      let (line, column) := lineAndColumn chars position
      if position == 0 then (1, 1)
      else (line - lines, if line == 1 then column - columns else column)
    -- A body that does not go with the parameters.
    if part == "body" && f.position != 0 && (lineAndColumn chars f.position).1 ≤ lines then
      match f.message.splitOn "\x60" with
      | ["formal parameter ", name, _] => "Redeclaration of formal parameter \x60" ++ name ++ "\x60"
      | _ => f.message
    else "failed to parse function " ++ part ++ ": " ++ f.messageAt chars placed

end PagePreview.Script
