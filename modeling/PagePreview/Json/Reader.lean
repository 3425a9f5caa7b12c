import PagePreview.JsxText
import PagePreview.Number.Reading
import PagePreview.Number.Shortest
import PagePreview.Text.Quoted

/-! Reading texts of JSON. A fault carries its place, a line and a count of bytes on it. -/

namespace PagePreview.Json
open Text

structure Input where
  ahead : List Char
  line : Nat := 1
  column : Nat := 0

def Input.peekPlace (i : Input) : Nat × Nat :=
  match i.ahead with
  | [] => (i.line, i.column)
  | '\n' :: _ => (i.line + 1, 0)
  | _ :: _ => (i.line, i.column + 1)

def Input.place (i : Input) : Nat × Nat := (i.line, i.column)

def Input.advance (i : Input) (c : Char) (rest : List Char) : Input :=
  if c = '\n' then ⟨rest, i.line + 1, 0⟩ else ⟨rest, i.line, i.column + c.utf8Size⟩

inductive Unexpected
  | null
  | boolean (value : Bool)
  | integer (value : Int)
  | float (value : Float)
  | string (value : List Char)
  | sequence
  | map

def Unexpected.describe : Unexpected → String
  | .null => "null"
  | .boolean value => "boolean `" ++ (if value then "true" else "false") ++ "`"
  | .integer value => "integer `" ++ toString value ++ "`"
  | .float value =>
    let sign := if Number.isNegativeBits value then "-" else ""
    "floating point `" ++ sign ++
      String.ofList (Number.settingLayout.writeMagnitude "0.0" value) ++ "`"
  | .string value => "string \"" ++ String.ofList (value.flatMap debugChar) ++ "\""
  | .sequence => "sequence"
  | .map => "map"
where
  debugChar (c : Char) : List Char :=
    if c = '\'' then [c]
    else if c = '\x00' then ['\\', '0']
    else if c.toNat < 32 && c != '\n' && c != '\r' && c != '\t' || c.toNat = 127 then
      ['\\', 'u', '\x7b'] ++ Nat.toDigits 16 c.toNat ++ ['\x7d']
    else quoteChar c

inductive Fault
  | endInList
  | endInObject
  | endInString
  | endInValue
  | expectedColon
  | expectedListEnd
  | expectedObjectEnd
  | expectedIdent
  | expectedValue
  | invalidEscape
  | invalidNumber
  | numberOutOfRange
  | tooDeep
  | controlCharacter
  | keyNotString
  | loneSurrogate
  | trailingComma
  | trailingCharacters
  | hexEscapeEnd
  | invalidType (found : Unexpected) (expected : String)
  | invalidValue (found : Unexpected) (expected : String)
  | unknownField (name : List Char) (known : List String)
  | duplicateField (name : String)

def Fault.message : Fault → String
  | .endInList => "EOF while parsing a list"
  | .endInObject => "EOF while parsing an object"
  | .endInString => "EOF while parsing a string"
  | .endInValue => "EOF while parsing a value"
  | .expectedColon => "expected `:`"
  | .expectedListEnd => "expected `,` or `]`"
  | .expectedObjectEnd => "expected `,` or `\x7d`"
  | .expectedIdent => "expected ident"
  | .expectedValue => "expected value"
  | .invalidEscape => "invalid escape"
  | .invalidNumber => "invalid number"
  | .numberOutOfRange => "number out of range"
  | .tooDeep => "recursion limit exceeded"
  | .controlCharacter =>
    "control character (\\u0000-\\u001F) found while parsing a string"
  | .keyNotString => "key must be a string"
  | .loneSurrogate => "lone leading surrogate in hex escape"
  | .trailingComma => "trailing comma"
  | .trailingCharacters => "trailing characters"
  | .hexEscapeEnd => "unexpected end of hex escape"
  | .invalidType found expected => "invalid type: " ++ found.describe ++ ", expected " ++ expected
  | .invalidValue found expected => "invalid value: " ++ found.describe ++ ", expected " ++ expected
  | .unknownField name known =>
    "unknown field `" ++ String.ofList name ++ "`, expected one of " ++
      ", ".intercalate (known.map fun f => "`" ++ f ++ "`")
  | .duplicateField name => "duplicate field `" ++ name ++ "`"

structure Complaint where
  fault : Fault
  place : Option (Nat × Nat)

def Complaint.message (c : Complaint) : String :=
  match c.place with
  | some (line, column) =>
    c.fault.message ++ " at line " ++ toString line ++ " column " ++ toString column
  | none => c.fault.message

abbrev Reader := EStateM Complaint Input

namespace Reader

def fail {α : Type} (fault : Fault) : Reader α := do throw ⟨fault, some (← get).place⟩

def failAhead {α : Type} (fault : Fault) : Reader α := do throw ⟨fault, some (← get).peekPlace⟩

def failUnplaced {α : Type} (fault : Fault) : Reader α := throw ⟨fault, none⟩

def placed {α : Type} (m : Reader α) : Reader α :=
  tryCatch m fun c => do throw ⟨c.fault, some (c.place.getD (← get).place)⟩

def peek : Reader (Option Char) := do return (← get).ahead.head?

def next : Reader (Option Char) := do
  let i ← get
  match i.ahead with
  | [] => return none
  | c :: rest =>
    set (i.advance c rest)
    return some c

def skip : Reader Unit := do let _ ← next

def isSpace (c : Char) : Bool := c == ' ' || c == '\n' || c == '\t' || c == '\r'

def skipWhile (test : Char → Bool) : List Char → Reader Unit
  | [] => pure ()
  | c :: s => if test c then do skip; skipWhile test s else pure ()

def peekValue : Reader (Option Char) := do
  skipWhile isSpace (← get).ahead
  peek

def hexUnit : Reader Nat := do
  match (← get).ahead with
  | a :: b :: c :: d :: _ =>
    if [a, b, c, d].all (·.toNat < 128) then do
      skip; skip; skip; skip
      if [a, b, c, d].all JsxText.isHexDigit then return JsxText.numeral 16 [a, b, c, d]
      else fail .invalidEscape
    else do
      -- A wide character spans several bytes of the four.
      skip; skip
      fail .invalidEscape
  | ahead =>
    skipWhile (fun _ => true) ahead
    fail .endInString

def someOr {α : Type} (fault : Fault) (m : Reader (Option α)) : Reader α := do
  match ← m with
  | some a => return a
  | none => fail fault

def unicodeEscape : Reader Char := do
  let n ← hexUnit
  if 0xDC00 ≤ n && n ≤ 0xDFFF then fail .loneSurrogate
  else if n < 0xD800 || 0xDBFF < n then return Char.ofNat n
  else do
    let c ← someOr .endInString peek
    skip
    if c != '\\' then fail .hexEscapeEnd
    let c ← someOr .endInString peek
    skip
    if c != 'u' then fail .hexEscapeEnd
    let low ← hexUnit
    if low < 0xDC00 || 0xDFFF < low then fail .loneSurrogate
    else return Char.ofNat (0x10000 + (n - 0xD800) * 0x400 + (low - 0xDC00))

def escape : Reader Char := do
  match ← someOr .endInString next with
  | '"' => return '"'
  | '\\' => return '\\'
  | '/' => return '/'
  | 'b' => return Char.ofNat 8
  | 'f' => return Char.ofNat 12
  | 'n' => return '\n'
  | 'r' => return '\r'
  | 't' => return '\t'
  | 'u' => unicodeEscape
  | _ => fail .invalidEscape

def stringRest : Nat → Reader (List Char)
  | 0 => fail .endInString
  | fuel + 1 => do
    match ← someOr .endInString next with
    | '"' => return []
    | '\\' => do
      let c ← escape
      return c :: (← stringRest fuel)
    | c =>
      if c.toNat < 32 then fail .controlCharacter else return c :: (← stringRest fuel)

def stringBody : Reader (List Char) := do stringRest ((← get).ahead.length + 1)

inductive Numeral
  | integer (value : Int)
  | float (value : Float)

def digitRun : Reader (List Char) := do
  let digits := (← get).ahead.takeWhile isAsciiDigit
  skipWhile isAsciiDigit digits
  return digits

def someDigits (atEnd other : Reader (List Char)) : Reader (List Char) := do
  match ← peek with
  | none => atEnd
  | some c => if isAsciiDigit c then digitRun else other

def fractionDigits : Reader (List Char) := do
  if (← peek) == some '.' then do
    skip
    someDigits (failAhead .endInValue) (failAhead .invalidNumber)
  else return []

def exponentValue : Reader (Option Int) := do
  let c ← peek
  if c == some 'e' || c == some 'E' then do
    skip
    let sign ← peek
    if sign == some '+' || sign == some '-' then skip
    let digits ← someDigits (fail .endInValue) (do skip; fail .invalidNumber)
    let size : Int := JsxText.numeral 10 digits
    return some (if sign == some '-' then -size else size)
  else return none

def numeral (positive : Bool) : Reader Numeral := do
  match ← peek with
  | none => fail .endInValue
  | some c =>
    if !isAsciiDigit c then do skip; fail .invalidNumber
    let whole ← if c == '0' then do
        skip
        if (← peek).any isAsciiDigit then failAhead .invalidNumber
        pure ['0']
      else digitRun
    let isWhole := !((← peek).any fun c => c == '.' || c == 'e' || c == 'E')
    let fraction ← fractionDigits
    let e ← exponentValue
    let size := JsxText.numeral 10 (whole ++ fraction)
    let float := Number.ofDecimal size (e.getD 0 - fraction.length)
    if float.isInf then fail .numberOutOfRange
    let signed := if positive then float else -float
    if !isWhole || Nat.pow 2 64 ≤ size then return .float signed
    else if positive then return .integer size
    else if size = 0 || Nat.pow 2 63 < size then return .float signed
    else return .integer (-(size : Int))

def Numeral.unexpected : Numeral → Unexpected
  | .integer n => .integer n
  | .float x => .float x

def wordRest : List Char → Reader Unit
  | [] => pure ()
  | c :: rest => do
    if (← someOr .endInValue next) == c then wordRest rest else fail .expectedIdent

def valueStart : Reader Char := do
  match ← peekValue with
  | some c => return c
  | none => failAhead .endInValue

def listGoesOn (isFirst : Bool) : Reader Bool := do
  match ← peekValue with
  | none => failAhead .endInList
  | some ']' => return false
  | some c =>
    if isFirst then return true
    else if c == ',' then do
      skip
      match ← peekValue with
      | some ']' => failAhead .trailingComma
      | some _ => return true
      | none => failAhead .endInValue
    else failAhead .expectedListEnd

def listEnd : Reader Unit := do
  match ← peekValue with
  | some ']' => skip
  | some ',' => do
    skip
    match ← peekValue with
    | some ']' => failAhead .trailingComma
    | _ => failAhead .trailingCharacters
  | some _ => failAhead .trailingCharacters
  | none => failAhead .endInList

def objectEnd : Reader Unit := do
  match ← peekValue with
  | some '\x7d' => skip
  | some ',' => failAhead .trailingComma
  | some _ => failAhead .trailingCharacters
  | none => failAhead .endInObject

/-- Runs `inner` and then `close`, also when `inner` complains; the first complaint counts. -/
def closing {α : Type} (inner : Reader α) (close : Reader Unit) : Reader α := placed do
  let result ← tryCatch (Except.ok <$> inner) fun c => pure (Except.error c)
  let closed ← tryCatch (Except.ok <$> close) fun c => pure (Except.error c)
  match result, closed with
  | .error c, _ => throw c
  | .ok _, .error c => throw c
  | .ok a, .ok _ => return a

def objectGoesOn (isFirst : Bool) : Reader Bool := do
  match ← peekValue with
  | none => failAhead .endInObject
  | some '\x7d' => return false
  | some c =>
    if isFirst then if c == '"' then return true else failAhead .keyNotString
    else if c == ',' then do
      skip
      match ← peekValue with
      | some '"' => return true
      | some '\x7d' => failAhead .trailingComma
      | some _ => failAhead .keyNotString
      | none => failAhead .endInValue
    else failAhead .expectedObjectEnd

def colon : Reader Unit := do
  match ← peekValue with
  | some ':' => skip
  | some _ => failAhead .expectedColon
  | none => failAhead .endInObject

end Reader

inductive Value
  | null
  | bool (value : Bool)
  | number (value : Float)
  | string (text : String)
  | list (items : List Value)
  | record (entries : List (String × Value))
  deriving Inhabited

def depthLimit : Nat := 127

namespace Reader

def Numeral.value : Numeral → Float
  | .integer n =>
    let x := Float.ofScientific n.natAbs false 0
    if n < 0 then -x else x
  | .float x => x

mutual

def value (depth : Nat) : Nat → Reader Value
  | 0 => failAhead .endInValue
  | fuel + 1 => do
    let c ← valueStart
    match c with
    | 'n' => do
      skip
      wordRest "ull".toList
      return .null
    | 't' => do
      skip
      wordRest "rue".toList
      return .bool true
    | 'f' => do
      skip
      wordRest "alse".toList
      return .bool false
    | '-' => do
      skip
      return .number (← numeral false).value
    | '"' => do
      skip
      return .string (String.ofList (← stringBody))
    | '[' =>
      match depth with
      | 0 => failAhead .tooDeep
      | depth + 1 => do
        skip
        return .list (← closing (items depth fuel true) listEnd)
    | '\x7b' =>
      match depth with
      | 0 => failAhead .tooDeep
      | depth + 1 => do
        skip
        return .record (← closing (entries depth fuel true) objectEnd)
    | c => if isAsciiDigit c then return .number (← numeral true).value else failAhead .expectedValue

def items (depth : Nat) : Nat → Bool → Reader (List Value)
  | 0, _ => return []
  | fuel + 1, isFirst => do
    if ← listGoesOn isFirst then
      let v ← value depth fuel
      return v :: (← items depth fuel false)
    else return []

def entries (depth : Nat) : Nat → Bool → Reader (List (String × Value))
  | 0, _ => return []
  | fuel + 1, isFirst => do
    if ← objectGoesOn isFirst then
      skip
      let key := String.ofList (← stringBody)
      colon
      let v ← value depth fuel
      return (key, v) :: (← entries depth fuel false)
    else return []

end

def whole {α : Type} (m : Reader α) : Reader α := do
  let a ← m
  match ← peekValue with
  | none => return a
  | some _ => failAhead .trailingCharacters

end Reader

def read {α : Type} (m : Reader α) (text : String) : Except String α :=
  match (Reader.whole m).run { ahead := text.toList } with
  | .ok a _ => .ok a
  | .error c _ => .error c.message

def Value.ofText (text : String) : Except String Value :=
  read (Reader.value depthLimit (2 * text.length + 2)) text

end PagePreview.Json
