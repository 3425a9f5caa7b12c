import PagePreview.Number.Word
import PagePreview.Number.Reading
import PagePreview.Script.Str

/-! Values of a running script, the keys of properties, and the comparisons that need no object. -/

namespace PagePreview.Machine
open Script Number

inductive Value
  | undefined
  | null
  | bool (b : Bool)
  | number (x : Float)
  | bigint (n : Int)
  | string (s : Str)
  | symbol (id : Nat)
  | object (id : Nat)
  deriving Inhabited

inductive Key
  | text (name : Str)
  | symbol (id : Nat)
  | hidden (id : Nat)
  deriving DecidableEq, Hashable, Inhabited

namespace Key

def named (name : String) : Key := .text (.plain name)

def index? : Key → Option Nat
  | .text (.plain name) =>
    if name.isEmpty || 10 < name.utf8ByteSize then none
    else
      let digits := name.toList
      if !(digits.all fun c => '0' ≤ c && c ≤ '9') then none
      else if digits.head? == some '0' && digits.length > 1 then none
      else
        let n := ofDigits 10 digits
        if n < 4294967295 then some n else none
  | _ => none

def ofIndex (n : Nat) : Key := .text (.plain (toString n))

end Key

namespace Value

def ofNat (n : Nat) : Value := .number (Float.ofNat n)
def ofInt (n : Int) : Value := .number (Float.ofInt n)
def text (s : String) : Value := .string (.plain s)

def nan : Value := .number (0.0 / 0.0)

def isObject : Value → Bool
  | .object _ => true
  | _ => false

def isNullish : Value → Bool
  | .undefined | .null => true
  | _ => false

def isUndefined : Value → Bool
  | .undefined => true
  | _ => false

def isTrue : Value → Bool
  | .undefined | .null => false
  | .bool b => b
  | .number x => !(x == 0 || x.isNaN)
  | .bigint n => n != 0
  | .string s => !s.isEmpty
  | .symbol _ | .object _ => true

def same : Value → Value → Bool
  | .undefined, .undefined => true
  | .null, .null => true
  | .bool a, .bool b => a == b
  | .number x, .number y => x == y
  | .bigint m, .bigint n => m == n
  | .string s, .string t => s == t
  | .symbol i, .symbol j => i == j
  | .object i, .object j => i == j
  | _, _ => false

def sameZero : Value → Value → Bool
  | .number x, .number y => x == y || (x.isNaN && y.isNaN)
  | a, b => same a b

def identical : Value → Value → Bool
  | .number x, .number y => (x == y && (x != 0 || x.toBits == y.toBits)) || (x.isNaN && y.isNaN)
  | a, b => same a b

end Value

def numberText (x : Float) : String :=
  let n := x.toInt64
  if n.toFloat == x && x.abs < 9007199254740992.0 then toString n.toInt
  else scriptText x

def trimSpace (s : List Char) : List Char :=
  ((s.dropWhile Str.isSpace).reverse.dropWhile Str.isSpace).reverse

def isDecimal (c : Char) : Bool := '0' ≤ c && c ≤ '9'

def exponent? : List Char → Option (Int × List Char)
  | e :: rest =>
    if e == 'e' || e == 'E' then
      let (isNegative, rest) := match rest with
        | '-' :: r => (true, r)
        | '+' :: r => (false, r)
        | r => (false, r)
      let digits := rest.takeWhile isDecimal
      if digits.isEmpty then none
      else
        let n : Int := ofDigits 10 digits
        some (if isNegative then -n else n, rest.drop digits.length)
    else none
  | [] => none

def decimalStart? (s : List Char) : Option (Float × List Char) :=
  let whole := s.takeWhile isDecimal
  let rest := s.drop whole.length
  let (fraction, rest) := match rest with
    | '.' :: r =>
      let f := r.takeWhile isDecimal
      if whole.isEmpty && f.isEmpty then ([], rest) else (f, r.drop f.length)
    | r => ([], r)
  if whole.isEmpty && fraction.isEmpty then none
  else
    let digits := ofDigits 10 (whole ++ fraction)
    let (e, rest) := (exponent? rest).getD (0, rest)
    some (ofDecimal digits (e - fraction.length), rest)

/-- The longest decimal numeral with a sign, or the word for infinity, at the start of a text. -/
def signedStart? (s : List Char) : Option (Float × List Char) :=
  let (isNegative, s) := match s with
    | '-' :: r => (true, r)
    | '+' :: r => (false, r)
    | r => (false, r)
  let size := match s with
    | 'I' :: 'n' :: 'f' :: 'i' :: 'n' :: 'i' :: 't' :: 'y' :: rest => some ((1.0 / 0.0 : Float), rest)
    | s => decimalStart? s
  size.map fun (x, rest) => (if isNegative then -x else x, rest)

def numberOfText (s : Str) : Float :=
  let nan : Float := 0.0 / 0.0
  let based (base : Nat) (digits : List Char) : Float :=
    if digits.isEmpty || !(digits.all (isDigitIn base)) then nan else ofWhole (ofDigits base digits)
  match s with
  | .units _ => nan
  | .plain text =>
    match trimSpace text.toList with
    | [] => 0
    | '0' :: 'x' :: r | '0' :: 'X' :: r => based 16 r
    | '0' :: 'o' :: r | '0' :: 'O' :: r => based 8 r
    | '0' :: 'b' :: r | '0' :: 'B' :: r => based 2 r
    | s =>
      match signedStart? s with
      | some (x, []) => x
      | _ => nan

def bigintOfText? (s : Str) : Option Int :=
  let based (base : Nat) (digits : List Char) : Option Int :=
    if digits.isEmpty || !(digits.all (isDigitIn base)) then none else some (ofDigits base digits)
  match s with
  | .units _ => none
  | .plain text =>
    match trimSpace text.toList with
    | [] => some 0
    | '0' :: 'x' :: r | '0' :: 'X' :: r => based 16 r
    | '0' :: 'o' :: r | '0' :: 'O' :: r => based 8 r
    | '0' :: 'b' :: r | '0' :: 'B' :: r => based 2 r
    | '-' :: r => (based 10 r).map (-·)
    | '+' :: r => based 10 r
    | r => based 10 r

end PagePreview.Machine
