import PagePreview.Machine.List
import PagePreview.Number.Fixed

/-! The functions and methods of numbers, truth values, symbols and big integers, the mathematical
functions, and the functions that stand alone. -/

namespace PagePreview.Machine.Builtin
open Script Run Number

def numberMethods : List (String × Nat) := [
  ("toExponential", 1), ("toFixed", 1), ("toLocaleString", 0), ("toPrecision", 1), ("toString", 1),
  ("valueOf", 0)]

def numberFunctions : List (String × Nat) := [
  ("isFinite", 1), ("isInteger", 1), ("isNaN", 1), ("isSafeInteger", 1)]

def mathFunctions : List (String × Nat) := [
  ("abs", 1), ("acos", 1), ("acosh", 1), ("asin", 1), ("asinh", 1), ("atan", 1), ("atan2", 2),
  ("atanh", 1), ("cbrt", 1), ("ceil", 1), ("clz32", 1), ("cos", 1), ("cosh", 1), ("exp", 1),
  ("expm1", 1), ("floor", 1), ("fround", 1), ("hypot", 2), ("imul", 2), ("log", 1), ("log10", 1),
  ("log1p", 1), ("log2", 1), ("max", 2), ("min", 2), ("pow", 2), ("random", 0), ("round", 1),
  ("sign", 1), ("sin", 1), ("sinh", 1), ("sqrt", 1), ("tan", 1), ("tanh", 1), ("trunc", 1)]

def globalFunctions : List (String × Nat) := [
  ("isFinite", 1), ("isNaN", 1), ("parseInt", 2), ("parseFloat", 1), ("encodeURI", 1),
  ("encodeURIComponent", 1), ("decodeURI", 1), ("decodeURIComponent", 1)]

def numberConstants : List (String × Float) := [
  ("EPSILON", 2.220446049250313e-16), ("MAX_SAFE_INTEGER", 9007199254740991),
  ("MIN_SAFE_INTEGER", -9007199254740991), ("MAX_VALUE", 1.7976931348623157e308),
  ("MIN_VALUE", 5e-324), ("NEGATIVE_INFINITY", -1.0 / 0.0), ("POSITIVE_INFINITY", 1.0 / 0.0),
  ("NaN", 0.0 / 0.0)]

def mathConstants : List (String × Float) := [
  ("E", 2.718281828459045), ("LN10", 2.302585092994046), ("LN2", 0.6931471805599453),
  ("LOG10E", 0.4342944819032518), ("LOG2E", 1.4426950408889634), ("PI", 3.141592653589793),
  ("SQRT1_2", 0.7071067811865476), ("SQRT2", 1.4142135623730951)]

def numberOf (this : Value) : Run Float := do
  match this with
  | .number x => return x
  | .object id =>
    match (← objectAt id).kind with
    | .number x => return x
    | _ => throwType "'this' is not a number"
  | _ => throwType "'this' is not a number"

def signed (x : Float) (size : String) : Value := .text (if x < 0 then "-" ++ size else size)

def numberMethod (name : String) (this : Value) (args : Array Value) : Run Value := do
  let x ← numberOf this
  let first := argument args 0
  let isFinite := !(x.isNaN || x.isInf)
  match name with
  | "valueOf" => return .number x
  | "toLocaleString" => return .text (numberText x)
  | "toString" => do
    let base ← if first.isUndefined then pure 10.0 else toWhole first
    if base < 2 || 36 < base then
      raise .range "radix must be an integer at least 2 and no greater than 36"
    if base == 10 || !isFinite then return .text (numberText x)
    return signed x (baseText base.toUInt64.toNat x)
  | "toFixed" => do
    let places ← toWhole first
    if places < 0 || 100 < places then
      raise .range "toFixed() digits argument must be between 0 and 100"
    if !isFinite || 1e21 ≤ x then return .text (numberText x)
    return signed x (fixedText x places.toUInt64.toNat)
  | "toExponential" => do
    let places ← toWhole first
    if !isFinite then return .text (numberText x)
    if places < 0 || 100 < places then
      raise .range "toExponential() argument must be between 0 and 100"
    return signed x (exponentText x (if first.isUndefined then none else some places.toUInt64.toNat))
  | _ => do
    if first.isUndefined then return .text (numberText x)
    let count ← toWhole first
    if !isFinite then return .text (numberText x)
    if count < 1 || 100 < count then
      raise .range "precision must be an integer at least 1 and no greater than 100"
    return signed x (precisionText x count.toUInt64.toNat)

def isWhole (x : Float) : Bool := !(x.isNaN || x.isInf) && x == x.floor

def wrapped (newTarget : Option Nat) (fallback : Intrinsic) (v : Value) (kind : Kind) : Run Value := do
  match newTarget with
  | none => return v
  | some t =>
    let proto ← match ← getOf t .prototype with
      | .object p => pure p
      | _ => pure fallback.id
    return .object (← allocate { proto := some proto, kind })

def numberFunction (name : String) (args : Array Value) (newTarget : Option Nat) : Run Value := do
  let ask (test : Float → Bool) : Value := match argument args 0 with
    | .number x => .bool (test x)
    | _ => .bool false
  match name with
  | "isFinite" => return ask fun x => !(x.isNaN || x.isInf)
  | "isNaN" => return ask Float.isNaN
  | "isInteger" => return ask isWhole
  | "isSafeInteger" => return ask fun x => isWhole x && x.abs ≤ 9007199254740991
  | _ => do
    let x ← if args.isEmpty then pure 0
      else match ← toNumeric (argument args 0) with
        | .number x => pure x
        | .bigint n => pure (Float.ofInt n)
    wrapped newTarget .numberPrototype (.number x) (.number x)

def booleanMethods : List (String × Nat) := [("toString", 0), ("valueOf", 0)]

def booleanMethod (name : String) (this : Value) : Run Value := do
  let b ← match this with
    | .bool b => pure b
    | .object id => match (← objectAt id).kind with
      | .bool b => pure b
      | _ => throwType "'this' is not a boolean"
    | _ => throwType "'this' is not a boolean"
  if name == "valueOf" then return .bool b else return .text (if b then "true" else "false")

def symbolMethods : List (String × Nat) := [("toString", 0), ("valueOf", 0), ("[Symbol.toPrimitive]", 1)]
def symbolFunctions : List (String × Nat) := [("for", 1), ("keyFor", 1)]

def symbolOf (this : Value) : Run Nat := do
  match this with
  | .symbol id => return id
  | .object id => match (← objectAt id).kind with
    | .symbol id => return id
    | _ => throwType "'this' is not a Symbol"
  | _ => throwType "'this' is not a Symbol"

def symbolMethod (name : String) (this : Value) : Run Value := do
  let id ← symbolOf this
  let d := ((← get).symbols[id]?).bind (·.description)
  match name with
  | "toString" => return .string ("Symbol(" ++ d.getD .empty ++ ")")
  | "get description" => return (d.map Value.string).getD .undefined
  | _ => return .symbol id

def symbolFunction (name : String) (args : Array Value) (newTarget : Option Nat) : Run Value := do
  let first := argument args 0
  match name with
  | "for" => do
    let key ← toText first
    let isIt (i : SymbolInfo) : Bool := i.isShared && i.description == some key
    match (← get).symbols.findIdx? isIt with
    | some id => return .symbol id
    | none => return .symbol (← newSymbol (some key) true)
  | "keyFor" => do
    let .symbol id := first | throwType "Symbol.keyFor: sym is not a symbol"
    match (← get).symbols[id]? with
    | some { description := some d, isShared := true } => return .string d
    | _ => return .undefined
  | _ => do
    if newTarget.isSome then throwType "Symbol is not a constructor"
    let d ← if first.isUndefined then pure none else some <$> toText first
    return .symbol (← newSymbol d)

def bigintMethods : List (String × Nat) := [("toLocaleString", 0), ("toString", 0), ("valueOf", 0)]
def bigintFunctions : List (String × Nat) := [("asIntN", 2), ("asUintN", 2)]

def bigintMethod (name : String) (this : Value) (args : Array Value) : Run Value := do
  let n ← match this with
    | .bigint n => pure n
    | .object id => match (← objectAt id).kind with
      | .bigint n => pure n
      | _ => throwType "'this' is not a BigInt"
    | _ => throwType "'this' is not a BigInt"
  match name with
  | "valueOf" => return .bigint n
  | _ => do
    let first := argument args 0
    let base ← if first.isUndefined || name == "toLocaleString" then pure 10.0 else toWhole first
    if base < 2 || 36 < base then
      raise .range "radix must be an integer at least 2 and no greater than 36"
    let size := wholeText base.toUInt64.toNat n.natAbs
    return .text (if n < 0 then "-" ++ size else size)

def madeBigint (v : Value) : Run Int := do
  match ← toPrimitive .number v with
  | .number x =>
    if isWhole x then return (truncated? x).getD 0
    else raise .range (bigintComplaint (numberText x))
  | v => primitiveBigint v

def bigintFunction (name : String) (args : Array Value) (newTarget : Option Nat) : Run Value := do
  match name with
  | "asIntN" | "asUintN" => do
    let bits ← toIndex (argument args 0)
    let n ← toBigint (argument args 1)
    let r := n % Int.pow 2 bits
    return .bigint (if name == "asIntN" && 0 < bits && Int.pow 2 (bits - 1) ≤ r then r - Int.pow 2 bits
      else r)
  | _ => do
    if newTarget.isSome then throwType "BigInt is not a constructor"
    return .bigint (← madeBigint (argument args 0))

def roundHalfUp (x : Float) : Float :=
  if x.isNaN || x.isInf || x == x.floor then x
  else if x < 0 && -0.5 ≤ x then -0.0
  else
    let f := x.floor
    if x - f ≥ 0.5 then f + 1 else f

def extreme (isMax : Bool) (x y : Float) : Float :=
  if x.isNaN || y.isNaN then 0.0 / 0.0
  else if x == 0 && y == 0 then
    if isMax then (if isNegativeBits x then y else x) else (if isNegativeBits x then x else y)
  else if isMax then (if x < y then y else x) else (if y < x then y else x)

def mathOne (name : String) (x : Float) : Float :=
  match name with
  | "abs" => x.abs
  | "acos" => x.acos
  | "acosh" => areaCosine x
  | "asin" => x.asin
  | "asinh" => areaSine x
  | "atan" => x.atan
  | "atanh" => areaTangent x
  | "cbrt" => cubeRoot x
  | "ceil" => x.ceil
  | "clz32" => let n := toWord x; Float.ofNat (if n == 0 then 32 else 31 - n.log2)
  | "cos" => x.cos
  | "cosh" => x.cosh
  | "exp" => x.exp
  | "expm1" => expMinusOne x
  | "floor" => x.floor
  | "fround" => x.toFloat32.toFloat
  | "log" => x.log
  | "log10" => x.log10
  | "log1p" => logOnePlus x
  | "log2" => x.log2
  | "round" => roundHalfUp x
  | "sign" => if x.isNaN || x == 0 then x else if x < 0 then -1 else 1
  | "sin" => x.sin
  | "sinh" => x.sinh
  | "sqrt" => x.sqrt
  | "tan" => x.tan
  | "tanh" => x.tanh
  | "trunc" => if x < 0 then x.ceil else x.floor
  | _ => x

def mathFunction (name : String) (args : Array Value) : Run Value := do
  let number (i : Nat) : Run Float := toNumber (argument args i)
  match name with
  | "max" | "min" => do
    let isMax := name == "max"
    let mut out : Float := if isMax then -1.0 / 0.0 else 1.0 / 0.0
    for v in args do
      out := extreme isMax out (← toNumber v)
    return .number out
  | "hypot" => do
    let mut length : Float := 0
    for v in args do
      length := hypotenuse length (← toNumber v)
    return .number length
  | "atan2" => do
    let y ← number 0
    return .number (Float.atan2 y (← number 1))
  | "pow" => do
    let x ← number 0
    return .number (powerOf x (← number 1))
  | "imul" => do
    let x ← number 0
    return .number (ofWord (toWord x * toWord (← number 1)))
  | "random" => return .number 0.5
  | _ => return .number (mathOne name (← number 0))

def parseWhole (s : Str) (radix : Nat) : Float :=
  let chars := (s.display.toList).dropWhile Str.isSpace
  let (isNegative, chars) := match chars with
    | '-' :: r => (true, r)
    | '+' :: r => (false, r)
    | r => (false, r)
  let (radix, chars) := match chars, radix == 0 || radix == 16 with
    | '0' :: 'x' :: r, true => (16, r)
    | '0' :: 'X' :: r, true => (16, r)
    | r, _ => (if radix == 0 then 10 else radix, r)
  if radix < 2 || 36 < radix then 0.0 / 0.0
  else
    let digits := chars.takeWhile (isDigitIn radix)
    if digits.isEmpty then 0.0 / 0.0
    else
      let x := ofWhole (ofDigits radix digits)
      if isNegative then -x else x

def isUnreserved (c : Char) : Bool :=
  ('a' ≤ c && c ≤ 'z') || ('A' ≤ c && c ≤ 'Z') || ('0' ≤ c && c ≤ '9') || "-_.!~*'()".contains c

def isReserved (c : Char) : Bool := ";/?:@&=+$,#".contains c

def percentByte (b : UInt8) : List Char :=
  ['%', Str.hexDigit (b.toNat / 16), Str.hexDigit (b.toNat % 16)]

def percentEncode (keeps : Char → Bool) (s : String) : String :=
  String.ofList (s.toList.flatMap fun c =>
    if keeps c then [c] else (String.singleton c).toUTF8.toList.flatMap percentByte)

inductive PercentError
  | shortEscape | badDigit | badEscape | shortCharacter | noSign | badBytes

def PercentError.message : PercentError → String
  | .shortEscape => "invalid escape character found"
  | .badDigit => "invalid hexadecimal digit found"
  | .badEscape => "invalid escaped character found"
  | .shortCharacter => "non-terminated escape character found"
  | .noSign => "escape characters must be preceded with a % sign"
  | .badBytes => "invalid UTF-8 encoding found"

def percentedByte : List Char → Except PercentError (Nat × List Char)
  | '%' :: a :: b :: rest =>
    if isDigitIn 16 a && isDigitIn 16 b then .ok (ofDigits 16 [a, b], rest) else .error .badDigit
  | _ => .error .noSign

def characterSize (first : Nat) : Nat :=
  if first < 0x80 then 0 else if first < 0xC0 then 1 else if first < 0xE0 then 2
  else if first < 0xF0 then 3 else if first < 0xF8 then 4 else 5

def percentedBytes : Nat → List Char → Except PercentError (List Nat × List Char)
  | 0, rest => .ok ([], rest)
  | n + 1, rest => do
    let (b, rest) ← percentedByte rest
    let (bs, rest) ← percentedBytes n rest
    return (b :: bs, rest)

def percentedCharacter (keeps : Char → Bool) (s : List Char) :
    Except PercentError (List Char × List Char) := do
  match s with
  | [] => return ([], [])
  | '%' :: rest =>
    if rest.length < 2 then throw .shortEscape
    let (first, behind) ← percentedByte s
    let size := characterSize first
    if size == 0 then
      let c := Char.ofNat first
      return (if keeps c then s.take 3 else [c], behind)
    if size == 1 || 4 < size then throw .badEscape
    if behind.length < 3 * (size - 1) then throw .shortCharacter
    let (more, behind) ← percentedBytes (size - 1) behind
    match String.fromUTF8? ⟨((first :: more).map Nat.toUInt8).toArray⟩ with
    | some text => return (text.toList, behind)
    | none => throw .badBytes
  | c :: rest => return ([c], rest)

def percentDecode (keeps : Char → Bool) : Nat → List Char → Except PercentError (List Char)
  | 0, _ => .ok []
  | _, [] => .ok []
  | fuel + 1, s => do
    let (cs, rest) ← percentedCharacter keeps s
    return cs ++ (← percentDecode keeps fuel rest)

def globalFunction (name : String) (args : Array Value) : Run Value := do
  let first := argument args 0
  match name with
  | "isNaN" => return .bool (← toNumber first).isNaN
  | "isFinite" => do
    let x ← toNumber first
    return .bool (!(x.isNaN || x.isInf))
  | "parseInt" => do
    let s ← toText first
    let radix := toSignedWord (← toNumber (argument args 1))
    return if radix < 0 then .nan else .number (parseWhole s radix.toNat)
  | "parseFloat" => do
    let chars := ((← toText first).display.toList).dropWhile Str.isSpace
    return ((signedStart? chars).map fun (x, _) => Value.number x).getD .nan
  | "eval" =>
    match first with
    | .string text => return valueOf (← perform (.source none text.display))
    | v => return v
  | "encodeURIComponent" | "encodeURI" => do
    let keeps (c : Char) : Bool := isUnreserved c || (name == "encodeURI" && isReserved c)
    match ← toText first with
    | .plain s => return .text (percentEncode keeps s)
    | .units _ => raise .uri "trying to encode an invalid string"
  | "decodeURIComponent" | "decodeURI" => do
    let keeps (c : Char) : Bool := name == "decodeURI" && isReserved c
    let chars := (← toText first).display.toList
    match percentDecode keeps (chars.length + 1) chars with
    | .ok cs => return .text (String.ofList cs)
    | .error e => raise .uri e.message
  | _ => return .undefined

end PagePreview.Machine.Builtin
