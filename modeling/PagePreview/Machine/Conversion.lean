import PagePreview.Machine.Reading

/-! Conversions between kinds of values. -/

namespace PagePreview.Machine
open Script Number

def State.typeName (s : State) : Value → String
  | .undefined => "undefined"
  | .null => "object"
  | .bool _ => "boolean"
  | .number _ => "number"
  | .bigint _ => "bigint"
  | .string _ => "string"
  | .symbol _ => "symbol"
  | v@(.object _) => if s.isCallable v then "function" else "object"

inductive Hint
  | none | string | number
  deriving DecidableEq

def Hint.text : Hint → String
  | .none => "default"
  | .string => "string"
  | .number => "number"

def primitiveComplaint : String := "cannot convert object to primitive value"

def toPrimitive (hint : Hint) (v : Value) : Run Value := do
  match v with
  | .object id =>
    match ← methodOf? v .toPrimitive with
    | some f =>
      let r ← Run.call f v #[.text hint.text]
      if r.isObject then throwType "Symbol.toPrimitive cannot return an object"
      return r
    | none =>
      let names := if hint == .string then ["toString", "valueOf"] else ["valueOf", "toString"]
      for name in names do
        let f ← getOf id (.named name)
        if (← get).isCallable f then
          let r ← Run.call f v #[]
          if !r.isObject then return r
      throwType primitiveComplaint
  | v => return v

def primitiveText : Value → Run Str
  | .undefined => return "undefined"
  | .null => return "null"
  | .bool b => return .plain (if b then "true" else "false")
  | .number x => return .plain (numberText x)
  | .bigint n => return .plain (toString n)
  | .string s => return s
  | .symbol _ => throwType "can't convert symbol to string"
  | .object _ => throwType primitiveComplaint

def toText (v : Value) : Run Str := do
  match v with
  | .string s => return s
  | .object _ => primitiveText (← toPrimitive .string v)
  | v => primitiveText v

def primitiveNumber : Value → Run Float
  | .undefined => return 0.0 / 0.0
  | .null => return 0
  | .bool b => return if b then 1 else 0
  | .number x => return x
  | .string s => return numberOfText s
  | .bigint _ => throwType "argument must not be a bigint"
  | .symbol _ => throwType "argument must not be a symbol"
  | .object _ => throwType primitiveComplaint

def toNumber (v : Value) : Run Float := do
  match v with
  | .number x => return x
  | .object _ => primitiveNumber (← toPrimitive .number v)
  | v => primitiveNumber v

def bigintComplaint (what : String) : String := "cannot convert " ++ what ++ " to a BigInt"

def primitiveBigint : Value → Run Int
  | .bigint n => return n
  | .bool b => return if b then 1 else 0
  | .string s =>
    match bigintOfText? s with
    | some n => return n
    | none => raise .malformed ("cannot convert string '" ++ s.display ++ "' to bigint primitive")
  | .number _ => throwType (bigintComplaint "Number")
  | .null => throwType (bigintComplaint "null")
  | .undefined => throwType (bigintComplaint "undefined")
  | .symbol _ => throwType (bigintComplaint "Symbol")
  | .object _ => throwType primitiveComplaint

def toBigint (v : Value) : Run Int := do primitiveBigint (← toPrimitive .number v)

inductive Numeric
  | number (x : Float)
  | bigint (n : Int)

def Numeric.value : Numeric → Value
  | .number x => .number x
  | .bigint n => .bigint n

def toNumeric (v : Value) : Run Numeric := do
  match v with
  | .number x => return .number x
  | v =>
    match ← toPrimitive .number v with
    | .bigint n => return .bigint n
    | v => return .number (← primitiveNumber v)

def toKey (v : Value) : Run Key := do
  match v with
  | .string s => return .text s
  | .symbol id => return .symbol id
  | .object _ =>
    match ← toPrimitive .string v with
    | .symbol id => return .symbol id
    | v => return .text (← primitiveText v)
  | v => return .text (← primitiveText v)

def toObject (v : Value) : Run Nat := do
  let wrap (proto : Intrinsic) (kind : Kind) : Run Nat := allocate { proto := some proto.id, kind }
  match v with
  | .object id => return id
  | .undefined | .null => throwType nullishComplaint
  | .bool b => wrap .booleanPrototype (.bool b)
  | .number x => wrap .numberPrototype (.number x)
  | .bigint n => wrap .bigintPrototype (.bigint n)
  | .string s => wrap .stringPrototype (.string s)
  | .symbol id => wrap .symbolPrototype (.symbol id)

def wholePart (x : Float) : Float :=
  if x.isNaN then 0 else if x < 0 then x.ceil + 0.0 else x.floor

def toWhole (v : Value) : Run Float := return wholePart (← toNumber v)

def lengthOfFloat (x : Float) : Nat :=
  if x.isNaN || x ≤ 0 then 0
  else if 9007199254740991.0 ≤ x then 9007199254740991
  else x.toUInt64.toNat

def toLength (v : Value) : Run Nat := return lengthOfFloat (← toNumber v)

def lengthOf (id : Nat) : Run Nat := do
  match (← objectAt id).kind with
  | .array _ n _ => return n
  | .row view =>
    match ← ownProperty id .length with
    | none => return (← get).rowLength view
    | some _ => toLength (← getOf id .length)
  | _ => toLength (← getOf id .length)

def toIndex (v : Value) : Run Nat := do
  let x ← toWhole v
  if x < 0 then raise .range "Integer index must be >= 0"
  if 9007199254740991.0 < x then raise .range "Integer index must be less than 2**(53) - 1"
  return x.toUInt64.toNat

def toElement (e : Element) (v : Value) : Run Value := do
  if e.isBig then return .bigint (← toBigint v) else return .number (← toNumber v)

def clampIndex (x : Float) (n : Nat) : Nat :=
  if x < 0 then
    let y := x + Float.ofNat n
    if y < 0 then 0 else y.toUInt64.toNat
  else if Float.ofNat n < x then n
  else x.toUInt64.toNat

def indexArgument (v : Value) (n fallback : Nat) : Run Nat := do
  if v.isUndefined then return fallback
  return clampIndex (← toWhole v) n

end PagePreview.Machine
