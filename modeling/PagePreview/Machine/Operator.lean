import PagePreview.Machine.Access
import PagePreview.Number.Elementary

/-! New lists and records, and the operators. -/

namespace PagePreview.Machine
open Script Number

def newList (vs : Array Value) : Run Nat :=
  allocate { proto := some Intrinsic.arrayPrototype.id, kind := .array (vs.map some) vs.size false }

def newListValue (vs : Array Value) : Run Value := return .object (← newList vs)

def newPlain : Run Nat := allocate { proto := some Intrinsic.objectPrototype.id }

def newRecord (entries : List (String × Value)) : Run Value := do
  let id ← allocate { proto := some Intrinsic.objectPrototype.id
                      properties := .ofList (entries.map fun (k, v) => (.named k, .plain v)) }
  return .object id

def listValues (id : Nat) : Run (Array Value) := do
  let o ← objectAt id
  match o.kind, o.properties.slots.isEmpty with
  | .array es n _, true =>
    if es.size == n && es.all Option.isSome then return es.map (·.getD .undefined)
  | _, _ => pure ()
  let n ← lengthOf id
  let mut out := #[]
  for i in [0:n] do
    out := out.push (← getOf id (.ofIndex i))
  return out

def mixComplaint : String := "cannot mix BigInt and other types, use explicit conversions"

def arithmetic (f : Float → Float → Float) (g : Int → Int → Run Int) (a b : Value) : Run Value := do
  match a, b with
  | .number x, .number y => return .number (f x y)
  | a, b =>
    let m ← toNumeric a
    let n ← toNumeric b
    match m, n with
    | .number x, .number y => return .number (f x y)
    | .bigint x, .bigint y => return .bigint (← g x y)
    | _, _ => throwType mixComplaint

def add (a b : Value) : Run Value := do
  match a, b with
  | .number x, .number y => return .number (x + y)
  | .string s, .string t => return .string (s ++ t)
  | a, b =>
    let a ← toPrimitive .none a
    let b ← toPrimitive .none b
    match a, b with
    | .string s, b => return .string (s ++ (← primitiveText b))
    | a, .string t => return .string ((← primitiveText a) ++ t)
    | a, b => arithmetic (· + ·) (fun x y => return x + y) a b

def divideWhole (m n : Int) : Run Int :=
  if n == 0 then raise .range "BigInt division by zero" else return Int.tdiv m n

def remainderWhole (m n : Int) : Run Int :=
  if n == 0 then raise .range "BigInt division by zero" else return Int.tmod m n

def powerWhole (m n : Int) : Run Int :=
  if n < 0 then raise .range "BigInt negative exponent" else return Int.pow m n.toNat

def bitsOf (f : Bool → Bool → Bool) : Nat → Int → Int → Int
  | 0, m, n => if f (m < 0) (n < 0) then -1 else 0
  | size + 1, m, n =>
    let bit := if f (m % 2 == 1) (n % 2 == 1) then 1 else 0
    2 * bitsOf f size (Int.fdiv m 2) (Int.fdiv n 2) + bit

def bitwiseWhole (f : Bool → Bool → Bool) (m n : Int) : Run Int :=
  return bitsOf f (max m.natAbs.log2 n.natAbs.log2 + 2) m n

def shiftWhole (m n : Int) : Int :=
  if n < 0 then Int.fdiv m (Int.pow 2 n.natAbs) else m * Int.pow 2 n.toNat

def lessPrimitive? (a b : Value) : Run (Option Bool) := do
  let compare (x y : Float) : Option Bool := if x.isNaN || y.isNaN then none else some (x < y)
  /- A big integer against a number: the number's fraction decides between neighbours. -/
  let below (n : Int) (x : Float) : Option Bool :=
    if x.isNaN then none
    else if x.isInf then some (0 < x)
    else
      let t := (truncated? x).getD 0
      let f := x - Number.ofInt t
      some (n < t || (n == t && 0 < f))
  let above (x : Float) (n : Int) : Option Bool :=
    if x.isNaN then none
    else if x.isInf then some (x < 0)
    else
      let t := (truncated? x).getD 0
      let f := x - Number.ofInt t
      some (t < n || (t == n && f < 0))
  match a, b with
  | .number x, .number y => return compare x y
  | .string s, .string t => return some (s.less t)
  | .bigint m, .bigint n => return some (m < n)
  | .bigint m, .string t => return (bigintOfText? t).map (m < ·)
  | .string s, .bigint n => return (bigintOfText? s).map (· < n)
  | .bigint m, b => return below m (← primitiveNumber b)
  | a, .bigint n => return above (← primitiveNumber a) n
  | a, b =>
    let x ← primitiveNumber a
    return compare x (← primitiveNumber b)

def order (swap : Bool) (whenUnknown negate : Bool) (a b : Value) : Run Value := do
  let a ← toPrimitive .number a
  let b ← toPrimitive .number b
  let r ← if swap then lessPrimitive? b a else lessPrimitive? a b
  match r with
  | none => return .bool whenUnknown
  | some r => return .bool (if negate then !r else r)

def equalsWhole (n : Int) (x : Float) : Bool :=
  match truncated? x with
  | some t => t == n && x == x.floor
  | none => false

def looselyEqualPrimitive : Value → Value → Bool
  | .undefined, .null | .null, .undefined => true
  | .undefined, _ | .null, _ => false
  | _, .undefined | _, .null => false
  | .bigint n, .number x => equalsWhole n x
  | .number x, .bigint n => equalsWhole n x
  | .bigint n, .string s => bigintOfText? s == some n
  | .string s, .bigint n => bigintOfText? s == some n
  | .bigint n, .bool b => n == if b then 1 else 0
  | .bool b, .bigint n => n == if b then 1 else 0
  | .symbol _, _ => false
  | _, .symbol _ => false
  | a, b =>
    let number : Value → Float
      | .number x => x
      | .string s => numberOfText s
      | .bool b => if b then 1 else 0
      | _ => 0.0 / 0.0
    number a == number b

def looselyEqual (a b : Value) : Run Bool := do
  match a, b with
  | .number _, .number _ | .string _, .string _ | .bool _, .bool _ | .object _, .object _
  | .symbol _, .symbol _ | .bigint _, .bigint _ | .undefined, .undefined | .null, .null =>
    return a.same b
  | .object _, .undefined | .object _, .null | .undefined, .object _ | .null, .object _ => return false
  | .object _, b => return looselyEqualSame (← toPrimitive .none a) b
  | a, .object _ => return looselyEqualSame a (← toPrimitive .none b)
  | a, b => return looselyEqualPrimitive a b
where
  looselyEqualSame (a b : Value) : Bool :=
    match a, b with
    | .string s, .string t => s == t
    | .symbol i, .symbol j => i == j
    | .bigint m, .bigint n => m == n
    | a, b => looselyEqualPrimitive a b

def hasPrototype (fuel : Nat) (target : Nat) (id : Nat) : Run Bool :=
  match fuel with
  | 0 => return false
  | fuel + 1 => do
    match ← prototypeOf id with
    | none => return false
    | some p => if p == target then return true else hasPrototype fuel target p

def isInstance (v f : Value) : Run Bool := do
  let s ← get
  let rec unbind : Nat → Value → Value
    | fuel + 1, .object id => match (s.object id).kind with
      | .bound target .. => unbind fuel target
      | _ => .object id
    | _, f => f
  match unbind s.objects.size f, v with
  | .object g, .object id =>
    match ← getOf g .prototype with
    | .object p => hasPrototype (s.objects.size + 1) p id
    | _ => throwType "function has non-object prototype in instanceof check"
  | _, _ => return false

def instanceOf (v f : Value) : Run Bool := do
  let s ← get
  if !f.isObject then
    throwType ("right-hand side of 'instanceof' should be an object, got \x60" ++ s.typeName f ++ "\x60")
  match ← methodOf? f .hasInstance with
  | some test => return (← Run.call test f #[v]).isTrue
  | none =>
    if !s.isCallable f then throwType "right-hand side of 'instanceof' is not callable"
    isInstance v f

def binary (op : BinaryOp) (a b : Value) : Run Value := do
  match op with
  | .add => add a b
  | .sub => arithmetic (· - ·) (fun x y => return x - y) a b
  | .mul => arithmetic (· * ·) (fun x y => return x * y) a b
  | .div => arithmetic (· / ·) divideWhole a b
  | .rem => arithmetic Number.remainder remainderWhole a b
  | .pow => arithmetic Number.powerOf powerWhole a b
  | .bitAnd => arithmetic Number.bitAnd (bitwiseWhole (· && ·)) a b
  | .bitOr => arithmetic Number.bitOr (bitwiseWhole (· || ·)) a b
  | .bitXor => arithmetic Number.bitXor (bitwiseWhole (· != ·)) a b
  | .shiftLeft => arithmetic Number.shiftLeft (fun m n => return shiftWhole m n) a b
  | .shiftRight => arithmetic Number.shiftRight (fun m n => return shiftWhole m (-n)) a b
  | .shiftRightZero =>
    arithmetic Number.shiftRightZero
      (fun _ _ => throwType "BigInts have no unsigned right shift, use >> instead") a b
  | .less =>
    match a, b with
    | .number x, .number y => return .bool (x < y)
    | a, b => order false false false a b
  | .greater => order true false false a b
  | .lessEqual => order true false true a b
  | .greaterEqual => order false false true a b
  | .same => return .bool (a.same b)
  | .notSame => return .bool (!a.same b)
  | .equal => return .bool (← looselyEqual a b)
  | .notEqual => return .bool (!(← looselyEqual a b))
  | .instanceOf => return .bool (← instanceOf a b)
  | .isIn =>
    match b with
    | .object id => return .bool (← hasProperty id (← toKey a))
    | b =>
      throwType ("right-hand side of 'in' should be an object, got \x60" ++ (← get).typeName b ++ "\x60")

end PagePreview.Machine
