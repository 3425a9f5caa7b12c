import PagePreview.Machine.Iterate

/-! Lists by their places: reading, writing and adding elements, with short ways for lists that hold
nothing but elements; and values in order. A few of these are put in one by one, each moved in front of
those that it is smaller than; many are sorted in halves that are merged. Both keep the order of equal
values. -/

namespace PagePreview.Machine
open Script

def argument (args : Array Value) (i : Nat) : Value := args.getD i .undefined

def State.element? (s : State) (id i : Nat) : Option Value :=
  match (s.object id).kind with
  | .array es _ _ => es[i]?.join
  | _ => none

def getAt (id i : Nat) : Run Value := do
  match (← get).element? id i with
  | some v => return v
  | none => getOf id (.ofIndex i)

def hasAt (id i : Nat) : Run Bool := do
  if ((← get).element? id i).isSome then return true
  hasProperty id (.ofIndex i)

def State.canPush (s : State) (id i : Nat) : Bool :=
  let o := s.object id
  match o.kind with
  | .array es n isFixed =>
    i == es.size && i ≤ n && !isFixed && o.isExtensible && o.properties.slots.isEmpty
  | _ => false

def Object.pushElement (o : Object) (v : Value) : Object :=
  match o with
  | ⟨proto, .array es n isFixed, ps, ext⟩ =>
    let n := max n (es.size + 1)
    ⟨proto, .array (es.push (some v)) n isFixed, ps, ext⟩
  | o => o

def Object.putElement (o : Object) (i : Nat) (v : Value) : Object :=
  match o with
  | ⟨proto, .array es n isFixed, ps, ext⟩ => ⟨proto, .array (es.set! i (some v)) n isFixed, ps, ext⟩
  | o => o

def setAt (id i : Nat) (v : Value) : Run Unit := do
  let s ← get
  let isThere := (s.element? id i).isSome
  let canPush := s.canPush id i
  if isThere then updateObject id (·.putElement i v)
  else if canPush then updateObject id (·.pushElement v)
  else setValue true (.object id) (.ofIndex i) v

def createAt (id i : Nat) (v : Value) : Run Unit := do
  let canPush := (← get).canPush id i
  if canPush then updateObject id (·.pushElement v) else createProperty id (.ofIndex i) v

def mustDelete (id : Nat) (k : Key) : Run Unit := do
  if !(← deleteProperty id k) then throwType ("cannot delete property: " ++ (← keyShown k))

def deleteAt (id i : Nat) : Run Unit := mustDelete id (.ofIndex i)

def State.isPlainList (s : State) (id : Nat) : Bool :=
  let o := s.object id
  match o.kind with
  | .array es n false =>
    es.size == n && o.isExtensible && o.properties.slots.isEmpty && es.all Option.isSome
  | _ => false

def plainElements? (id : Nat) : Run (Option (Array (Option Value))) := do
  let s ← get
  if !s.isPlainList id then return none
  match (s.object id).kind with
  | .array es _ _ => return some es
  | _ => return none

def replaceElements (id : Nat) (es : Array (Option Value)) : Run Unit :=
  setKind id (.array es es.size false)

def newSized (n : Nat) : Run Nat := do
  if 4294967295 < n then raise .range "array exceeded max size"
  allocate { proto := some Intrinsic.arrayPrototype.id, kind := .array #[] n false }

def setLengthOf (id n : Nat) : Run Unit := setValue true (.object id) .length (.ofNat n)

def isListWithin : Nat → Value → Run Bool
  | fuel + 1, .object id => do
    match (← objectAt id).kind with
    | .array .. => return true
    | .proxy (some (target, _)) _ _ => isListWithin fuel (.object target)
    | .proxy none _ _ => throwType revokedComplaint
    | _ => return false
  | _, _ => return false

def isList (v : Value) : Run Bool := isListWithin standInDepth v

def newLike (id n : Nat) : Run Nat := do
  if !(← isList (.object id)) then return ← newSized n
  let maker ← match ← getOf id .constructor with
    | .object c => do
      if c == Intrinsic.arrayConstructor.id then return ← newSized n
      match ← getOf c .species with
      | .null => pure .undefined
      | v => pure v
    | v => pure v
  if maker.isUndefined then return ← newSized n
  if !(← get).isConstructor maker then throwType "Symbol.species must be a constructor"
  match maker with
  | .object c =>
    match ← Run.construct c #[.ofNat n] c with
    | .object new => return new
    | _ => newSized n
  | _ => newSized n

/-- The constructor that makes more of an object's kind, as the object's own constructor says. -/
def makerOf (id fallback : Nat) : Run Nat := do
  match ← getOf id .constructor with
  | .undefined => return fallback
  | .object c =>
    if c == fallback then return c
    let v ← getOf c .species
    if v.isNullish then return fallback
    match v, (← get).isConstructor v with
    | .object c, true => return c
    | _, _ => throwType "property 'constructor' is not a constructor"
  | _ => throwType "property 'constructor' is not an object"

def joinTexts (separator : Str) : List Str → Str
  | [] => .empty
  | [s] => s
  | s :: rest => rest.foldl (fun out t => out ++ separator ++ t) s

def joinList (id n : Nat) (separator : Str) : Run Str := do
  if (← get).joining.contains id then return .empty
  modify fun s => { s with joining := id :: s.joining }
  let join : Run Str := do
    let mut out := Str.empty
    for i in [0:n] do
      let v ← getAt id i
      if 0 < i then out := out ++ separator
      if !v.isNullish then out := out ++ (← toText v)
    return out
  let leave : Run Unit := modify fun s => { s with joining := s.joining.drop 1 }
  let out ← tryCatch join fun e => do
    leave
    throw e
  leave
  return out

section Order
open Run

abbrev Less := Value → Value → Run Bool

def insertFrom (less : Less) (v : Value) : List Value → Run (List Value)
  | [] => return [v]
  | w :: rest => do
    if ← less v w then return w :: (← insertFrom less v rest) else return v :: w :: rest

def insertionSort (less : Less) (vs : List Value) : Run (List Value) := do
  let mut sorted := []
  for v in vs do
    sorted ← insertFrom less v sorted
  return sorted.reverse

def mergeRuns (less : Less) : Nat → List Value → List Value → Array Value → Run (Array Value)
  | 0, as, bs, out => return out ++ as.toArray ++ bs.toArray
  | _, [], bs, out => return out ++ bs.toArray
  | _, as, [], out => return out ++ as.toArray
  | fuel + 1, a :: as, b :: bs, out => do
    if ← less b a then mergeRuns less fuel (a :: as) bs (out.push b)
    else mergeRuns less fuel as (b :: bs) (out.push a)

def fewValues : Nat := 20

def mergeSort (less : Less) : Nat → List Value → Run (List Value)
  | 0, vs => return vs
  | fuel + 1, vs => do
    if vs.length ≤ fewValues then insertionSort less vs
    else
      let half := vs.length / 2
      let left ← mergeSort less fuel (vs.take half)
      let right ← mergeSort less fuel (vs.drop half)
      return (← mergeRuns less vs.length left right #[]).toList

def sortedBy (less : Less) (vs : List Value) : Run (List Value) := mergeSort less (vs.length + 1) vs

def sorted (compare : Value) (vs : List Value) : Run (List Value) := do
  let present := vs.filter (!·.isUndefined)
  let missing := vs.filter (·.isUndefined)
  let less (a b : Value) : Run Bool := do
    if compare.isUndefined then
      let s ← toText a
      return s.less (← toText b)
    else return (← toNumber (← call compare .undefined #[a, b])) < 0
  return (← sortedBy less present) ++ missing

end Order

end PagePreview.Machine
