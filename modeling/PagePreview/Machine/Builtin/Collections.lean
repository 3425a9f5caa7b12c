import PagePreview.Machine.Builtin.Lists
import PagePreview.Machine.Builtin.Matches

/-! Maps, sets and their weak kin, and the iterators of built-in objects. -/

namespace PagePreview.Machine.Builtin
open Script Run

def madeFor (newTarget : Option Nat) (fallback : Intrinsic) : Run Nat := do
  match newTarget with
  | some t => protoFor t fallback
  | none => return fallback.id

def newComplaint (name : String) : String := "calling a builtin " ++ name ++ " constructor without new is forbidden"

def mapMethods : List (String × Nat) := [
  ("clear", 0), ("delete", 1), ("entries", 0), ("forEach", 1), ("get", 1), ("has", 1), ("keys", 0),
  ("set", 2), ("values", 0)]

def setMethods : List (String × Nat) := [
  ("add", 1), ("clear", 0), ("delete", 1), ("entries", 0), ("forEach", 1), ("has", 1), ("values", 0)]

def weakMapMethods : List (String × Nat) := [("delete", 1), ("get", 1), ("has", 1), ("set", 2)]
def weakSetMethods : List (String × Nat) := [("add", 1), ("delete", 1), ("has", 1)]

def entriesOf (family : Family) : Kind → Option Entries
  | .map es => if family == .map then some es else none
  | .set es => if family == .set then some es else none
  | .weakMap es => if family == .weakMap then some es else none
  | .weakSet es => if family == .weakSet then some es else none
  | _ => none

def withEntries (f : Entries → Entries) : Object → Object
  | ⟨proto, .map es, ps, ext⟩ => ⟨proto, .map (f es), ps, ext⟩
  | ⟨proto, .set es, ps, ext⟩ => ⟨proto, .set (f es), ps, ext⟩
  | ⟨proto, .weakMap es, ps, ext⟩ => ⟨proto, .weakMap (f es), ps, ext⟩
  | ⟨proto, .weakSet es, ps, ext⟩ => ⟨proto, .weakSet (f es), ps, ext⟩
  | o => o

def eachEntry (family : Family) (id : Nat) (visit : Value × Value → Run Unit) : Nat → Nat → Run Unit
  | 0, _ => return
  | fuel + 1, i => do
    match (entriesOf family (← objectAt id).kind).bind (·.next? i) with
    | some (e, next) => do
      visit e
      eachEntry family id visit fuel next
    | none => return

def receiverComplaint (family : Family) (name : String) : String :=
  match family with
  | .map => if ["keys", "values", "entries"].contains name then "\x60this\x60 is not a Map" else "'this' is not a Map"
  | .set =>
    if name.startsWith "get " then "Method get Set.prototype." ++ name.drop 4 ++ " called on incompatible receiver"
    else "Method Set.prototype." ++ name ++ " called on incompatible receiver"
  | .weakMap => "WeakMap." ++ name ++ ": called with non-object value"
  | _ => "WeakSet." ++ name ++ ": called with non-object value"

def demandWeakKey (title : String) (v : Value) : Run Unit := do
  if !v.isObject then
    throwType (title ++ ": expected target argument of type \x60object\x60, got target of type \x60" ++
      (← get).typeName v ++ "\x60")

def collectionMethod (family : Family) (name : String) (this : Value) (args : Array Value) : Run Value := do
  let first := argument args 0
  let .object id := this | throwType (receiverComplaint family name)
  let some es := entriesOf family (← objectAt id).kind | throwType (receiverComplaint family name)
  let iteration (listing : Listing) : Run Value :=
    newIteration (if family == .map then .mapIteratorPrototype else .setIteratorPrototype)
      (.entries family (some id) 0 listing)
  /- A key as it is kept: zero has no sign. -/
  let key : Value := match first with
    | .number x => if x == 0 then .number 0 else first
    | v => v
  match name with
  | "get" => return (es.get? first).getD .undefined
  | "has" => return .bool (es.get? first).isSome
  | "set" | "add" => do
    match family with
    | .weakMap => demandWeakKey "WeakMap.set" first
    | .weakSet => demandWeakKey "WeakSet.add" first
    | _ => pure ()
    updateObject id (withEntries (·.insert key (if name == "set" then argument args 1 else key)))
    return this
  | "delete" => do
    let isThere := (es.get? first).isSome
    updateObject id (withEntries (·.erase first))
    return .bool isThere
  | "clear" => do
    updateObject id (withEntries fun _ => {})
    return .undefined
  | "forEach" => do
    let s ← get
    if !s.isCallable first then
      throwType (if family == .map then s.display first ++ " is not a function"
        else "Method Set.prototype.forEach called with non-callable callback function")
    eachEntry family id (fun (k, v) => do
      let _ ← call first (argument args 1) #[v, k, this]) drainLimit 0
    return .undefined
  | "get size" => return .ofNat es.size
  | "keys" => iteration .keys
  | "values" => iteration .values
  | "entries" => iteration .entries
  | _ => return .undefined

def adderComplaint : Family → String
  | .set => "'add' of 'newTarget' is not a function"
  | .weakSet => "WeakSet: 'add' is not a function"
  | _ => "property \x60set\x60 of \x60NewTarget\x60 is not callable"

def makeCollection (family : Family) (proto : Nat) (kind : Entries → Kind) (items : Value) : Run Value := do
  let id ← allocate { proto := some proto, kind := kind {} }
  if !items.isNullish then
    let isMap := family == .map || family == .weakMap
    let adder ← getOf id (.named (if isMap then "set" else "add"))
    if !(← get).isCallable adder then throwType (adderComplaint family)
    if isMap then
      eachPair items fun k v => do
        let _ ← call adder (.object id) #[k, v]
    else addAll id adder drainLimit (← openSource items)
  return .object id
where
  addAll (id : Nat) (adder : Value) : Nat → Source → Run Unit
    | 0, _ => return
    | fuel + 1, source => do
      match ← source.next? with
      | none => return
      | some (v, source) =>
        source.guard do
          let _ ← call adder (.object id) #[v]
        addAll id adder fuel source

def mapOfGroups (args : Array Value) : Run Value := do
  let plain (k : Value) : Value := match k with
    | .number x => if x == 0 then .number 0 else k
    | k => k
  let mut entries : Entries := {}
  for (k, vs) in ← groupsOf (argument args 0) (argument args 1) (fun k => return plain k) do
    entries := entries.insert k (← newListValue vs)
  return .object (← allocate { proto := some Intrinsic.mapPrototype.id, kind := .map entries })

def weakRefMethod (this : Value) : Run Value := do
  let complaint := "WeakRef.prototype.deref: expected \x60this\x60 to be a \x60WeakRef\x60 object"
  let .object id := this | throwType complaint
  match (← objectAt id).kind with
  | .weakRef v => return v
  | _ => throwType complaint

def makeWeakRef (args : Array Value) (newTarget : Option Nat) : Run Value := do
  let some t := newTarget | throwType "WeakRef: cannot call constructor without \x60new\x60"
  let v := argument args 0
  demandWeakKey "WeakRef" v
  return .object (← allocate { proto := some (← protoFor t .weakRefPrototype), kind := .weakRef v })

def entryOf (listing : Listing) (k v : Value) : Run Value := do
  match listing with
  | .keys => return k
  | .values => return v
  | .entries => newListValue #[k, v]

def nextOf (state : Iteration) : Run (Option (Value × Iteration)) := do
  match state with
  | .array none .. | .entries _ none .. | .ended => return none
  | .matches matcher text isGlobal isUnicode =>
    let .object m ← execOn matcher text | return none
    if !isGlobal then return some (.object m, .ended)
    if (← toText (← getAt m 0)).isEmpty then stepAhead matcher text isUnicode
    return some (.object m, state)
  | .array (some id) i listing =>
    if (← lengthOf id) ≤ i then return none
    let v ← if listing == .keys then pure .undefined else getOf id (.ofIndex i)
    return some (← entryOf listing (.ofNat i) v, .array (some id) (i + 1) listing)
  | .text us i =>
    match us[i]?, us[i + 1]? with
    | none, _ => return none
    | some u, some v =>
      if Str.isHigh u && Str.isLow v then return some (.string (.ofUnits #[u, v]), .text us (i + 2))
      else return some (.string (.ofUnits #[u]), .text us (i + 1))
    | some u, none => return some (.string (.ofUnits #[u]), .text us (i + 1))
  | .entries family (some id) i listing =>
    match (entriesOf family (← objectAt id).kind).bind (·.next? i) with
    | some ((k, v), j) => return some (← entryOf listing k v, .entries family (some id) j listing)
    | none => return none

def iteratorMethod (name : String) (this : Value) : Run Value := do
  match name with
  | "next" => do
    let .object id := this | throwType "\x60this\x60 is not an iterator"
    match (← objectAt id).kind with
    | .iterator state =>
      match ← nextOf state with
      | some (v, state) =>
        setKind id (.iterator state)
        iterationResult v false
      | none =>
        setKind id (.iterator .ended)
        iterationResult .undefined true
    | _ => throwType "\x60this\x60 is not an iterator"
  | _ => return this

end PagePreview.Machine.Builtin
