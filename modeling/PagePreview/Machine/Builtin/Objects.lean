import PagePreview.Machine.Display
import PagePreview.Machine.Evaluate

/-! The functions on objects, and the methods of all objects. -/

namespace PagePreview.Machine.Builtin
open Script Run

def objectFunctions : List (String × Nat) := [
  ("assign", 2), ("create", 2), ("defineProperties", 2), ("defineProperty", 3), ("entries", 1),
  ("freeze", 1), ("fromEntries", 1), ("getOwnPropertyDescriptor", 2),
  ("getOwnPropertyDescriptors", 1), ("getOwnPropertyNames", 1), ("getOwnPropertySymbols", 1),
  ("getPrototypeOf", 1), ("groupBy", 2), ("hasOwn", 2), ("is", 2), ("isExtensible", 1),
  ("isFrozen", 1), ("isSealed", 1), ("keys", 1), ("preventExtensions", 1), ("seal", 1),
  ("setPrototypeOf", 2), ("values", 1)]

def objectMethods : List (String × Nat) := [
  ("hasOwnProperty", 1), ("isPrototypeOf", 1), ("propertyIsEnumerable", 1), ("toLocaleString", 0),
  ("toString", 0), ("valueOf", 0), ("__defineGetter__", 2), ("__defineSetter__", 2),
  ("__lookupGetter__", 1), ("__lookupSetter__", 1)]

def reflectFunctions : List (String × Nat) := [
  ("apply", 3), ("construct", 2), ("defineProperty", 3), ("deleteProperty", 2), ("get", 2),
  ("getOwnPropertyDescriptor", 2), ("getPrototypeOf", 1), ("has", 2), ("isExtensible", 1),
  ("ownKeys", 1), ("preventExtensions", 1), ("set", 3), ("setPrototypeOf", 2)]

def listedNames (id : Nat) : Run (Array Key) := do
  let mut out := #[]
  for k in ← ownKeys id do
    match k with
    | .text _ => if (← ownProperty id k).any Property.isEnumerable then out := out.push k
    | _ => pure ()
  return out

def listedEntries (id : Nat) : Run (Array (Key × Value)) := do
  let mut out := #[]
  for k in ← ownKeys id do
    match k with
    | .text _ =>
      if (← ownProperty id k).any Property.isEnumerable then out := out.push (k, ← getOf id k)
    | _ => pure ()
  return out

def isLocked (v : Value) (alsoValues : Bool) : Run Bool := do
  let .object id := v | return true
  if ← isExtensible id then return false
  for k in ← ownKeys id do
    if let some p ← ownProperty id k then
      if p.isConfigurable || (alsoValues && p.isWritable) then return false
  return true

def protoArgument (v : Value) (complaint : String) : Run (Option Nat) :=
  match v with
  | .object p => return some p
  | .null => return none
  | _ => throwType complaint

def descriptorValue (p : Option Property) : Run Value := do
  match p with
  | none => return .undefined
  | some p => return .object (← descriptorObject (.ofProperty p))

def defineAll (id : Nat) (descriptions : Value) : Run Unit := do
  let ds ← toObject descriptions
  let mut read := #[]
  for k in ← ownKeys ds do
    if (← ownProperty ds k).any Property.isEnumerable then
      read := read.push (k, ← describe (← getOf ds k))
  for (k, d) in read do
    mustDefine id k d

def keyText (k : Key) : Str :=
  match k with
  | .text s => s
  | _ => .empty

def objectComplaint : String := "cannot convert null or undefined to Object"

def demandObject (v : Value) : Run Unit := do
  if v.isNullish then throwType objectComplaint

def groupsOf (items f : Value) (keyOf : Value → Run Value) : Run (List (Value × Array Value)) := do
  demandObject items
  if !(← get).isCallable f then throwType "callback must be a callable object"
  let rec go : Nat → Source → Nat → List (Value × Array Value) → Run (List (Value × Array Value))
    | 0, _, _, groups => return groups
    | fuel + 1, source, i, groups => do
      match ← source.next? with
      | none => return groups
      | some (v, source) =>
        let k ← source.guard do keyOf (← call f .undefined #[v, .ofNat i])
        go fuel source (i + 1)
          (if groups.any (·.1.sameZero k) then
            groups.map fun (k', vs) => if k'.sameZero k then (k', vs.push v) else (k', vs)
          else groups ++ [(k, #[v])])
  go drainLimit (← openSource items) 0 []

def eachPair (items : Value) (visit : Value → Value → Run Unit) : Run Unit := do
  let rec go : Nat → Source → Run Unit
    | 0, _ => return
    | fuel + 1, source => do
      match ← source.next? with
      | none => return
      | some (v, source) =>
        source.guard do
          let .object e := v | throwType "cannot get key and value from primitive item of `iterable`"
          let k ← getAt e 0
          visit k (← getAt e 1)
        go fuel source
  go drainLimit (← openSource items)

def objectFunction (name : String) (args : Array Value) (newTarget : Option Nat) : Run Value := do
  let first := argument args 0
  match name with
  | "assign" => do
    let id ← toObject first
    for v in args.extract 1 args.size do
      if !v.isNullish then
        let source ← toObject v
        for k in ← ownKeys source do
          match ← ownProperty source k with
          | some p => if p.isEnumerable then setValue true (.object id) k (← getOf source k)
          | none => pure ()
    return .object id
  | "create" => do
    let proto ← protoArgument first
      ("Object prototype may only be an Object or null: " ++ (← get).display first)
    let id ← allocate { proto }
    if !(argument args 1).isUndefined then defineAll id (argument args 1)
    return .object id
  | "defineProperties" => do
    let .object id := first | throwType "Expected an object"
    defineAll id (argument args 1)
    return first
  | "defineProperty" => do
    let .object id := first | throwType "Object.defineProperty called on non-object"
    let k ← toKey (argument args 1)
    mustDefine id k (← describe (argument args 2))
    return first
  | "keys" => do
    let names ← listedNames (← toObject first)
    newListValue (names.map keyValue)
  | "values" => do
    let entries ← listedEntries (← toObject first)
    newListValue (entries.map Prod.snd)
  | "entries" => do
    let mut out := #[]
    for (k, v) in ← listedEntries (← toObject first) do
      out := out.push (← newListValue #[keyValue k, v])
    newListValue out
  | "fromEntries" => do
    demandObject first
    let id ← newPlain
    eachPair first fun k v => do createProperty id (← toKey k) v
    return .object id
  | "freeze" => lock first true "cannot freeze object"
  | "seal" => lock first false "cannot seal object"
  | "isFrozen" => return .bool (← isLocked first true)
  | "isSealed" => return .bool (← isLocked first false)
  | "preventExtensions" => do
    if let .object id := first then
      if !(← preventExtensions id) then throwType "cannot prevent extensions"
    return first
  | "isExtensible" =>
    match first with
    | .object id => return .bool (← isExtensible id)
    | _ => return .bool false
  | "getOwnPropertyDescriptor" => do
    let id ← toObject first
    descriptorValue (← ownProperty id (← toKey (argument args 1)))
  | "getOwnPropertyDescriptors" => do
    let id ← toObject first
    let out ← newPlain
    for k in ← ownKeys id do
      if let some p ← ownProperty id k then createProperty out k (← descriptorValue (some p))
    return .object out
  | "getOwnPropertyNames" => do
    let ks ← ownKeys (← toObject first)
    newListValue (ks.filterMap fun
      | .text s => some (Value.string s)
      | _ => none).toArray
  | "getOwnPropertySymbols" => do
    let ks ← ownKeys (← toObject first)
    newListValue (ks.filterMap fun
      | .symbol id => some (Value.symbol id)
      | _ => none).toArray
  | "getPrototypeOf" => do
    if args.isEmpty then
      throwType "Object.getPrototypeOf: At least 1 argument required, but only 0 passed"
    return ((← prototypeOf (← toObject first)).map Value.object).getD .null
  | "setPrototypeOf" => do
    if args.size < 2 then
      throwType ("Object.setPrototypeOf: At least 2 arguments required, but only " ++
        toString args.size ++ " passed")
    demandObject first
    let v := argument args 1
    let proto ← protoArgument v ("expected an object or null, got `" ++ (← get).typeName v ++ "`")
    if let .object id := first then
      if !(← setPrototype id proto) then throwType "can't set prototype of this object"
    return first
  | "hasOwn" => do
    let id ← toObject first
    return .bool (← ownProperty id (← toKey (argument args 1))).isSome
  | "is" => return .bool (Value.identical first (argument args 1))
  | "groupBy" => do
    let out ← allocate { proto := none }
    for (k, vs) in ← groupsOf first (argument args 1) (fun k => do return keyValue (← toKey k)) do
      createProperty out (← toKey k) (← newListValue vs)
    return .object out
  | _ =>
    match newTarget with
    | some t =>
      if t != Intrinsic.objectConstructor.id then
        return .object (← allocate { proto := some (← protoFor t .objectPrototype) })
    | none => pure ()
    if first.isNullish then return .object (← newPlain) else return .object (← toObject first)

def tagOf (o : Object) (isCallable : Bool) : String :=
  match o.kind with
  | .array .. => "Array"
  | .error => "Error"
  | .bool _ => "Boolean"
  | .number _ => "Number"
  | .string _ => "String"
  | .date _ => "Date"
  | .pattern .. => "RegExp"
  | .arguments _ => "Arguments"
  | _ => if isCallable then "Function" else "Object"

def tagText (this : Value) : Run Value := do
  match this with
  | .undefined => return .text "[object Undefined]"
  | .null => return .text "[object Null]"
  | v => do
    let id ← toObject v
    let isCallable := (← get).isCallable (.object id)
    let builtin ← if ← isList (.object id) then pure "Array"
      else pure (tagOf (← objectAt id) isCallable)
    match ← getFrom id .toStringTag v with
    | .string tag => return .string ("[object " ++ tag ++ "]")
    | _ => return .text ("[object " ++ builtin ++ "]")

def objectMethod (name : String) (this : Value) (args : Array Value) : Run Value := do
  let first := argument args 0
  match name with
  | "hasOwnProperty" => do
    let k ← toKey first
    let id ← toObject this
    return .bool (← ownProperty id k).isSome
  | "propertyIsEnumerable" => do
    let k ← toKey first
    let id ← toObject this
    return .bool ((← ownProperty id k).any Property.isEnumerable)
  | "isPrototypeOf" => do
    match first with
    | .object v =>
      let id ← toObject this
      return .bool (← hasPrototype ((← get).objects.size + 1) id v)
    | _ => return .bool false
  | "toString" => tagText this
  | "toLocaleString" => invoke this "toString" #[]
  | "valueOf" => return .object (← toObject this)
  | "get __proto__" => return ((← prototypeOf (← toObject this)).map Value.object).getD .null
  | "set __proto__" => do
    demandObject this
    let proto ← match first with
      | .object p => pure (some p)
      | .null => pure none
      | _ => return .undefined
    if let .object id := this then
      if !(← setPrototype id proto) then throwType "__proto__ called on null or undefined"
    return .undefined
  | "__defineGetter__" | "__defineSetter__" => do
    let id ← toObject this
    let f := argument args 1
    if !(← get).isCallable f then throwType ("Object.prototype." ++ name ++ ": Expecting function")
    let k ← toKey first
    let d : Description := { enumerable := some true, configurable := some true }
    mustDefine id k (if name == "__defineGetter__" then { d with getter := some f } else { d with setter := some f })
    return .undefined
  | _ => do
    let id ← toObject this
    lookUp (← toKey first) 10000 (some id)
where
  lookUp (k : Key) : Nat → Option Nat → Run Value
    | fuel + 1, some id => do
      match ← ownProperty id k with
      | some (.accessor g t ..) => return if name == "__lookupGetter__" then g else t
      | some _ => return .undefined
      | none => lookUp k fuel (← prototypeOf id)
    | _, _ => return .undefined

def argumentList (v : Value) : Run (Array Value) := do
  match v with
  | .object id => listValues id
  | _ => throwType "cannot create list from a primitive"

def reflectFunction (name : String) (args : Array Value) : Run Value := do
  let .object id := argument args 0 | throwType "target must be an object"
  let k : Run Key := toKey (argument args 1)
  match name with
  | "apply" => do
    if !(← get).isCallable (.object id) then throwType "target must be a function"
    call (.object id) (argument args 1) (← argumentList (argument args 2))
  | "construct" => do
    if !(← get).isConstructor (.object id) then throwType "target must be a constructor"
    let target := if args.size < 3 then Value.object id else argument args 2
    if !(← get).isConstructor target then throwType "newTarget must be a constructor"
    let list ← argumentList (argument args 1)
    match target with
    | .object t => construct id list t
    | _ => return .undefined
  | "defineProperty" => do
    let k ← k
    return .bool (← defineProperty id k (← describe (argument args 2)))
  | "deleteProperty" => do return .bool (← deleteProperty id (← k))
  | "get" => do
    getFrom id (← k) (if args.size < 3 then .object id else argument args 2)
  | "set" => do
    let receiver := if args.size < 4 then Value.object id else argument args 3
    return .bool (← setWithin standInDepth id (← k) (argument args 2) receiver)
  | "has" => do return .bool (← hasProperty id (← k))
  | "ownKeys" => do newListValue ((← ownKeys id).map keyValue).toArray
  | "getOwnPropertyDescriptor" => do descriptorValue (← ownProperty id (← k))
  | "getPrototypeOf" => return ((← prototypeOf id).map Value.object).getD .null
  | "setPrototypeOf" => do
    let proto ← protoArgument (argument args 1) "proto must be an object or null"
    return .bool (← setPrototype id proto)
  | "isExtensible" => return .bool (← isExtensible id)
  | "preventExtensions" => return .bool (← preventExtensions id)
  | _ => return .undefined

end PagePreview.Machine.Builtin
