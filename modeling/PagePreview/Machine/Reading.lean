import PagePreview.Machine.Object

/-! Describing and reading properties. A description is what is asked of a property that is defined, and
what it becomes. A stand-in asks its handler first; what the handler says may not contradict what is
fixed on its target. -/

namespace PagePreview.Machine
open Script

structure Description where
  value : Option Value := none
  writable : Option Bool := none
  getter : Option Value := none
  setter : Option Value := none
  enumerable : Option Bool := none
  configurable : Option Bool := none

namespace Description

def ofProperty : Property → Description
  | .data v w e c => { value := some v, writable := some w, enumerable := some e, configurable := some c }
  | .accessor g s e c => { getter := some g, setter := some s, enumerable := some e, configurable := some c }

def isAccessor (d : Description) : Bool := d.getter.isSome || d.setter.isSome
def isData (d : Description) : Bool := d.value.isSome || d.writable.isSome

def fresh (d : Description) : Property :=
  let e := d.enumerable.getD false
  let c := d.configurable.getD false
  if d.isAccessor then .accessor (d.getter.getD .undefined) (d.setter.getD .undefined) e c
  else .data (d.value.getD .undefined) (d.writable.getD false) e c

/-- The property that a description makes of an existing one; none if that does not allow it. -/
def over? (d : Description) (p : Property) : Option Property :=
  let e := d.enumerable.getD p.isEnumerable
  let c := d.configurable.getD p.isConfigurable
  let locked := !p.isConfigurable
  if locked && (d.configurable == some true || e != p.isEnumerable) then none
  else match p with
    | .data v w _ _ =>
      if d.isAccessor then
        if locked then none
        else some (.accessor (d.getter.getD .undefined) (d.setter.getD .undefined) e c)
      else
        let refuses := locked && !w &&
          (d.writable == some true || (d.value.any fun v' => !Value.identical v v'))
        if refuses then none else some (.data (d.value.getD v) (d.writable.getD w) e c)
    | .accessor g t _ _ =>
      if d.isData then
        if locked then none else some (.data (d.value.getD .undefined) (d.writable.getD false) e c)
      else
        let refuses := locked && ((d.getter.any fun g' => !Value.same g g') ||
          (d.setter.any fun t' => !Value.same t t'))
        if refuses then none else some (.accessor (d.getter.getD g) (d.setter.getD t) e c)

end Description

def descriptorObject (d : Description) : Run Nat := do
  let flag (name : String) : Option Bool → List (Key × Property)
    | some b => [(.named name, .plain (.bool b))]
    | none => []
  let value (name : String) : Option Value → List (Key × Property)
    | some v => [(.named name, .plain v)]
    | none => []
  allocate { proto := some Intrinsic.objectPrototype.id
             properties := .ofList (value "value" d.value ++ flag "writable" d.writable ++
               value "get" d.getter ++ value "set" d.setter ++
               flag "enumerable" d.enumerable ++ flag "configurable" d.configurable) }

namespace State

/-- The prototype that the properties of a value come from; none for values without properties. -/
def holderOf? (s : State) : Value → Option Nat
  | .object id => some id
  | .string _ => some Intrinsic.stringPrototype.id
  | .number _ => some Intrinsic.numberPrototype.id
  | .bool _ => some Intrinsic.booleanPrototype.id
  | .symbol _ => some Intrinsic.symbolPrototype.id
  | .bigint _ => some Intrinsic.bigintPrototype.id
  | .undefined | .null => let _ := s; none

end State

def nullishComplaint : String := "cannot convert 'null' or 'undefined' to object"

def standInDepth : Nat := 64

def revokedComplaint : String := "Proxy object has empty handler and target"

def standInParts (id : Nat) : Run (Nat × Nat) := do
  match (← objectAt id).kind with
  | .proxy (some parts) _ _ => return parts
  | _ => throwType revokedComplaint

def keyValue : Key → Value
  | .text name => .string name
  | .symbol id => .symbol id
  | .hidden _ => .undefined

def nonCallableComplaint : String := "value returned for property of object is not a function"

def lengthOf? : Value → Option Nat
  | .number x => if 0 ≤ x && x < 4294967296 && x == x.floor then some x.toUInt64.toNat else none
  | _ => none

mutual

def trapWithin (fuel : Nat) (handler : Nat) (name : String) : Run (Option Value) :=
  match fuel with
  | 0 => return none
  | fuel + 1 => do
    let f ← getWithin fuel handler (.named name) (.object handler)
    if f.isNullish then return none
    if !(← get).isCallable f then throwType nonCallableComplaint
    return some f

def getWithin (fuel : Nat) (id : Nat) (k : Key) (receiver : Value) : Run Value :=
  match fuel with
  | 0 => return .undefined
  | fuel + 1 => do
    let s ← get
    match s.find k s.objects.size id with
    | .missing => return .undefined
    | .property (.data v ..) => return v
    | .property (.accessor getter ..) =>
      if getter.isUndefined then return .undefined else Run.call getter receiver #[]
    | .standIn p =>
      let (target, handler) ← standInParts p
      match ← trapWithin fuel handler "get" with
      | none => getWithin fuel target k receiver
      | some f =>
        let v ← Run.call f (.object handler) #[.object target, keyValue k, receiver]
        match ← ownWithin fuel target k with
        | some (.data fixed false _ false) =>
          if !v.identical fixed then throwType "Proxy trap returned unexpected data descriptor"
        | some (.accessor getter _ _ false) =>
          if getter.isUndefined && !v.isUndefined then
            throwType "Proxy trap returned unexpected accessor descriptor"
        | _ => pure ()
        return v

def hasWithin (fuel : Nat) (id : Nat) (k : Key) : Run Bool :=
  match fuel with
  | 0 => return false
  | fuel + 1 => do
    let s ← get
    match s.find k s.objects.size id with
    | .missing => return false
    | .property _ => return true
    | .standIn p =>
      let (target, handler) ← standInParts p
      match ← trapWithin fuel handler "has" with
      | none => hasWithin fuel target k
      | some f =>
        if (← Run.call f (.object handler) #[.object target, keyValue k]).isTrue then return true
        if let some p ← ownWithin fuel target k then
          if !p.isConfigurable || !(← extensibleWithin fuel target) then
            throwType "Proxy trap returned unexpected property"
        return false

def describeWithin (fuel : Nat) (v : Value) : Run Description :=
  match fuel with
  | 0 => return {}
  | fuel + 1 => do
    let .object id := v | throwType "Cannot construct a property descriptor from a non-object"
    let part (name : String) : Run (Option Value) := do
      let k := Key.named name
      if ← hasWithin fuel id k then return some (← getWithin fuel id k v) else return none
    let enumerable := (← part "enumerable").map Value.isTrue
    let configurable := (← part "configurable").map Value.isTrue
    let value ← part "value"
    let writable := (← part "writable").map Value.isTrue
    let accessor (name complaint : String) : Run (Option Value) := do
      let f ← part name
      let s ← get
      if f.any fun f => !f.isUndefined && !s.isCallable f then throwType complaint
      return f
    let getter ← accessor "get" "Property descriptor getter must be callable"
    let setter ← accessor "set" "Property descriptor setter must be callable"
    if (getter.isSome || setter.isSome) && (value.isSome || writable.isSome) then
      throwType "Invalid property descriptor.Cannot both specify accessors and a value or writable attribute"
    return { value, writable, getter, setter, enumerable, configurable }

def ownWithin (fuel : Nat) (id : Nat) (k : Key) : Run (Option Property) :=
  match fuel with
  | 0 => return none
  | fuel + 1 => do
    match (← objectAt id).kind with
    | .proxy .. =>
      let (target, handler) ← standInParts id
      match ← trapWithin fuel handler "getOwnPropertyDescriptor" with
      | none => ownWithin fuel target k
      | some f =>
        let v ← Run.call f (.object handler) #[.object target, keyValue k]
        if !v.isObject && !v.isUndefined then
          throwType "Proxy trap result is neither object nor undefined"
        let old ← ownWithin fuel target k
        if v.isUndefined then
          match old with
          | none => return none
          | some p =>
            if !p.isConfigurable then
              throwType "Proxy trap result is undefined adn target result is not configurable"
            if !(← extensibleWithin fuel target) then
              throwType "Proxy trap result is undefined and target is not extensible"
            return none
        let isExtensible ← extensibleWithin fuel target
        let p := (← describeWithin fuel v).fresh
        let isAllowed := match old with
          | none => isExtensible && p.isConfigurable
          | some old => ((Description.ofProperty p).over? old).isSome &&
              (p.isConfigurable || (!old.isConfigurable && !(old.isWritable && !p.isWritable)))
        if !isAllowed then throwType "Proxy trap returned unexpected property"
        return some p
    | _ => return (← get).ownProperty? id k

def keysWithin (fuel : Nat) (id : Nat) : Run (List Key) :=
  match fuel with
  | 0 => return []
  | fuel + 1 => do
    match (← objectAt id).kind with
    | .proxy .. =>
      let (target, handler) ← standInParts id
      match ← trapWithin fuel handler "ownKeys" with
      | none => keysWithin fuel target
      | some f =>
        let .object list ← Run.call f (.object handler) #[.object target]
          | throwType "cannot create list from a primitive"
        let n := (lengthOf? (← getWithin fuel list Key.length (.object list))).getD 0
        let mut found : Array Key := #[]
        for i in [0:n] do
          match ← getWithin fuel list (.ofIndex i) (.object list) with
          | .string name => found := found.push (.text name)
          | .symbol id => found := found.push (.symbol id)
          | _ => throwType "bad type"
        let keys := found.toList
        if keys.eraseDups.length < keys.length then
          throwType "Proxy trap result contains duplicate string property keys"
        let isExtensible ← extensibleWithin fuel target
        let mut loose : List Key := []
        let mut fixed : List Key := []
        for k in ← keysWithin fuel target do
          match ← ownWithin fuel target k with
          | some p => if p.isConfigurable then loose := loose ++ [k] else fixed := fixed ++ [k]
          | none => loose := loose ++ [k]
        if isExtensible && fixed.isEmpty then return keys
        if fixed.any fun k => !keys.contains k then
          throwType "Proxy trap failed to return all non-configurable property keys"
        if isExtensible then return keys
        if loose.any fun k => !keys.contains k then
          throwType "Proxy trap failed to return all configurable property keys"
        if keys.any fun k => !loose.contains k && !fixed.contains k then
          throwType "Proxy trap failed to return all property keys"
        return keys
    | _ => return (← get).keys id

def protoWithin (fuel : Nat) (id : Nat) : Run (Option Nat) :=
  match fuel with
  | 0 => return none
  | fuel + 1 => do
    let o ← objectAt id
    match o.kind with
    | .proxy .. =>
      let (target, handler) ← standInParts id
      match ← trapWithin fuel handler "getPrototypeOf" with
      | none => protoWithin fuel target
      | some f =>
        let proto ← match ← Run.call f (.object handler) #[.object target] with
          | .object p => pure (some p)
          | .null => pure none
          | _ => throwType "Proxy trap result is neither object nor null"
        if ← extensibleWithin fuel target then return proto
        if (← protoWithin fuel target) != proto then
          throwType "Proxy trap returned unexpected prototype"
        return proto
    | _ => return o.proto

def extensibleWithin (fuel : Nat) (id : Nat) : Run Bool :=
  match fuel with
  | 0 => return false
  | fuel + 1 => do
    let o ← objectAt id
    match o.kind with
    | .proxy .. =>
      let (target, handler) ← standInParts id
      match ← trapWithin fuel handler "isExtensible" with
      | none => extensibleWithin fuel target
      | some f =>
        let answer := (← Run.call f (.object handler) #[.object target]).isTrue
        if answer != (← extensibleWithin fuel target) then
          throwType "Proxy trap returned unexpected extensible value"
        return answer
    | _ => return o.isExtensible

end

def trap (handler : Nat) (name : String) : Run (Option Value) := trapWithin standInDepth handler name

def getFrom (id : Nat) (k : Key) (receiver : Value) : Run Value :=
  getWithin standInDepth id k receiver

def getOf (id : Nat) (k : Key) : Run Value := getFrom id k (.object id)

def hasProperty (id : Nat) (k : Key) : Run Bool := hasWithin standInDepth id k

def describe (v : Value) : Run Description := describeWithin standInDepth v

def ownProperty (id : Nat) (k : Key) : Run (Option Property) := ownWithin standInDepth id k

def ownKeys (id : Nat) : Run (List Key) := keysWithin standInDepth id

def prototypeOf (id : Nat) : Run (Option Nat) := protoWithin standInDepth id

def isExtensible (id : Nat) : Run Bool := extensibleWithin standInDepth id

def getValue (base : Value) (k : Key) : Run Value := do
  match base with
  | .object id => getFrom id k base
  | .string text =>
    match unitProperty? k text with
    | some (.data v ..) => return v
    | _ => getFrom Intrinsic.stringPrototype.id k base
  | v =>
    match (← get).holderOf? v with
    | some id => getFrom id k v
    | none => throwType nullishComplaint

def methodOf? (base : Value) (k : Key) : Run (Option Value) := do
  let f ← getValue base k
  if f.isNullish then return none
  if !(← get).isCallable f then throwType nonCallableComplaint
  return some f

def invoke (base : Value) (name : String) (args : Array Value) : Run Value := do
  let f ← getValue base (.named name)
  Run.call f base args

end PagePreview.Machine
