import PagePreview.Machine.Conversion

/-! Changing properties: defining, assigning, deleting, and what else an object can be asked to
become. A stand-in asks its handler first. -/

namespace PagePreview.Machine
open Script

def Object.mapBytes (f : ByteArray → ByteArray) (o : Object) : Object :=
  match o with
  | ⟨proto, .buffer ⟨bytes, maximum, isShared, isDetached⟩, ps, ext⟩ =>
    ⟨proto, .buffer ⟨f bytes, maximum, isShared, isDetached⟩, ps, ext⟩
  | o => o

def putElement (view : View) (i : Option Nat) (v : Value) : Run Unit := do
  let v ← toElement view.element v
  match i with
  | some i =>
    if i < (← get).rowLength view then
      updateObject view.buffer (·.mapBytes fun bytes =>
        ByteRow.write bytes view.element (view.offset + i * view.element.size) v)
  | none => return

def setVariableAt (scope index : Nat) (v : Value) : Run Unit :=
  modify fun s => { s with scopes := s.scopes.modify scope fun sc =>
    { sc with vars := sc.vars.modify index fun (n, x) => (n, { x with value := some v }) } }

def unmap (id : Nat) (k : Key) : Run Unit :=
  updateObject id fun o => match o.kind, k.index? with
    | .arguments (some (scope, places)), some i =>
      { o with kind := .arguments (some (scope, if i < places.size then places.set! i none else places)) }
    | _, _ => o

def defineStored (id : Nat) (k : Key) (d : Description) : Run Bool := do
  let o ← objectAt id
  match o.ownProperty? k with
  | none =>
    if !o.isExtensible then return false
    let refuses := match o.kind, k.index? with
      | .array _ length isFixed, some i => isFixed && length ≤ i
      | _, _ => false
    if refuses then return false
    updateObject id (·.store k d.fresh)
    return true
  | some p =>
    match d.over? p with
    | none => return false
    | some p =>
      updateObject id (·.store k p)
      return true

/-- Defines a property of an object that is no stand-in; false if the object does not allow it. -/
def defineOrdinary (id : Nat) (k : Key) (d : Description) : Run Bool := do
  let s ← get
  let o := s.object id
  match o.kind, k == Key.length with
  | .row view, _ =>
    match k.numeral? with
    | some i =>
      let isPlain := !d.isAccessor && d.configurable != some false && d.enumerable != some false &&
        d.writable != some false
      if !isPlain || !(i.any fun i => i < s.rowLength view) then return false
      match d.value with
      | some v => putElement view i v
      | none => pure ()
      return true
    | none => defineStored id k d
  | .arguments vars, _ =>
    let place := State.argumentVariable? vars k
    let d := match place, d.value, d.writable with
      | some (scope, i), none, some false => { d with value := s.variableValue? scope i }
      | _, _, _ => d
    if !(← defineStored id k d) then return false
    if let some (scope, i) := place then
      if d.isAccessor then unmap id k
      else
        if let some v := d.value then setVariableAt scope i v
        if d.writable == some false then unmap id k
    return true
  | .array _ length isFixed, true =>
    match d.value with
    | none =>
      if d.isAccessor || d.configurable == some true || d.enumerable == some true then return false
      if d.writable == some false then
        updateObject id fun o => match o.kind with
          | .array es n _ => { o with kind := .array es n true }
          | _ => o
      return true
    | some v =>
      let x ← toNumber v
      let some n := lengthOf? (.number x) | raise .range "bad length for array"
      if n == length then return true
      if isFixed then return false
      updateObject id (·.setLength n)
      return true
  | _, _ => defineStored id k d

def defineWithin (fuel : Nat) (id : Nat) (k : Key) (d : Description) : Run Bool :=
  match fuel with
  | 0 => return false
  | fuel + 1 => do
    match (← objectAt id).kind with
    | .proxy .. =>
      let (target, handler) ← standInParts id
      match ← trap handler "defineProperty" with
      | none => defineWithin fuel target k d
      | some f =>
        let o ← descriptorObject d
        if !(← Run.call f (.object handler) #[.object target, keyValue k, .object o]).isTrue then
          return false
        let isLocking := d.configurable == some false
        match ← ownProperty target k with
        | none =>
          if !(← isExtensible target) || isLocking then throwType "Proxy trap failed to set property"
        | some p =>
          if (d.over? p).isNone then throwType "Proxy trap set property to unexpected value"
          if isLocking && p.isConfigurable then
            throwType "Proxy trap set property with unexpected configurable field"
          if !p.isConfigurable && p.isWritable && d.writable == some false then
            throwType "Proxy trap set property with unexpected writable field"
        return true
    | _ => defineOrdinary id k d

def defineProperty (id : Nat) (k : Key) (d : Description) : Run Bool :=
  defineWithin standInDepth id k d

def keyShown (k : Key) : Run String := do
  match k with
  | .text name => return name.display
  | .symbol id | .hidden id =>
    return "Symbol(" ++ ((((← get).symbols[id]?).bind (·.description)).getD .empty).display ++ ")"

def mustDefine (id : Nat) (k : Key) (d : Description) : Run Unit := do
  if !(← defineProperty id k d) then throwType ("cannot redefine property: " ++ (← keyShown k))

/-- Adds a property as an object literal or a new list does; it is an error if that is not
allowed. -/
def createProperty (id : Nat) (k : Key) (v : Value) : Run Unit := mustDefine id k (.ofProperty (.plain v))

def assignOwn (receiver : Value) (k : Key) (v : Value) : Run Bool := do
  let .object id := receiver | return false
  match ← ownProperty id k with
  | some (.data _ w _ _) => if w then defineProperty id k { value := some v } else return false
  | some (.accessor ..) => return false
  | none => defineProperty id k (.ofProperty (.plain v))

def setWithin (fuel : Nat) (id : Nat) (k : Key) (v receiver : Value) : Run Bool :=
  match fuel with
  | 0 => return false
  | fuel + 1 => do
    let s ← get
    match (s.object id).kind, k.numeral? with
    | .row view, some i =>
      if receiver.same (.object id) then
        putElement view i v
        return true
      if !(i.any fun i => i < s.rowLength view) then return true
    | _, _ => pure ()
    match s.find k s.objects.size id with
    | .missing => assignOwn receiver k v
    | .property (.data _ w _ _) => if w then assignOwn receiver k v else return false
    | .property (.accessor _ setter ..) =>
      if setter.isUndefined then return false
      let _ ← Run.call setter receiver #[v]
      return true
    | .standIn p =>
      let (target, handler) ← standInParts p
      match ← trap handler "set" with
      | none => setWithin fuel target k v receiver
      | some f =>
        if !(← Run.call f (.object handler) #[.object target, keyValue k, v, receiver]).isTrue then
          return false
        match ← ownProperty target k with
        | some (.data fixed false _ false) =>
          if !v.identical fixed then throwType "Proxy trap set unexpected data descriptor"
        | some (.accessor _ setter _ false) =>
          if setter.isUndefined then throwType "Proxy trap set unexpected accessor descriptor"
        | _ => pure ()
        return true

def Object.canReplace (o : Object) (i : Nat) : Bool :=
  match o.kind with
  | .array elements _ _ => i < elements.size && (elements[i]?.join).isSome
  | _ => false

def setOn (id : Nat) (k : Key) (v : Value) : Run Bool := setWithin standInDepth id k v (.object id)

def setValue (isStrict : Bool) (base : Value) (k : Key) (v : Value) : Run Unit := do
  let some id := (← get).holderOf? base | throwType nullishComplaint
  let done ← setWithin standInDepth id k v base
  if !done && isStrict then throwType ("cannot set non-writable property: " ++ (← keyShown k))

def deleteWithin (fuel : Nat) (id : Nat) (k : Key) : Run Bool :=
  match fuel with
  | 0 => return false
  | fuel + 1 => do
    match (← objectAt id).kind with
    | .proxy .. =>
      let (target, handler) ← standInParts id
      match ← trap handler "deleteProperty" with
      | none => deleteWithin fuel target k
      | some f =>
        if !(← Run.call f (.object handler) #[.object target, keyValue k]).isTrue then return false
        match ← ownProperty target k with
        | none => return true
        | some p =>
          if !p.isConfigurable || !(← isExtensible target) then
            throwType "Proxy trap failed to delete property"
          return true
    | kind =>
      match (← get).ownProperty? id k with
      | none => return true
      | some p =>
        let isElement := match kind with
          | .row _ => k.numeral?.isSome
          | _ => false
        if !p.isConfigurable || isElement then return false
        updateObject id (·.erase k)
        unmap id k
        return true

def deleteProperty (id : Nat) (k : Key) : Run Bool := deleteWithin standInDepth id k

def preventExtensionsWithin (fuel : Nat) (id : Nat) : Run Bool :=
  match fuel with
  | 0 => return false
  | fuel + 1 => do
    match (← objectAt id).kind with
    | .proxy .. =>
      let (target, handler) ← standInParts id
      match ← trap handler "preventExtensions" with
      | none => preventExtensionsWithin fuel target
      | some f =>
        let answer := (← Run.call f (.object handler) #[.object target]).isTrue
        if answer then
          if ← isExtensible target then throwType "Proxy trap failed to set extensible"
        return answer
    | _ =>
      updateObject id fun o => { o with isExtensible := false }
      return true

def preventExtensions (id : Nat) : Run Bool := preventExtensionsWithin standInDepth id

def State.isAbove (s : State) (id : Nat) : Nat → Option Nat → Bool
  | fuel + 1, some p =>
    p == id || match (s.object p).kind with
      | .proxy .. => false
      | _ => s.isAbove id fuel (s.object p).proto
  | _, _ => false

def setPrototypeWithin (fuel : Nat) (id : Nat) (proto : Option Nat) : Run Bool :=
  match fuel with
  | 0 => return false
  | fuel + 1 => do
    let o ← objectAt id
    match o.kind with
    | .proxy .. =>
      let (target, handler) ← standInParts id
      match ← trap handler "setPrototypeOf" with
      | none => setPrototypeWithin fuel target proto
      | some f =>
        let answer ← Run.call f (.object handler) #[.object target, (proto.map Value.object).getD .null]
        if !answer.isTrue then return false
        if ← isExtensible target then return true
        if (← prototypeOf target) != proto then throwType "Proxy trap failed to set prototype"
        return true
    | _ =>
      if o.proto == proto then return true
      if !o.isExtensible || id == Intrinsic.objectPrototype.id then return false
      let s ← get
      if s.isAbove id s.objects.size proto then return false
      updateObject id fun o => { o with proto }
      return true

/-- Sets the prototype of an object; false if it may not be set, or would stand above itself. -/
def setPrototype (id : Nat) (proto : Option Nat) : Run Bool := setPrototypeWithin standInDepth id proto

/-- Takes away the permission to change an object: to add, to delete, and perhaps to write. -/
def lock (v : Value) (alsoValues : Bool) (complaint : String) : Run Value := do
  let .object id := v | return v
  if !(← preventExtensions id) then throwType complaint
  for k in ← ownKeys id do
    if alsoValues then
      match ← ownProperty id k with
      | some (.data ..) => mustDefine id k { configurable := some false, writable := some false }
      | some (.accessor ..) => mustDefine id k { configurable := some false }
      | none => pure ()
    else mustDefine id k { configurable := some false }
  return v

end PagePreview.Machine
