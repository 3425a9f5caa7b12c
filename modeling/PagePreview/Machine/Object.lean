import PagePreview.Machine.Intrinsic

/-! The properties of one object: what the object is decides where they stand. Those of a row of
numbers stand in its bytes; those of the arguments of a call may stand in variables. -/

namespace PagePreview.Machine
open Script

def elementProperty? (k : Key) (elements : Array (Option Value)) : Option Property :=
  match k.index? with
  | some i => (elements[i]?.join).map .plain
  | none => none

def unitProperty? (k : Key) (text : Str) : Option Property :=
  if k == Key.length then some (.fixed (.ofNat text.length))
  else match k.index? with
    | some i => if i < text.length then some (.data (.string (text.slice i (i + 1))) false true false) else none
    | none => none

namespace Object

def ownProperty? (o : Object) (k : Key) : Option Property :=
  match o.kind with
  | .array elements length isFixed =>
    if k == Key.length then some (.data (.ofNat length) (!isFixed) false false)
    else match elementProperty? k elements with
      | some p => some p
      | none => o.properties.get? k
  | .string text =>
    match unitProperty? k text with
    | some p => some p
    | none => o.properties.get? k
  | _ => o.properties.get? k

def nearGap : Nat := 64

def store (o : Object) (k : Key) (p : Property) : Object :=
  match o with
  | ⟨proto, .array elements length isFixed, properties, isExtensible⟩ =>
    match k.index? with
    | none => ⟨proto, .array elements length isFixed, properties.insert k p, isExtensible⟩
    | some i =>
      let length := max length (i + 1)
      match p with
      | .data v true true true =>
        if i < elements.size then
          ⟨proto, .array (elements.set! i (some v)) length isFixed, properties.erase k, isExtensible⟩
        else if i ≤ elements.size + nearGap && properties.slots.isEmpty then
          let elements := (List.range (i - elements.size)).foldl (fun es _ => es.push none) elements
          ⟨proto, .array (elements.push (some v)) length isFixed, properties, isExtensible⟩
        else ⟨proto, .array elements length isFixed, properties.insert k p, isExtensible⟩
      | p =>
        let elements := if i < elements.size then elements.set! i none else elements
        ⟨proto, .array elements length isFixed, properties.insert k p, isExtensible⟩
  | ⟨proto, kind, properties, isExtensible⟩ => ⟨proto, kind, properties.insert k p, isExtensible⟩

def erase (o : Object) (k : Key) : Object :=
  match o with
  | ⟨proto, .array elements length isFixed, properties, isExtensible⟩ =>
    let elements := match k.index? with
      | some i => if i < elements.size then elements.set! i none else elements
      | none => elements
    ⟨proto, .array elements length isFixed, properties.erase k, isExtensible⟩
  | ⟨proto, kind, properties, isExtensible⟩ => ⟨proto, kind, properties.erase k, isExtensible⟩

def setLength (o : Object) (n : Nat) : Object :=
  match o with
  | ⟨proto, .array elements _ isFixed, properties, isExtensible⟩ =>
    let kept := properties.keys.filter fun k => match k.index? with
      | some i => n ≤ i
      | none => false
    ⟨proto, .array (elements.shrink n) n isFixed, kept.foldl Properties.erase properties, isExtensible⟩
  | o => o

def keys (o : Object) : List Key :=
  let stored := Key.listed o.properties.keys
  let indices (n : Nat) := (List.range n).map Key.ofIndex
  match o.kind with
  | .array elements _ _ =>
    let present := (List.range elements.size).filter fun i => (elements[i]?.join).isSome
    let far := stored.filter (·.index?.isSome)
    present.map Key.ofIndex ++ far ++ [Key.length] ++ stored.filter (·.index?.isNone)
  | .string text =>
    indices text.length ++ stored.filter (·.index?.isSome) ++ [Key.length] ++
      stored.filter (·.index?.isNone)
  | _ => stored

end Object

def Key.numeral? (k : Key) : Option (Option Nat) :=
  match k with
  | .text (.plain name) =>
    match k.index? with
    | some i => some (some i)
    | none =>
      match name.toList with
      | c :: _ =>
        if (isDecimal c || c == '-' || c == 'I' || c == 'N') &&
            (name == "-0" || numberText (numberOfText (.plain name)) == name) then some none
        else none
      | [] => none
  | _ => none

namespace State

def buffer? (s : State) (id : Nat) : Option Buffer :=
  match (s.object id).kind with
  | .buffer b => some b
  | _ => none

def byteCount (s : State) (id : Nat) : Nat := ((s.buffer? id).map (·.bytes.size)).getD 0

def rowLength? (s : State) (v : View) : Option Nat :=
  match s.buffer? v.buffer with
  | some b =>
    if b.isDetached then none
    else match v.length with
      | some n => if v.offset + n * v.element.size ≤ b.bytes.size then some n else none
      | none => if v.offset ≤ b.bytes.size then some ((b.bytes.size - v.offset) / v.element.size) else none
  | none => none

def rowLength (s : State) (v : View) : Nat := (s.rowLength? v).getD 0

def rowElement? (s : State) (v : View) (i : Nat) : Option Value :=
  if i < s.rowLength v then
    (s.buffer? v.buffer).map fun b => ByteRow.read b.bytes v.element (v.offset + i * v.element.size)
  else none

def argumentVariable? (vars : Option (Nat × Array (Option Nat))) (k : Key) : Option (Nat × Nat) :=
  match vars, k.index? with
  | some (scope, places), some i => (places[i]?.join).map (scope, ·)
  | _, _ => none

def variableValue? (s : State) (scope index : Nat) : Option Value :=
  (s.scopes[scope]?.bind (·.vars[index]?)).bind (·.2.value)

def ownProperty? (s : State) (id : Nat) (k : Key) : Option Property :=
  let o := s.object id
  match o.kind with
  | .row view =>
    match k.numeral? with
    | some i => (i.bind (s.rowElement? view)).map .plain
    | none => o.properties.get? k
  | .arguments vars =>
    match o.properties.get? k, argumentVariable? vars k with
    | some (.data v w e c), some (scope, i) => some (.data ((s.variableValue? scope i).getD v) w e c)
    | p, _ => p
  | _ => o.ownProperty? k

def endsAt (s : State) (id : Nat) (k : Key) : Bool :=
  match (s.object id).kind with
  | .row _ => k.numeral?.isSome
  | _ => false

def keys (s : State) (id : Nat) : List Key :=
  let o := s.object id
  match o.kind with
  | .row view => (List.range (s.rowLength view)).map Key.ofIndex ++ o.keys
  | _ => o.keys

end State

inductive Found
  | property (p : Property)
  | standIn (id : Nat)
  | missing

namespace State

/-- Looks for a property in an object and its prototypes, of which there are at most `fuel`. -/
def find (s : State) (k : Key) : Nat → Nat → Found
  | 0, _ => .missing
  | fuel + 1, id =>
    let o := s.object id
    match o.kind with
    | .proxy .. => .standIn id
    | _ =>
      match s.ownProperty? id k, o.proto with
      | some p, _ => .property p
      | none, some p => if s.endsAt id k then .missing else s.find k fuel p
      | none, none => .missing

end State
end PagePreview.Machine
