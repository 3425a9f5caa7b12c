import PagePreview.Machine.Operator

/-! Variables: where a name is found along scopes, and how its value is read and set. -/

namespace PagePreview.Machine
open Script

def globalScope : Nat := 0

def Intrinsic.globalValue : Value := Intrinsic.globalObject.value

inductive Place
  | variable (scope index : Nat)
  | object (id : Nat) (outer : Option Nat)
  | global

def findVariable (vs : Array (String × Variable)) (name : String) (i : Nat) : Option Nat :=
  if h : i < vs.size then
    if vs[i].1 == name then some i else findVariable vs name (i + 1)
  else none
  termination_by vs.size - i

namespace State

def locate (s : State) (name : String) : Nat → Nat → Place
  | 0, _ => .global
  | fuel + 1, id =>
    match s.scopes[id]? with
    | none => .global
    | some scope =>
      match findVariable scope.vars name 0 with
      | some i => .variable id i
      | none =>
        match scope.object, scope.outer with
        | some o, outer => .object o outer
        | none, some outer => s.locate name fuel outer
        | none, none => .global

def variableAt? (s : State) (scope index : Nat) : Option Variable :=
  (s.scopes[scope]?.bind (·.vars[index]?)).map Prod.snd

end State

def locateWithin (fuel : Nat) (name : String) (scope : Nat) : Run Place :=
  match fuel with
  | 0 => return .global
  | fuel + 1 => do
    let s ← get
    match s.locate name s.scopes.size scope with
    | .object id outer =>
      let k := Key.named name
      let here ← if ← hasProperty id k then do
          match ← getOf id .unscopables with
          | .object blocked => pure !(← getOf blocked k).isTrue
          | _ => pure true
        else pure false
      if here then return .object id outer
      match outer with
      | some outer => locateWithin fuel name outer
      | none => return .global
    | place => return place

def locate (name : String) (scope : Nat) : Run Place := locateWithin 1000 name scope

def notDefined {α : Type} (name : String) : Run α := raise .reference (name ++ " is not defined")

def valueAt? (name : String) (place : Place) : Run (Option Value) := do
  match place with
  | .variable scope i =>
    match (← get).variableAt? scope i with
    | some { value := some v, .. } => return some v
    | _ => notDefined name
  | .object id _ => return some (← getOf id (.named name))
  | .global =>
    let k := Key.named name
    let id := Intrinsic.globalObject.id
    let s ← get
    match s.find k s.objects.size id with
    | .property (.data v ..) => return some v
    | .missing => return none
    | _ => return some (← getOf id k)

def lookUp (name : String) (scope : Nat) : Run Value := do
  match ← valueAt? name (← locate name scope) with
  | some v => return v
  | none => notDefined name

def updateScope (id : Nat) (f : Machine.Scope → Machine.Scope) : Run Unit :=
  modify fun s => { s with scopes := s.scopes.modify id f }

def setVariable (scope index : Nat) (f : Variable → Variable) : Run Unit :=
  updateScope scope fun sc => { sc with vars := sc.vars.modify index fun (n, v) => (n, f v) }

def assignAt (isStrict : Bool) (name : String) (place : Place) (v : Value) : Run Unit := do
  match place with
  | .variable scope i =>
    match (← get).variableAt? scope i with
    | some { value := none, .. } =>
      raise .reference ("cannot assign to uninitialized binding \x60" ++ name ++ "\x60")
    | some { isMutable := false, isLoud, .. } =>
      if isLoud || isStrict then throwType ("cannot mutate an immutable binding '" ++ name ++ "'")
    | _ => setVariable scope i fun x => { x with value := some v }
  | .object id _ => setValue isStrict (.object id) (.named name) v
  | .global =>
    let k := Key.named name
    let id := Intrinsic.globalObject.id
    if isStrict && !(← hasProperty id k) then
      raise .reference ("cannot assign to uninitialized global property \x60" ++ name ++ "\x60")
    setValue isStrict (.object id) k v

def assign (c : Context) (name : String) (v : Value) : Run Unit := do
  assignAt c.isStrict name (← locate name c.scope) v

def declare (scope : Nat) (name : String) (x : Variable) : Run Unit :=
  updateScope scope fun sc =>
    match findVariable sc.vars name 0 with
    | some i => { sc with vars := sc.vars.set! i (name, x) }
    | none => { sc with vars := sc.vars.push (name, x) }

def declareMissing (scope : Nat) (name : String) (x : Variable) : Run Unit :=
  updateScope scope fun sc =>
    match findVariable sc.vars name 0 with
    | some _ => sc
    | none => { sc with vars := sc.vars.push (name, x) }

def start (scope : Nat) (name : String) (v : Value) : Run Unit :=
  updateScope scope fun sc =>
    match findVariable sc.vars name 0 with
    | some i => { sc with vars := sc.vars.modify i fun (n, x) => (n, { x with value := some v }) }
    | none => { sc with vars := sc.vars.push (name, { value := some v }) }

def declareLexical (scope : Nat) (names : List (String × Bool)) : Run Unit := do
  for (name, isMutable) in names do
    declare scope name { value := none, isMutable }

def frameOf (c : Context) : Run Frame := do
  match (← get).scopes[c.frame]? with
  | some { frame := some f, .. } => return f
  | _ => return { this := some .undefined }

def superComplaint : String :=
  "Must call super constructor in derived class before accessing 'this' or returning from derived constructor"

def thisValue (c : Context) : Run Value := do
  match (← frameOf c).this with
  | some v => return v
  | none => raise .reference superComplaint

def bindThis (c : Context) (v : Value) : Run Unit := do
  if ((← frameOf c).this).isSome then raise .reference "this already initialized"
  updateScope c.frame fun sc => { sc with frame := sc.frame.map fun f => { f with this := some v } }

end PagePreview.Machine
