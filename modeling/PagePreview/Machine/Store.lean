import PagePreview.Machine.Element
import PagePreview.Machine.Properties
import PagePreview.Script.Move

/-! The store of a running script: its objects, its scopes, its symbols, and how deep it is in
calls. Steps over the store can end early; those that need the evaluator reach it through one
task, so that it is tied together in one place. -/

namespace PagePreview.Machine
open Script

inductive CodeKind
  | plain | arrow | method
  | constructor (isDerived : Bool)
  deriving DecidableEq

structure Names where
  vars : List String := []
  functions : List (String × Expr) := []
  lexical : List (String × Bool) := []

structure Code where
  kind : CodeKind
  isAsync : Bool := false
  isGenerator : Bool := false
  isStrict : Bool := false
  params : List Expr
  plainParams : Option (List String)
  /-- Functions are made while the parameters get their values; they do not see the body's names. -/
  hasOwnBody : Bool := false
  body : List Stmt
  names : Names
  usesArguments : Bool
  moves : List Move × List String := ([], [])

/-- Where a piece of code runs: its scope, the scope that holds its `this`, its strictness. -/
structure Context where
  scope : Nat
  frame : Nat
  isStrict : Bool
  deriving Inhabited

structure Field where
  key : Key
  value : Option Expr
  context : Context
  name : Str

structure Members where
  methods : Array (Key × Property)
  fields : Array Field

inductive Family
  | global | object | function | array | string | number | boolean | symbol | bigint | math | json
  | error | pattern | map | set | weakMap | weakSet | weakRef | promise | proxy | reflect | iterator
  | generator | date | buffer | row | window | atomics | console | page
  deriving DecidableEq

structure Native where
  family : Family
  name : String
  captured : List Value := []
  isConstructor : Bool := false

inductive Listing
  | keys | values | entries
  deriving DecidableEq

inductive Iteration
  | array (target : Option Nat) (next : Nat) (listing : Listing)
  | text (units : Array UInt16) (next : Nat)
  | entries (family : Family) (target : Option Nat) (next : Nat) (listing : Listing)
  | matches (matcher : Nat) (text : Str) (isGlobal isUnicode : Bool)
  | ended

inductive Source
  | list (id next : Nat)
  | iterator (object next : Value)

structure NameWalk where
  object : Option Nat
  keys : Option (List Key) := none
  seen : Std.HashSet Str := {}

def NameWalk.ofObject (id : Nat) : NameWalk := { object := some id }

inductive Completion
  | normal (value : Option Value)
  | break (label : Option String)
  | continue (label : Option String)
  | return (value : Value)
  deriving Inhabited

structure Cycle where
  labels : List String
  declared : List (String × Bool)
  before : List Move
  test : Option Expr
  after : List Move
  body : List Move

inductive Ending
  | thrown (v : Value)
  | completed (c : Completion)

inductive Pending
  | moves (c : Context) (rest : List Move)
  | receive (c : Context) (name : String)
  | delegate (c : Context) (name : String) (iterator next : Value)
  | test (c : Context) (cycle : Cycle)
  | turn (c : Context) (cycle : Cycle)
  | each (c : Context) (labels : List String) (left : Stmt) (body : List Move) (source : Source)
  | names (c : Context) (labels : List String) (left : Stmt) (body : List Move) (walk : NameWalk)
  | labeled (labels : List String)
  | switched
  | guarded (c : Context) (param : Option Expr) (handler finalizer : Option (List Stmt × List Move))
  | finish (ending : Ending)

inductive Progress
  | paused (rest : List Pending) (loops : Nat)
  | running
  | ended

inductive MapKey
  | undefined | null
  | bool (b : Bool)
  | bits (b : UInt64)
  | bigint (n : Int)
  | string (s : Str)
  | symbol (id : Nat)
  | object (id : Nat)
  deriving DecidableEq, Hashable

def MapKey.of : Value → MapKey
  | .undefined => .undefined
  | .null => .null
  | .bool b => .bool b
  | .number x => .bits (if x == 0 then 0 else if x.isNaN then 0x7FF8000000000000 else x.toBits)
  | .bigint n => .bigint n
  | .string s => .string s
  | .symbol id => .symbol id
  | .object id => .object id

structure Entries where
  slots : Array (Option (Value × Value)) := #[]
  index : Std.HashMap MapKey Nat := {}

namespace Entries

def get? (es : Entries) (k : Value) : Option Value :=
  match es.index[MapKey.of k]? with
  | some i => (es.slots[i]?.join).map Prod.snd
  | none => none

def insert (es : Entries) (k v : Value) : Entries :=
  let m := MapKey.of k
  match es.index[m]? with
  | some i => { es with slots := es.slots.set! i (some (k, v)) }
  | none =>
    let n := es.slots.size
    { slots := es.slots.push (some (k, v)), index := es.index.insert m n }

def erase (es : Entries) (k : Value) : Entries :=
  let m := MapKey.of k
  match es.index[m]? with
  | some i => { slots := es.slots.set! i none, index := es.index.erase m }
  | none => es

def size (es : Entries) : Nat := es.index.size

def toList (es : Entries) : List (Value × Value) := es.slots.toList.filterMap id

def next? (es : Entries) (i : Nat) : Option ((Value × Value) × Nat) :=
  if h : i < es.slots.size then
    match es.slots[i] with
    | some e => some (e, i + 1)
    | none => es.next? (i + 1)
  else none
  termination_by es.slots.size - i

end Entries

inductive Settled
  | pending
  | fulfilled (v : Value)
  | rejected (v : Value)

structure Buffer where
  bytes : ByteArray
  maximum : Option Nat := none
  isShared : Bool := false
  isDetached : Bool := false

/-- A part of a buffer as a row of numbers; without a length it ends where the buffer ends. -/
structure View where
  element : Element
  buffer : Nat
  offset : Nat
  length : Option Nat

inductive Kind
  | plain
  | array (elements : Array (Option Value)) (length : Nat) (isFixed : Bool)
  | closure (code : Code) (context : Context) (home : Option Nat) (members : Members)
  | native (f : Native)
  | bound (target : Value) (this : Value) (args : Array Value)
  | error
  | bool (b : Bool)
  | number (x : Float)
  | bigint (n : Int)
  | string (s : Str)
  | symbol (id : Nat)
  | pattern (source flags : String)
  | map (entries : Entries)
  | set (entries : Entries)
  | weakMap (entries : Entries)
  | weakSet (entries : Entries)
  | promise (settled : Settled)
  | date (time : Float)
  /-- The arguments of a call; those that are also variables have the places of these in a scope. -/
  | arguments (vars : Option (Nat × Array (Option Nat)))
  | buffer (b : Buffer)
  | row (view : View)
  | window (buffer offset : Nat) (length : Option Nat)
  | weakRef (target : Value)
  | iterator (state : Iteration)
  | generator (progress : Progress) (isAsync : Bool)
  | proxy (target : Option (Nat × Nat)) (isCallable isConstructor : Bool)

structure Object where
  proto : Option Nat
  kind : Kind := .plain
  properties : Properties := {}
  isExtensible : Bool := true

instance : Inhabited Object := ⟨{ proto := none }⟩

structure Variable where
  value : Option Value
  isMutable : Bool := true
  isLoud : Bool := true
  deriving Inhabited

structure Frame where
  this : Option Value
  function : Option Nat := none
  newTarget : Value := .undefined
  home : Option Nat := none

structure Scope where
  vars : Array (String × Variable) := #[]
  outer : Option Nat
  frame : Option Frame := none
  object : Option Nat := none

instance : Inhabited Scope := ⟨{ outer := none }⟩

structure SymbolInfo where
  description : Option Str
  isShared : Bool := false

structure Limits where
  loops : Nat
  calls : Nat

structure State where
  objects : Array Object := #[]
  scopes : Array Scope := #[]
  symbols : Array SymbolInfo := #[]
  limits : Limits
  depth : Nat := 0
  held : Nat := 0
  loops : Nat := 0
  pinned : Nat := 0
  identifiers : Nat := 0
  joining : List Nat := []
  templates : List ((Nat × List String) × Nat) := []

inductive Abrupt
  | thrown (v : Value)
  | limit (message : String)
  | suspended
  | cut

inductive Task
  | expr (c : Context) (e : Expr)
  | stmt (c : Context) (s : Stmt)
  | call (f this : Value) (args : Array Value)
  | construct (f : Nat) (args : Array Value) (newTarget : Nat)
  | source (c : Option Context) (text : String)

abbrev Step := EStateM Abrupt State

structure Engine where
  perform : Task → Step Completion

abbrev Run := ReaderT Engine Step

namespace Run

def perform (t : Task) : Run Completion := fun e => e.perform t

def valueOf : Completion → Value
  | .normal v => v.getD .undefined
  | .return v => v
  | _ => .undefined

def evaluate (c : Context) (e : Expr) : Run Value := return valueOf (← perform (.expr c e))
def execute (c : Context) (s : Stmt) : Run Completion := perform (.stmt c s)
def call (f this : Value) (args : Array Value) : Run Value := return valueOf (← perform (.call f this args))
def construct (f : Nat) (args : Array Value) (newTarget : Nat) : Run Value :=
  return valueOf (← perform (.construct f args newTarget))

def throwValue {α : Type} (v : Value) : Run α := throw (.thrown v)

def holding {α : Type} (n : Nat) (step : Run α) : Run α := do
  modify fun s => { s with held := s.held + n }
  let a ← step
  modify fun s => { s with held := s.held - n }
  return a

end Run

namespace State

def object (s : State) (id : Nat) : Object := s.objects.getD id default

def isCallable (s : State) : Value → Bool
  | .object id => match (s.object id).kind with
    | .closure .. | .native _ | .bound .. => true
    | .proxy _ callable _ => callable
    | _ => false
  | _ => false

def codeIsConstructor (c : Code) : Bool :=
  match c.kind with
  | .plain => !c.isAsync && !c.isGenerator
  | .constructor _ => true
  | _ => false

def isConstructorFrom (s : State) : Nat → Value → Bool
  | fuel + 1, .object id => match (s.object id).kind with
    | .closure c .. => codeIsConstructor c
    | .native f => f.isConstructor
    | .bound target .. => isConstructorFrom s fuel target
    | .proxy _ _ constructor => constructor
    | _ => false
  | _, _ => false

def isConstructor (s : State) (v : Value) : Bool := s.isConstructorFrom s.objects.size v

end State

def allocate (o : Object) : Run Nat := do
  let s ← get
  let id := s.objects.size
  set { s with objects := s.objects.push o }
  return id

def objectAt (id : Nat) : Run Object := return (← get).object id

def updateObject (id : Nat) (f : Object → Object) : Run Unit :=
  modify fun s => { s with objects := s.objects.modify id f }

def setKind (id : Nat) (k : Kind) : Run Unit := updateObject id fun o => { o with kind := k }

def newSymbol (description : Option Str) (isShared : Bool := false) : Run Nat := do
  let s ← get
  let id := s.symbols.size
  set { s with symbols := s.symbols.push { description, isShared } }
  return id

def openScope (scope : Machine.Scope) : Run Nat := do
  let s ← get
  let id := s.scopes.size
  set { s with scopes := s.scopes.push scope }
  return id

end PagePreview.Machine
