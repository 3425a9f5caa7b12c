import PagePreview.Machine.Environment
import PagePreview.Machine.Iterate
import PagePreview.Script.Declared

/-! Functions: how one is made from what was written, how a call binds its arguments, and the
limits on calls. -/

namespace PagePreview.Machine
open Script

def bodyOf : Stmt → List Stmt
  | .block body => body
  | .expression e => [.return (some e)]
  | s => [s]

def Names.ofBody (body : List Stmt) : Names where
  vars := Declared.vars body
  functions := Declared.functions body
  lexical := Declared.lexical body

def Code.of (kind : CodeKind) (isAsync isGenerator isStrict : Bool) (params : List Expr)
    (body : List Stmt) : Code :=
  let isStrict := isStrict || Declared.isStrict body
  { kind, isAsync, isGenerator, isStrict, params, body
    plainParams := Declared.plainParams? params
    hasOwnBody := Declared.makesFunctions params
    names := .ofBody body
    usesArguments := kind != .arrow && Declared.usesArguments params body
    moves := if isGenerator then Move.ofBody body else ([], []) }

def expectedCount (params : List Expr) : Nat :=
  (params.takeWhile fun
    | .param _ _ _ _ none => true
    | _ => false).length

def codeOf? (isStrict : Bool) (kind : CodeKind) : Expr → Option (Option String × Code)
  | .function name isAsync isGenerator _ _ params _ (some body) =>
    some (name, .of kind isAsync isGenerator isStrict params body)
  | .arrow isAsync _ params _ body =>
    some (none, .of .arrow isAsync false isStrict params (bodyOf body))
  | _ => none

def pin : Run Unit := modify fun s => { s with pinned := s.scopes.size }

def functionProto (code : Code) : Intrinsic :=
  if code.isGenerator then
    if code.isAsync then .asyncGeneratorFunctionPrototype else .generatorFunctionPrototype
  else if code.isAsync then .asyncFunctionPrototype
  else .functionPrototype

def newClosure (c : Context) (code : Code) (name : Str) (home : Option Nat) : Run Nat := do
  let properties := Properties.ofList [
    (.length, .data (.ofNat (expectedCount code.params)) false false true),
    (.name, .data (.string name) false false true)]
  pin
  let id ← allocate {
    proto := some (functionProto code).id, properties
    kind := .closure code c home ⟨#[], #[]⟩ }
  if code.isGenerator then
    let parent : Intrinsic := if code.isAsync then .asyncGeneratorPrototype else .generatorPrototype
    let p ← allocate { proto := some parent.id }
    updateObject id (·.store .prototype (.data (.object p) true false false))
  else if State.codeIsConstructor code then
    let p ← allocate {
      proto := some Intrinsic.objectPrototype.id
      properties := .ofList [(.constructor, .unlisted (.object id))] }
    updateObject id (·.store .prototype (.data (.object p) true false false))
  return id

def newFunction (c : Context) (e : Expr) (fallback : Str) : Run Value := do
  match codeOf? c.isStrict .plain e with
  | none => return .undefined
  | some (none, code) => return .object (← newClosure c code fallback none)
  | some (some name, code) =>
    let scope ← openScope { outer := some c.scope }
    let id ← newClosure { c with scope } code (.plain name) none
    declare scope name { value := some (.object id), isMutable := false, isLoud := false }
    return .object id

def newDeclared (c : Context) (e : Expr) : Run Value := do
  match codeOf? c.isStrict .plain e with
  | some (name, code) => return .object (← newClosure c code (.plain (name.getD "")) none)
  | none => return .undefined

def newMethod (c : Context) (e : Expr) (name : Str) (home : Nat) : Run Nat := do
  match codeOf? c.isStrict .method e with
  | some (_, code) => newClosure c code name (some home)
  | none => allocate { proto := none }

def Key.functionName (k : Key) : Run Str := do
  match k with
  | .text name => return name
  | .symbol id | .hidden id =>
    match ((← get).symbols[id]?).bind (·.description) with
    | some d => return "[" ++ d ++ "]"
    | none => return .empty

def callLimitComplaint : String := "exceeded maximum number of recursive calls"
def heldLimitComplaint : String := "exceeded maximum call stack length"

def heldLimit : Nat := 1024

def checkLimits : Run Unit := do
  let s ← get
  if s.limits.calls ≤ s.depth then throw (.limit callLimitComplaint)
  if heldLimit ≤ s.held then throw (.limit heldLimitComplaint)

def countLoop : Run Unit := do
  let s ← get
  if s.limits.loops < s.loops then
    throw (.limit ("Maximum loop iteration limit " ++ toString s.limits.loops ++ " exceeded"))
  set { s with loops := s.loops + 1 }

def State.dropScopes (size : Nat) (s : State) : State :=
  if s.pinned ≤ size then { s with scopes := s.scopes.shrink size } else s

def State.leave (depth held loops size : Nat) (s : State) : State :=
  { s.dropScopes size with depth, held, loops }

/-- Runs a step as one call: it has loops of its own, and its scopes go when it ends, unless
something was made that keeps them. -/
def framed {α : Type} (step : Run α) : Run α := fun engine s =>
  let depth := s.depth
  let held := s.held
  let loops := s.loops
  let size := s.scopes.size
  match step engine { s with depth := depth + 1, loops := 0 } with
  | .ok a t => .ok a (t.leave depth held loops size)
  | .error e t => .error e (t.leave depth held loops size)

/-- Runs a step in a new scope, which goes when it ends, unless something was made that keeps it. -/
def inScope {α : Type} (scope : Machine.Scope) (step : Nat → Run α) : Run α := fun engine s =>
  let id := s.scopes.size
  match step id engine { s with scopes := s.scopes.push scope } with
  | .ok a t => .ok a (t.dropScopes id)
  | .error e t => .error e (t.dropScopes id)

/-- The list of a call's arguments. In loose code with plain parameters an argument is also the
variable of its parameter; `vars` are those of the scope that is opened next. -/
def newArguments (f : Nat) (code : Code) (vars : Array (String × Variable)) (args : Array Value) :
    Run Value := do
  let isMapped := !code.isStrict && code.plainParams.isSome
  let entries := (args.toList.zipIdx).map fun (v, i) => (Key.ofIndex i, Property.plain v)
  let thrower := Intrinsic.strictThrower.value
  let callee : Property :=
    if isMapped then .unlisted (.object f) else .accessor thrower thrower false false
  let values ← getOf Intrinsic.arrayPrototype.id (.named "values")
  let names := ((code.plainParams.getD []).take args.size).zipIdx
  let place (name : String) (i : Nat) : Option Nat :=
    if names.any fun (n, j) => n == name && i < j then none else findVariable vars name 0
  let places := (names.map fun (name, i) => place name i).toArray
  let scope := (← get).scopes.size
  let kind := Kind.arguments (if isMapped then some (scope, places) else none)
  let id ← allocate {
    proto := some Intrinsic.objectPrototype.id, kind
    properties := .ofList (entries ++ [(.length, .unlisted (.ofNat args.size)),
      (.iterator, .unlisted values), (.named "callee", callee)]) }
  return .object id

def plainVariables (names : List String) (args : Array Value) : Array (String × Variable) :=
  (names.foldl (fun (vs, i) name =>
    let x : Variable := { value := some (args.getD i .undefined) }
    match findVariable vs name 0 with
    | some j => (vs.set! j (name, x), i + 1)
    | none => (vs.push (name, x), i + 1)) ((#[] : Array (String × Variable)), 0)).1

def bodyVariables (names : Names) (vs : Array (String × Variable)) : Array (String × Variable) :=
  let vs := names.vars.foldl (fun vs name =>
    match findVariable vs name 0 with
    | some _ => vs
    | none => vs.push (name, { value := some .undefined })) vs
  names.lexical.foldl (fun vs (name, isMutable) => vs.push (name, { value := none, isMutable })) vs

end PagePreview.Machine
