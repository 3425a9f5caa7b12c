import PagePreview.Machine.Generator
import PagePreview.Script.Unit

/-! The evaluator tied together: what each task asks for, met by rules that may ask again. Built-in
functions are a parameter. -/

namespace PagePreview.Machine
open Script Run

abbrev Builtins := Native → Value → Array Value → Option Nat → Run Value

def asCall {α : Type} (n : Nat) (step : Run α) : Run α := do
  modify fun s => { s with held := s.held + n }
  checkLimits
  framed step

def counted {α : Type} (n : Nat) (step : Run α) : Run α := fun engine s =>
  let held := s.held
  match asCall n step engine s with
  | .ok a t => .ok a { t with held }
  | .error e t => .error e { t with held }

def receiver (isStrict : Bool) (this : Value) : Run Value := do
  if isStrict then return this
  match this with
  | .undefined | .null => return Intrinsic.globalValue
  | .object _ => return this
  | v => return .object (← toObject v)

def bindParams (c : Context) (args : Array Value) : List Expr → Nat → Run Unit
  | [], _ => return
  | p :: rest, i => do
    match p with
    | .restParam _ pattern _ =>
      destructure c (.start c.scope) pattern (← newListValue (args.extract i args.size))
    | .param _ _ pattern _ fallback =>
      let v := args.getD i .undefined
      match fallback with
      | some e => destructure c (.start c.scope) (.defaultPattern pattern e) v
      | none => destructure c (.start c.scope) pattern v
    | _ => pure ()
    bindParams c args rest (i + 1)

def enter (f : Nat) (code : Code) (outer : Context) (home : Option Nat) (this : Option Value)
    (args : Array Value) (newTarget : Value) : Run Context := do
  let isArrow := code.kind == .arrow
  let frame : Option Frame :=
    if isArrow then none else some { this, function := some f, newTarget, home }
  let vs := match code.plainParams with
    | some names => plainVariables names args
    | none => (code.params.flatMap Declared.bound).foldl (fun vs name =>
        match findVariable vs name 0 with
        | some _ => vs
        | none => vs.push (name, { value := none })) #[]
  let vs ← if code.usesArguments && (findVariable vs "arguments" 0).isNone then do
      let list ← newArguments f code vs args
      pure (vs.push ("arguments", { value := some list }))
    else pure vs
  let hasPlain := code.plainParams.isSome
  let vs := if hasPlain then bodyVariables code.names vs else vs
  let scope ← openScope { vars := vs, outer := some outer.scope, frame }
  if code.usesArguments && hasPlain && !code.isStrict then pin
  let c : Context := { scope, frame := if isArrow then outer.frame else scope, isStrict := code.isStrict }
  if !hasPlain then bindParams c args code.params 0
  let c ← if code.hasOwnBody then do
      let params := (((← get).scopes[scope]?).getD default).vars
      let taken := code.names.vars.filterMap fun name =>
        ((findVariable params name 0).bind (params[·]?)).map fun (_, x) => (name, x)
      let inner ← openScope {
        vars := bodyVariables code.names taken.toArray, outer := some scope }
      pure { c with scope := inner }
    else do
      if !hasPlain then
        updateScope scope fun sc => { sc with vars := bodyVariables code.names sc.vars }
      pure c
  for (name, e) in code.names.functions do
    let g ← newDeclared c e
    declare c.scope name { value := some g }
  return c

def runCode (f : Nat) (code : Code) (outer : Context) (home : Option Nat) (this : Option Value)
    (args : Array Value) (newTarget : Value) : Run (Completion × Option Value) :=
  counted (args.size + 2) do
    let c ← enter f code outer home this args newTarget
    let completion ← runList c code.body none
    return (completion, (← frameOf c).this)

def returned : Completion → Value
  | .return v => v
  | _ => .undefined

/-- A promise of which it is known what has become of it. Nothing that waits for one is ever run. -/
def newPromise (settled : Settled) : Run Value := do
  let id ← allocate { proto := some Intrinsic.promisePrototype.id, kind := .promise settled }
  return .object id

/-- What becomes of a promise that is resolved with a value: one that waits for another promise
stays as it is. -/
def settledWith (v : Value) : Run Settled := do
  match v with
  | .object id =>
    let known ← tryCatch (do
        let f ← getOf id (.named "then")
        return if (← get).isCallable f then Settled.pending else .fulfilled v) fun
      | .thrown e => return .rejected e
      | e => throw e
    return known
  | v => return .fulfilled v

def promised (step : Run Value) : Run Value := do
  let settled ← tryCatch (do settledWith (← step)) fun
    | .thrown v => return .rejected v
    | .suspended => return .pending
    | e => throw e
  newPromise settled

def newGenerator (f : Nat) (code : Code) (outer : Context) (home : Option Nat) (this : Value)
    (args : Array Value) : Run Value := do
  let (moves, kept) := code.moves
  let c ← counted (args.size + 2) do
    let c ← enter f code outer home (some this) args .undefined
    for name in kept do
      declare c.scope name { value := some .undefined }
    pin
    return c
  let fallback : Intrinsic := if code.isAsync then .asyncGeneratorPrototype else .generatorPrototype
  let proto ← match ← getOf f .prototype with
    | .object p => pure p
    | _ => pure fallback.id
  let id ← allocate {
    proto := some proto, kind := .generator (.paused [.moves c moves] 0) code.isAsync }
  return .object id

def constructorComplaint : String := "class constructor cannot be invoked without 'new'"

def callValue (builtins : Builtins) (f this : Value) (args : Array Value) : Run Value := do
  let .object id := f | throwType "not a callable function"
  match (← objectAt id).kind with
  | .closure code outer home _ =>
    match code.kind with
    | .constructor _ => throwType constructorComplaint
    | _ =>
      let this ← receiver code.isStrict this
      if code.isGenerator then newGenerator id code outer home this args
      else
        let run : Run Value := return returned (← runCode id code outer home (some this) args .undefined).1
        if code.isAsync then promised run else run
  | .native g => builtins g this args none
  | .bound target this more => call target this (more ++ args)
  | .proxy (some (target, handler)) true _ =>
    match ← trap handler "apply" with
    | some g =>
      let list ← newListValue args
      call g (.object handler) #[.object target, this, list]
    | none => call (.object target) this args
  | _ => throwType "not a callable function"

def protoFor (newTarget : Nat) (fallback : Intrinsic) : Run Nat := do
  match ← getOf newTarget .prototype with
  | .object p => return p
  | _ => return fallback.id

def constructValue (builtins : Builtins) (f : Nat) (args : Array Value) (newTarget : Nat) : Run Value := do
  match (← objectAt f).kind with
  | .closure code outer home _ =>
    match code.kind with
    | .constructor true =>
      let (completion, this) ← runCode f code outer home none args (.object newTarget)
      match returned completion, this with
      | .object id, _ => return .object id
      | .undefined, some v => return v
      | .undefined, none => raise .reference superComplaint
      | _, _ => throwType "derived constructor can only return an Object or undefined"
    | _ =>
      let proto ← protoFor newTarget .objectPrototype
      let id ← allocate { proto := some proto }
      giveMembers id f
      let (completion, _) ← runCode f code outer home (some (.object id)) args (.object newTarget)
      match returned completion with
      | .object id => return .object id
      | _ => return .object id
  | .native g => builtins g .undefined args (some newTarget)
  | .bound (.object target) _ more => construct target (more ++ args) (if newTarget == f then target else newTarget)
  | .proxy (some (target, handler)) _ true =>
    match ← trap handler "construct" with
    | some g =>
      let list ← newListValue args
      match ← call g (.object handler) #[.object target, list, .object newTarget] with
      | .object id => return .object id
      | _ => throwType "Proxy trap constructor returned non-object value"
    | none => construct target args (if newTarget == f then target else newTarget)
  | _ => throwType "not a constructor"

def globalContext : Context := { scope := globalScope, frame := globalScope, isStrict := false }

def runHere (outer : Context) (body : List Stmt) : Run Value := do
  let isStrict := outer.isStrict || Declared.isStrict body
  let names := Names.ofBody body
  inScope { outer := some outer.scope } fun scope => do
    let c : Context := { outer with scope, isStrict }
    let home := if isStrict then scope else outer.frame
    for name in names.vars do
      if home == globalScope then
        let global := Intrinsic.globalObject.id
        if (← ownProperty global (.named name)).isNone then
          createProperty global (.named name) .undefined
      else declareMissing home name { value := some .undefined }
    declareLexical scope names.lexical
    for (name, e) in names.functions do
      let f ← newDeclared c e
      if home == globalScope then createProperty Intrinsic.globalObject.id (.named name) f
      else declare home name { value := some f }
    return valueOf (← runList c body none)

/-- What a text that is evaluated where it stands refers to without there being such a thing. -/
def missingTrait? (frame : Frame) (isDerived : Bool) (body : List Stmt) : Option String :=
  if frame.function.isNone && Early.anyStmt .newTarget body then
    some "invalid \x60new.target\x60 expression inside eval"
  else if frame.home.isNone && Early.anyStmt .parentMember body then
    some "invalid \x60super\x60 reference inside eval"
  else if !isDerived && Early.anyStmt .parentCall body then
    some "invalid \x60super\x60 call inside eval"
  else none

def checkTraits (c : Context) (body : List Stmt) : Run Unit := do
  let frame ← frameOf c
  let isDerived ← match frame.function with
    | some f => match (← objectAt f).kind with
      | .closure code .. => pure (code.kind == .constructor true)
      | _ => pure false
    | none => pure false
  if let some message := missingTrait? frame isDerived body then raise .malformed message

def evaluateSource (c : Option Context) (text : String) : Run Value := do
  match readPlain c.isSome text with
  | .error message => raise .malformed message
  | .ok body =>
    match c with
    | some c => do
      checkTraits c body
      runHere c body
    | none => framed (runHere globalContext body)

def performTask (builtins : Builtins) (t : Task) : Run Completion := do
  match t with
  | .expr c e => return .normal (some (← expression c e))
  | .stmt c s => statement c s
  | .call f this args => return .normal (some (← callValue builtins f this args))
  | .construct f args newTarget => return .normal (some (← constructValue builtins f args newTarget))
  | .source c text => return .normal (some (← evaluateSource c text))

def engine (builtins : Builtins) : Nat → Engine
  | 0 => ⟨fun _ => throw (.limit heldLimitComplaint)⟩
  | fuel + 1 => ⟨fun t s => performTask builtins t (engine builtins fuel) s⟩

end PagePreview.Machine
