import PagePreview.Machine.Builtin.Collections

/-! Generators, promises and stand-ins. Nothing that waits for a promise is ever run. -/

namespace PagePreview.Machine.Builtin
open Script Run

def generatorMethods : List (String × Nat) := [("next", 1), ("return", 1), ("throw", 1)]

def generatorMethod (name : String) (this : Value) (args : Array Value) : Run Value := do
  let .object id := this | throwType "Generator method called on non generator"
  let v := argument args 0
  let signal : Generator.Signal := match name with
    | "return" => .return v
    | "throw" => .throw v
    | _ => .next v
  match (← objectAt id).kind with
  | .generator progress true => do
    match progress with
    | .paused pending loops =>
      setKind id (.generator .running true)
      tryCatch (do let _ ← Generator.resumed pending loops signal) fun
        | .thrown _ | .suspended => return
        | e => throw e
    | _ => pure ()
    newPromise .pending
  | _ => Generator.resume id signal

def settle (id : Nat) (settled : Settled) : Run Unit := do
  match (← objectAt id).kind with
  | .promise .pending => setKind id (.promise settled)
  | _ => return

def settler (name : String) (promise : Nat) : Run Value := do
  let id ← allocate {
    proto := some Intrinsic.functionPrototype.id
    kind := .native { family := .promise, name, captured := [.object promise] }
    properties := .ofList [(.length, .data (.number 1) false false true),
      (.name, .data (.text "") false false true)] }
  return .object id

def openPromise (proto : Nat) : Run (Nat × Value × Value) := do
  let id ← allocate { proto := some proto, kind := .promise .pending }
  return (id, ← settler "resolve with" id, ← settler "reject with" id)

def promiseMethods : List (String × Nat) := [("catch", 1), ("finally", 1), ("then", 2)]
def promiseFunctions : List (String × Nat) := [
  ("all", 1), ("allSettled", 1), ("any", 1), ("race", 1), ("reject", 1), ("resolve", 1),
  ("withResolvers", 0)]

def promiseFor (maker : Value) : Run (Value × Value × Value) := do
  if maker.same Intrinsic.promiseConstructor.value then
    let (id, resolve, reject) ← openPromise Intrinsic.promisePrototype.id
    return (.object id, resolve, reject)
  let .object c := maker | throwType "PromiseCapability expects a constructor"
  if !(← get).isConstructor maker then throwType "PromiseCapability expects a constructor"
  let holder ← allocate { proto := none }
  let executor ← allocate {
    proto := some Intrinsic.functionPrototype.id
    kind := .native { family := .promise, name := "keep settlers", captured := [.object holder] }
    properties := .ofList [(.length, .data (.number 2) false false true),
      (.name, .data (.text "") false false true)] }
  let promise ← construct c #[.object executor] c
  let resolve ← getOf holder (.named "resolve")
  if !(← get).isCallable resolve then throwType "promiseCapability.[[Resolve]] is not callable"
  let reject ← getOf holder (.named "reject")
  if !(← get).isCallable reject then throwType "promiseCapability.[[Reject]] is not callable"
  return (promise, resolve, reject)

/-- A promise for the promises of a list. Each value is made a promise and asked to tell when it is
settled, which never happens. -/
def promiseOfAll (this list : Value) : Run Value := do
  let (promise, _, reject) ← promiseFor this
  tryCatch (do
      let resolve ← getValue this (.named "resolve")
      if !(← get).isCallable resolve then throwType "retrieving a non-callable promise resolver"
      for v in ← valuesOf list do
        let p ← call resolve this #[v]
        let _ ← invoke p "then" #[.undefined, reject]
      return promise) fun
    | .thrown e => do
      let _ ← call reject .undefined #[e]
      return promise
    | e => throw e

def promiseOf (maker v : Value) : Run Value := do
  if let .object id := v then
    if let .promise _ := (← objectAt id).kind then
      if (← getOf id .constructor).same maker then return v
  let (promise, resolve, _) ← promiseFor maker
  let _ ← call resolve .undefined #[v]
  return promise

def promiseFunction (name : String) (this : Value) (args : Array Value) (newTarget : Option Nat) : Run Value := do
  let first := argument args 0
  if name != "constructor" && !this.isObject then throwType ("Promise." ++ name ++ "() called on a non-object")
  match name with
  | "resolve" => promiseOf this first
  | "reject" => do
    let (promise, _, reject) ← promiseFor this
    let _ ← call reject .undefined #[first]
    return promise
  | "withResolvers" => do
    let (promise, resolve, reject) ← promiseFor this
    newRecord [("promise", promise), ("resolve", resolve), ("reject", reject)]
  | "all" | "allSettled" | "any" | "race" => promiseOfAll this first
  | _ => do
    if newTarget.isNone then throwType "Promise NewTarget cannot be undefined"
    if !(← get).isCallable first then throwType "Promise executor is not callable"
    let (id, resolve, reject) ← openPromise (← madeFor newTarget .promisePrototype)
    tryCatch (do let _ ← call first .undefined #[resolve, reject]) fun
      | .thrown e => settle id (.rejected e)
      | e => throw e
    return .object id

def promiseMethod (f : Native) (this : Value) (args : Array Value) : Run Value := do
  match f.name, f.captured with
  | "resolve with", [.object id] => do
    settle id (← settledWith (argument args 0))
    return .undefined
  | "reject with", [.object id] => do
    settle id (.rejected (argument args 0))
    return .undefined
  | "keep settlers", [.object holder] => do
    if !(← getOf holder (.named "resolve")).isUndefined then
      throwType "promiseCapability.[[Resolve]] is not undefined"
    if !(← getOf holder (.named "reject")).isUndefined then
      throwType "promiseCapability.[[Reject]] is not undefined"
    createProperty holder (.named "resolve") (argument args 0)
    createProperty holder (.named "reject") (argument args 1)
    return .undefined
  | "catch", _ => invoke this "then" #[.undefined, argument args 0]
  | "finally", _ => do
    let .object id := this | throwType "finally called with a non-object promise"
    let _ ← makerOf id Intrinsic.promiseConstructor.id
    invoke this "then" #[argument args 0, argument args 0]
  | _, _ => do
    let .object id := this | throwType "this is not an object"
    match (← objectAt id).kind with
    | .promise _ => do
      let (promise, _) ← promiseFor (.object (← makerOf id Intrinsic.promiseConstructor.id))
      return promise
    | _ => throwType "this object is not a Promise"

def newProxy (args : Array Value) : Run Nat := do
  match argument args 0, argument args 1 with
  | .object target, .object handler =>
    let s ← get
    let t := Value.object target
    allocate { proto := none, kind := .proxy (some (target, handler)) (s.isCallable t) (s.isConstructor t) }
  | .object _, _ => throwType "Proxy constructor called with non-object handler"
  | _, _ => throwType "Proxy constructor called with non-object target"

/-- The constructor of stand-ins, its function that makes one with what takes it back, and what it
makes for that. -/
def proxyFunction (f : Native) (args : Array Value) (newTarget : Option Nat) : Run Value := do
  match f.name, f.captured with
  | "revoke", [.object id] => do
    match (← objectAt id).kind with
    | .proxy _ isCallable isConstructor => setKind id (.proxy none isCallable isConstructor)
    | _ => pure ()
    return .undefined
  | "revocable", _ => do
    let id ← newProxy args
    let revoke ← allocate {
      proto := some Intrinsic.functionPrototype.id
      kind := .native { family := .proxy, name := "revoke", captured := [.object id] }
      properties := .ofList [(.length, .data (.number 0) false false true),
        (.name, .data (.text "") false false true)] }
    newRecord [("proxy", .object id), ("revoke", .object revoke)]
  | _, _ => do
    if newTarget.isNone then throwType "Proxy constructor called on undefined new target"
    return .object (← newProxy args)

end PagePreview.Machine.Builtin
