import PagePreview.Sanitized
import PagePreview.Config
import PagePreview.Failure
import PagePreview.Machine.Display
import PagePreview.Machine.Realm

/-! The sandbox: units are evaluated one after the other by one machine, whose globals stay; each is
given the handle of the page's runtime and returns the component to be rendered. -/

namespace PagePreview
open Machine

structure Sandbox where
  state : Except Failure State

namespace Sandbox

/-- How deep the evaluator's tasks may be nested. The limit on values put by ends a run long before
that. -/
def taskDepth : Nat := 1000000

def setupCalls : Nat := 2

def ofConfig (config : Config) : Sandbox where
  state :=
    if config.recursionLimit < setupCalls then .error (.thrown callLimitComplaint)
    else .ok (.initial { loops := config.loopIterationLimit, calls := config.recursionLimit })

def attempt {α : Type} (s : State) (step : Run α) : Except String α × State :=
  let engine := Machine.engine builtins taskDepth
  match step engine s with
  | .ok a s => (.ok a, s)
  | .error e s =>
    match e with
    | .limit message => (.error message, s)
    | .suspended | .cut => (.error "", s)
    | .thrown v =>
      match report v engine s with
      | .ok message s => (.error message, s)
      | .error (.limit message) s => (.error message, s)
      | .error _ s => (.error "", s)

def failureOf (message : String) : Failure :=
  match Text.after? missingEntryMark.toList message.toList with
  | some entry => .missingEntry (String.ofList entry)
  | none => .thrown message

def wrapped (script : String) : String :=
  "(function (" ++ runtimeParameter ++ ") \x7b\n" ++ script ++ "\n\x7d)"

def handleFunction (name : String) : Run (Except Failure Value) := do
  let f ← getOf Intrinsic.handle.id (.named name)
  if (← get).isCallable f then return .ok f
  return .error (.thrown ("runtime is missing \x60" ++ name ++ "\x60"))

def factory (script : String) : Run Value := evaluateSource none (wrapped script)

def entryOf (unit : Value) : Run (Except Failure Value) := do
  let entry ← Run.call unit .undefined #[Intrinsic.handle.value]
  if (← get).isCallable entry then return .ok entry
  return .error .notRenderable

def markupOf (entry : Value) : Run (Except Failure String) := do
  match ← handleFunction "createElement" with
  | .error e => return .error e
  | .ok create =>
    match ← handleFunction "renderToString" with
    | .error e => return .error e
    | .ok render =>
      let element ← Run.call create .undefined #[entry, .null]
      match ← Run.call render .undefined #[element] with
      | .string s => return .ok s.display
      | _ => return .error .notRenderable

def answered {α : Type} (s : State) (step : Run (Except Failure α)) : Except Failure α × State :=
  match attempt s step with
  | (.ok r, s) => (r, s)
  | (.error message, s) => (.error (failureOf message), s)

/-- Evaluates a script and renders the component that it returns. A script may close the function that
it is wrapped in and go on, so that what it evaluates to is no function. -/
def renderIn (s : State) (script : String) : Except Failure String × State :=
  match attempt s (factory script) with
  | (.error message, s) => (.error (.lowering message), s)
  | (.ok unit, s) =>
    if s.isCallable unit then
      match answered s (entryOf unit) with
      | (.error e, s) => (.error e, s)
      | (.ok entry, s) => answered s (markupOf entry)
    else (.error (.lowering "the assembled unit is not a function"), s)

def render (sandbox : Sandbox) (script : String) : Except Failure String × Sandbox :=
  match sandbox.state with
  | .error e => (.error e, sandbox)
  | .ok s =>
    let (r, s) := renderIn s script
    (r, ⟨.ok s⟩)

def renderAll (sandbox : Sandbox) : List String → List (Except Failure String)
  | [] => []
  | script :: scripts =>
    let (r, sandbox) := sandbox.render script
    r :: sandbox.renderAll scripts

def execute (config : Config) (script : String) : Except Failure String :=
  ((ofConfig config).render script).1

end Sandbox
end PagePreview
