import PagePreview.Sanitized
import PagePreview.Memo
import PagePreview.PageState
import PagePreview.Text.Digest

/-! The pipeline: a source is formatted, sanitized, assembled, lowered, and run to markup. The
engines that do the work are a parameter, so that what holds of the pipeline holds for all of them. -/

namespace PagePreview

/-- The engines of a pipeline. An engine that breaks down answers with the failure `thrown ""`. -/
structure Engines where
  format : String → Formatted
  lower : String → Except Failure String
  execute : Config → String → Except Failure String
  digest : String → String := Text.digest

abbrev SanitizeMemo := Memo String Sanitized

structure Pipeline where
  config : Config
  memo : SanitizeMemo

namespace Pipeline

def new (config : Config) : Pipeline := ⟨config, { capacity := config.cacheCapacity }⟩

def finish (engines : Engines) (config : Config) (s : Sanitized) : Except Failure RenderedUnit := do
  let script ← engines.lower s.assemble
  let markup ← engines.execute config script
  pure { entryName := s.entryName, markup, summary := MarkupSummary.ofMarkup markup }

def compile (engines : Engines) (p : Pipeline) (formatted : String) :
    Except Failure RenderedUnit × Pipeline :=
  let (sanitized, memo) := p.memo.getOrCompute engines.digest formatted fun _ =>
    Sanitized.ofSource p.config formatted
  (sanitized.bind (finish engines p.config), { p with memo })

def run (engines : Engines) (p : Pipeline) (source : String) : PageState × Pipeline :=
  let state := PageState.formatting.applyFormatted (engines.format source)
  let (result, p) := p.compile engines state.formattedText
  (state.applyCompiled result, p)

/-- Runs pages one after the other; for each, its state and the number of sources remembered. -/
def runAll (engines : Engines) (p : Pipeline) : List String → List (PageState × Nat)
  | [] => []
  | source :: sources =>
    let (state, p) := p.run engines source
    (state, p.memo.size) :: p.runAll engines sources

end Pipeline

inductive Request
  | run (source : String)
  | compile (formatted : String)

inductive Answer
  | state (s : PageState)
  | result (r : Except Failure RenderedUnit)

def Answer.state? : Answer → Option PageState
  | .state s => some s
  | .result _ => none

namespace Request

def page? (engines : Engines) : Request → Option PageState
  | .run source => some (PageState.formatting.applyFormatted (engines.format source))
  | .compile _ => none

def text (engines : Engines) : Request → String
  | .run source => (PageState.formatting.applyFormatted (engines.format source)).formattedText
  | .compile formatted => formatted

def answer (engines : Engines) (r : Request) (result : Except Failure RenderedUnit) : Answer :=
  match r.page? engines with
  | some s => .state (s.applyCompiled result)
  | none => .result result

def alone (engines : Engines) (p : Pipeline) : Request → Answer
  | .run source => .state (p.run engines source).1
  | .compile formatted => .result (p.compile engines formatted).1

end Request

/-- How far a call has got. It touches the memo twice, to look its text up and to keep what it
computed, and other calls may touch the memo in between. -/
inductive Call.Phase
  | toLookUp
  | toSanitize
  | toKeep (s : Sanitized)
  | toFinish (s : Sanitized)
  | settled (result : Except Failure RenderedUnit)

structure Call where
  request : Request
  phase : Call.Phase := .toLookUp

namespace Call

def step (engines : Engines) (config : Config) (c : Call) (memo : SanitizeMemo) :
    Call × SanitizeMemo :=
  let text := c.request.text engines
  let go (phase : Phase) : Call := { c with phase }
  match c.phase with
  | .toLookUp =>
    match memo.get? engines.digest text with
    | some s => (go (.toFinish s), memo)
    | none => (go .toSanitize, memo)
  | .toSanitize =>
    match Sanitized.ofSource config text with
    | .ok s => (go (.toKeep s), memo)
    | .error e => (go (.settled (.error e)), memo)
  | .toKeep s => (go (.toFinish s), memo.insert engines.digest text s)
  | .toFinish s => (go (.settled (Pipeline.finish engines config s)), memo)
  | .settled _ => (c, memo)

def stepBound : Nat := 4

def answer? (engines : Engines) (c : Call) : Option Answer :=
  match c.phase with
  | .settled result => some (c.request.answer engines result)
  | _ => none

end Call

structure Batch where
  pipeline : Pipeline
  calls : List Call

namespace Batch

def start (pipeline : Pipeline) (requests : List Request) : Batch :=
  ⟨pipeline, requests.map fun r => { request := r }⟩

def step (engines : Engines) (b : Batch) (i : Nat) : Batch :=
  match b.calls[i]? with
  | none => b
  | some c =>
    let (c, memo) := c.step engines b.pipeline.config b.pipeline.memo
    ⟨{ b.pipeline with memo }, b.calls.set i c⟩

def run (engines : Engines) (b : Batch) (order : List Nat) : Batch := order.foldl (step engines) b

def answers (engines : Engines) (b : Batch) : List (Option Answer) :=
  b.calls.map (Call.answer? engines)

end Batch

namespace Pipeline

def inTurn (n : Nat) : List Nat := (List.range n).flatMap (List.replicate Call.stepBound)

/-- Renders independent pages on one pipeline. Their runs go on in the given order, and those not
settled by then one after the other. -/
def runMany (engines : Engines) (config : Config) (sources : List String) (order : List Nat := []) :
    List PageState :=
  let batch := Batch.start (new config) (sources.map .run)
  let answers := (batch.run engines (order ++ inTurn sources.length)).answers engines
  answers.filterMap (·.bind Answer.state?)

end Pipeline
end PagePreview
