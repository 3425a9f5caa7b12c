import PagePreview.Pipeline
import PagePreview.View

/-! The surface: it shows the page of the source given last. Every new source starts a run on a
worker of its own, which reports through an inbox; only the surface's owner applies reports, and
those of a superseded run never reach it. -/

namespace PagePreview

inductive Report
  | formatted (result : Formatted)
  | compiled (result : Except Failure RenderedUnit)

def PageState.apply (s : PageState) : Report → PageState
  | .formatted f => s.applyFormatted f
  | .compiled r => s.applyCompiled r

/-- How far a worker has got; before each piece of work and each report it looks whether its run
was called off. -/
inductive Phase
  | begun
  | toFormat
  | holding (result : Formatted)
  | toReport (result : Formatted)
  | reported (text : String)
  | toCompile (text : String)
  | compiled (result : Except Failure RenderedUnit)
  | toSettle (result : Except Failure RenderedUnit)
  | leaving
  | gone

structure Worker where
  run : Nat
  source : String
  phase : Phase := .begun

structure Run where
  id : Nat
  inbox : List (Nat × Report) := []
  connected : Bool := true

namespace Run

def receive (id : Nat) (report : Report) (r : Run) : Run :=
  if r.id = id then { r with inbox := r.inbox ++ [(id, report)] } else r

def close (id : Nat) (r : Run) : Run := if r.id = id then { r with connected := false } else r

end Run

structure Surface where
  showCodePanel : Bool := false
  source : Option String := none
  state : PageState := .formatting
  run : Option Run := none
  nextRun : Nat := 1
  calledOff : List Nat := []

namespace Surface

def currentRun (s : Surface) : Option Nat := s.run.map (·.id)

def view (s : Surface) : View := View.ofState s.state s.showCodePanel

def isCalledOff (s : Surface) (id : Nat) : Bool := s.calledOff.contains id

/-- A new source for run `nextRun`, which supersedes the current one; `spawned` tells whether a
worker could be started. -/
def accept (s : Surface) (source : String) (spawned : Bool) : Surface :=
  { s with
    source := some source
    state := if spawned then .formatting else PageState.formatting.fail .workerLost
    run := if spawned then some { id := s.nextRun } else none
    nextRun := s.nextRun + 1
    calledOff := s.currentRun.toList ++ s.calledOff }

def apply (s : Surface) (id : Nat) (report : Report) : Surface :=
  if s.currentRun = some id && !s.isCalledOff id then { s with state := s.state.apply report }
  else s

def workerGone (s : Surface) : Surface :=
  { s with run := none, state := if s.state.isTerminal then s.state else s.state.fail .workerLost }

/-- Takes the oldest report, or notes that none will come; nothing if there is nothing to take. -/
def take? (s : Surface) : Option Surface :=
  match s.run with
  | none => none
  | some run =>
    match run.inbox with
    | (id, report) :: inbox => some ({ s with run := some { run with inbox } }.apply id report)
    | [] => if run.connected then none else some s.workerGone

def poll (s : Surface) : Bool × Surface :=
  let size := s.run.elim 0 (·.inbox.length + 1)
  go size s
where
  go : Nat → Surface → Bool × Surface
    | 0, s => (false, s)
    | fuel + 1, s =>
      match s.take? with
      | none => (false, s)
      | some t =>
        let (changed, u) := go fuel t
        (changed || s.state.status != t.state.status, u)

def receive (s : Surface) (id : Nat) (report : Report) : Surface :=
  { s with run := s.run.map (Run.receive id report) }

def disconnect (s : Surface) (id : Nat) : Surface := { s with run := s.run.map (Run.close id) }

end Surface

structure Session where
  pipeline : Pipeline
  surface : Surface := {}
  workers : List Worker := []

namespace Session

/-- Workers whose stack cannot be reserved are not started; an address space has 2^47 bytes. -/
def canSpawn (config : Config) : Bool := config.workerStackSize < Nat.pow 2 47

def setSource (s : Session) (source : String) (spawned : Bool) : Bool × Session :=
  if s.surface.source = some source then (false, s)
  else
    let fresh := if spawned then [{ run := s.surface.nextRun, source : Worker }] else []
    (true, { s with surface := s.surface.accept source spawned, workers := s.workers ++ fresh })

/-- One step of a worker: what it becomes, and what it reports. It leaves early when its run was
called off, or when nobody has heard its first report. -/
def workerStep (engines : Engines) (p : Pipeline) (calledOff heard : Bool) (w : Worker) :
    Worker × Option Report × Pipeline :=
  let go (phase : Phase) : Worker := { w with phase }
  let unlessCalledOff (phase : Phase) : Worker := go (if calledOff then .leaving else phase)
  match w.phase with
  | .begun => (unlessCalledOff .toFormat, none, p)
  | .toFormat => (go (.holding (engines.format w.source)), none, p)
  | .holding f => (unlessCalledOff (.toReport f), none, p)
  | .toReport f => (go (if heard then .reported f.text else .leaving), some (.formatted f), p)
  | .reported text => (unlessCalledOff (.toCompile text), none, p)
  | .toCompile text =>
    let outcome := p.compile engines text
    (go (.compiled outcome.1), none, outcome.2)
  | .compiled result => (unlessCalledOff (.toSettle result), none, p)
  | .toSettle result => (go .leaving, some (.compiled result), p)
  | .leaving | .gone => (go .gone, none, p)

def Phase.remaining : Phase → Nat
  | .begun => 9
  | .toFormat => 8
  | .holding _ => 7
  | .toReport _ => 6
  | .reported _ => 5
  | .toCompile _ => 4
  | .compiled _ => 3
  | .toSettle _ => 2
  | .leaving => 1
  | .gone => 0

def worker? (s : Session) (id : Nat) : Option Worker := s.workers.find? (·.run = id)

def setWorker (s : Session) (id : Nat) (w : Worker) : Session :=
  { s with
    surface := match w.phase with
      | .gone => s.surface.disconnect id
      | _ => s.surface
    workers := s.workers.map fun v => if v.run = id then w else v }

def advance (engines : Engines) (s : Session) (id : Nat) : Session :=
  match s.worker? id with
  | none => s
  | some w =>
    let (w, report, pipeline) := workerStep engines s.pipeline (s.surface.isCalledOff id)
      (s.surface.currentRun = some id) w
    let surface := report.elim s.surface (s.surface.receive id)
    { s with pipeline, surface }.setWorker id w

def lose (s : Session) (id : Nat) : Session :=
  match s.worker? id with
  | none => s
  | some w => s.setWorker id { w with phase := .gone }

def awaitReport (engines : Engines) : Nat → Session → Session
  | 0, s => s
  | fuel + 1, s =>
    match s.surface.take? with
    | some surface => { s with surface }
    | none =>
      match s.surface.currentRun with
      | none => s
      | some id => awaitReport engines fuel (s.advance engines id)

/-- Waits until the state is terminal or no run is active. A run makes two reports and ends, each
within the steps of one worker, so the bounds are never met. -/
def wait (engines : Engines) (s : Session) : Session := go 4 s
where
  go : Nat → Session → Session
    | 0, s => s
    | fuel + 1, s =>
      if s.surface.state.isTerminal || s.surface.run.isNone then s
      else go fuel (awaitReport engines 10 s)

end Session
end PagePreview
