import PagePreview.Surface

/-! The interplay of a surface's owner with the workers: every list of acts is one of its courses.
An act that cannot happen where it stands changes nothing. -/

namespace PagePreview

inductive Owner
  | free (returned : Option Bool)
  | polling (changed : Bool)
  | waiting (timed : Bool)

structure Interplay where
  session : Session
  owner : Owner := .free none

inductive Act
  | setSource (source : String) (spawned : Bool)
  | poll
  | wait (timed : Bool)
  | turn
  | expire
  | work (id : Nat)
  | die (id : Nat)
  | compile (text : String)

namespace Interplay

def start (pipeline : Pipeline) : Interplay := { session := { pipeline } }

def surface (t : Interplay) : Surface := t.session.surface

def setSurface (t : Interplay) (surface : Surface) : Interplay :=
  { t with session := { t.session with surface } }

def isSettled (t : Interplay) : Bool := t.surface.state.isTerminal || t.surface.run.isNone

def turn (t : Interplay) : Interplay :=
  match t.owner with
  | .free _ => t
  | .polling changed =>
    match t.surface.take? with
    | none => { t with owner := .free (some changed) }
    | some s =>
      let changed := changed || t.surface.state.status != s.state.status
      { t.setSurface s with owner := .polling changed }
  | .waiting _ =>
    if t.isSettled then { t with owner := .free (some t.surface.state.isTerminal) }
    else match t.surface.take? with
      | none => t
      | some s => t.setSurface s

def step (engines : Engines) (t : Interplay) : Act → Interplay
  | .setSource source spawned =>
    match t.owner with
    | .free _ =>
      let (started, session) := t.session.setSource source spawned
      { session, owner := .free (some started) }
    | _ => t
  | .poll =>
    match t.owner with
    | .free _ => { t with owner := .polling false }
    | _ => t
  | .wait timed =>
    match t.owner with
    | .free _ => { t with owner := .waiting timed }
    | _ => t
  | .turn => t.turn
  | .expire =>
    match t.owner with
    | .waiting true =>
      if t.isSettled || t.surface.take?.isSome then t else { t with owner := .free (some false) }
    | _ => t
  | .work id => { t with session := t.session.advance engines id }
  | .die id => { t with session := t.session.lose id }
  | .compile text =>
    let pipeline := (t.session.pipeline.compile engines text).2
    { t with session := { t.session with pipeline } }

def run (engines : Engines) (t : Interplay) (acts : List Act) : Interplay :=
  acts.foldl (step engines) t

def started? (t : Interplay) : Act → Option (Nat × String)
  | .setSource source spawned =>
    match t.owner with
    | .free _ =>
      if (t.session.setSource source spawned).1 then some (t.surface.nextRun, source) else none
    | _ => none
  | _ => none

def started (engines : Engines) (t : Interplay) : List Act → List (Nat × String)
  | [] => []
  | a :: acts => (t.started? a).toList ++ started engines (t.step engines a) acts

end Interplay
end PagePreview
