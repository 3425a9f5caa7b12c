import PagePreview.Interplay
import PagePreview.Proofs.Session
import Mathlib.Data.List.Basic

/-!
# What a surface can show

The owner's calls and the workers' steps in any order. An act does one of a few things to the
session, all of which keep it sound, and only a new source hands out a run.
-/

namespace PagePreview
open Pipeline (SoundMemo)

variable {engines : Engines} {config : Config}

namespace Interplay

variable {t : Interplay}

inductive Moves (engines : Engines) (t : Interplay) : Act → Session → Prop
  | idle (a : Act) : t.started? a = none → Moves engines t a t.session
  | given (source : String) (spawned : Bool) :
    t.started? (.setSource source spawned) = some (t.surface.nextRun, source) →
    t.surface.source ≠ some source →
    Moves engines t (.setSource source spawned) (t.session.setSource source spawned).2
  | taken (s : Surface) : t.surface.take? = some s →
    Moves engines t .turn { t.session with surface := s }
  | worked (id : Nat) : Moves engines t (.work id) (t.session.advance engines id)
  | lost (id : Nat) : Moves engines t (.die id) (t.session.lose id)
  | compiled (text : String) : Moves engines t (.compile text)
      { t.session with pipeline := (t.session.pipeline.compile engines text).2 }

theorem setSource_moves (engines : Engines) (t : Interplay) (source : String) (spawned : Bool) :
    Moves engines t (.setSource source spawned)
      (t.step engines (.setSource source spawned)).session := by
  by_cases isFree : ∃ returned, t.owner = .free returned
  · obtain ⟨returned, free⟩ := isFree
    simp only [step, free]
    by_cases same : t.surface.source = some source
    · have unchanged : t.session.setSource source spawned = (false, t.session) := if_pos same
      rw [unchanged]
      exact .idle _ (by simp [started?, free, unchanged])
    · have changed := Session.setSource_of_ne same spawned
      exact .given source spawned (by simp [started?, free, changed.1]) same
  · have busy : (t.step engines (.setSource source spawned)) = t ∧
        t.started? (.setSource source spawned) = none := by
      cases owner : t.owner with
      | free returned => exact absurd ⟨returned, owner⟩ isFree
      | polling changed => simp [step, started?, owner]
      | waiting timed => simp [step, started?, owner]
    rw [busy.1]
    exact .idle _ busy.2

theorem turn_moves (engines : Engines) (t : Interplay) :
    Moves engines t .turn (t.step engines .turn).session := by
  simp only [step, turn]
  split
  · exact .idle _ rfl
  · cases ht : t.surface.take? with
    | none => exact .idle _ rfl
    | some s => exact .taken s ht
  · split
    · exact .idle _ rfl
    · cases ht : t.surface.take? with
      | none => exact .idle _ rfl
      | some s => exact .taken s ht

theorem step_moves (engines : Engines) (t : Interplay) (a : Act) :
    Moves engines t a (t.step engines a).session := by
  cases a with
  | setSource source spawned => exact setSource_moves engines t source spawned
  | turn => exact turn_moves engines t
  | work id => exact .worked id
  | die id => exact .lost id
  | compile text => exact .compiled text
  | poll | wait timed =>
    simp only [step]
    split <;> exact .idle _ rfl
  | expire =>
    simp only [step]
    split
    · split <;> exact .idle _ rfl
    · exact .idle _ rfl

theorem step_sound (h : t.session.Sound engines config) (a : Act) :
    (t.step engines a).session.Sound engines config := by
  have moves := step_moves engines t a
  generalize (t.step engines a).session = s at moves
  cases moves with
  | idle _ _ => exact h
  | given source spawned _ _ => exact Session.setSource_sound h source spawned
  | taken s hs => exact Session.take?_sound h hs
  | worked id => exact Session.advance_sound h id
  | lost id => exact Session.lose_sound h id
  | compiled text =>
    obtain rfl := h.config_eq
    exact h.setPipeline (Pipeline.compile_config engines _ text)
      (Pipeline.compile_sound engines h.memo text)

theorem run_sound (h : t.session.Sound engines config) (acts : List Act) :
    (t.run engines acts).session.Sound engines config := by
  induction acts generalizing t with
  | nil => exact h
  | cons a acts ih => exact ih (step_sound h a)

theorem step_given (engines : Engines) (t : Interplay) (a : Act) :
    (t.step engines a).surface.source = ((t.started? a).map (·.2)).or t.surface.source ∧
      (t.step engines a).surface.nextRun =
        ((t.started? a).map (·.1 + 1)).getD t.surface.nextRun ∧
      ∀ given ∈ t.started? a, given.1 = t.surface.nextRun := by
  have moves := step_moves engines t a
  simp only [surface] at *
  generalize (t.step engines a).session = s at *
  cases moves with
  | idle _ unstarted => simp [unstarted]
  | given source spawned started changed =>
    have accepted := (Session.setSource_of_ne changed spawned).2
    simp [started, accepted, Surface.accept, surface]
  | taken s hs =>
    have kept := Session.take?_frame hs
    simp [started?, kept.1, kept.2, surface]
  | worked id =>
    obtain ⟨g, kept⟩ := Session.advance_surface engines t.session id
    simp [started?, kept]
  | lost id =>
    obtain ⟨g, kept⟩ := Session.lose_surface t.session id
    simp [started?, kept]
  | compiled text => simp [started?]

structure Given (t : Interplay) (given : List (Nat × String)) : Prop where
  source : t.surface.source = given.getLast?.map (·.2)
  next : t.surface.nextRun = (given.getLast?.map (·.1 + 1)).getD 1
  earlier : ∀ g ∈ given, g.1 < t.surface.nextRun
  increasing : given.Pairwise (·.1 < ·.1)

theorem Given.step {given : List (Nat × String)} (h : t.Given given) (engines : Engines) (a : Act) :
    (t.step engines a).Given (given ++ (t.started? a).toList) := by
  obtain ⟨source, next, number⟩ := step_given engines t a
  cases fresh : t.started? a with
  | none =>
    simp only [fresh, Option.map_none, Option.none_or, Option.getD_none] at source next
    rw [Option.toList_none, List.append_nil]
    exact ⟨source.trans h.source, next.trans h.next, next ▸ h.earlier, h.increasing⟩
  | some g =>
    have hg : g.1 = t.surface.nextRun := number g (by simp [fresh])
    simp only [fresh, Option.map_some, Option.some_or, Option.getD_some] at source next
    refine ⟨by simpa using source, by simpa using next, ?_, ?_⟩
    · intro old member
      rw [next]
      rcases List.mem_append.mp member with member | member
      · have := h.earlier old member
        omega
      · rw [List.mem_singleton.mp member]
        exact Nat.lt_succ_self _
    · refine List.pairwise_append.mpr ⟨h.increasing, List.pairwise_singleton _ _, ?_⟩
      intro old member new isNew
      rw [List.mem_singleton.mp isNew, hg]
      exact h.earlier old member

theorem Given.run {given : List (Nat × String)} (h : t.Given given) (engines : Engines)
    (acts : List Act) : (t.run engines acts).Given (given ++ started engines t acts) := by
  induction acts generalizing t given with
  | nil => simpa [Interplay.run, started] using h
  | cons a acts ih =>
    have rest := ih (h.step engines a)
    rw [List.append_assoc] at rest
    exact rest

theorem Given.last {given : List (Nat × String)} (h : t.Given given)
    (hs : t.session.Sound engines config) {run : Run} (hr : t.surface.run = some run)
    {source : String} (hsource : t.surface.source = some source) :
    given.getLast? = some (run.id, source) := by
  have latest := hs.latest run hr
  have hl := h.source
  have hn := h.next
  cases last : given.getLast? with
  | none => simp [last, hsource] at hl
  | some g =>
    obtain ⟨id, source'⟩ := g
    simp only [last, hsource, Option.map_some, Option.some.injEq, Option.getD_some] at hl hn
    have hid : run.id = id := Nat.succ.inj (latest.trans hn)
    rw [hl, hid]

/-- Between two sources the state changes by the reports of the run handed out last and when its
worker is gone. -/
theorem step_state (h : t.session.Sound engines config) {given : List (Nat × String)}
    (hg : t.Given given) (a : Act) :
    (t.step engines a).surface.state = t.surface.state ∨
      ((t.started? a).isSome ∧
        ((t.step engines a).surface.state = .formatting ∨
          (t.step engines a).surface.state = PageState.formatting.fail .workerLost)) ∨
      (∃ id source report, given.getLast? = some (id, source) ∧
        t.surface.run.bind (·.inbox.head?) = some (id, report) ∧
        report ∈ transcript engines config source ∧
        (t.step engines a).surface.state = t.surface.state.apply report) ∨
      ∃ run, t.surface.run = some run ∧ run.inbox = [] ∧ run.connected = false ∧
        (t.step engines a).surface.state = t.surface.state.abandoned := by
  have moves := step_moves engines t a
  have shown : (t.step engines a).surface = (t.step engines a).session.surface := rfl
  simp only [shown]
  generalize (t.step engines a).session = s at moves
  cases moves with
  | idle _ _ => exact .inl rfl
  | given source spawned started changed =>
    refine .inr (.inl ⟨by rw [started]; rfl, ?_⟩)
    rw [(Session.setSource_of_ne changed spawned).2]
    cases spawned with
    | true => exact .inl rfl
    | false => exact .inr rfl
  | taken s hs =>
    obtain ⟨source, run, hsource, hr, taken⟩ := h.taken hs
    refine .inr (.inr ?_)
    rcases taken with ⟨report, inbox, oldest, rfl⟩ | ⟨empty, closed, rfl⟩
    · refine .inl ⟨run.id, source, report, hg.last h hr hsource, ?_, ?_, rfl⟩
      · rw [surface, hr, Option.bind_some, oldest, List.head?_cons]
      · obtain ⟨-, -, applied, waiting, rest, -, -, parts, hinbox, -⟩ :=
          h.running source run hsource hr
        have sent : (run.id, report) ∈ waiting.map (run.id, ·) := by simp [← hinbox, oldest]
        obtain ⟨report', member, same⟩ := List.mem_map.mp sent
        cases same
        simp [parts, member]
    · exact .inr ⟨run, hr, empty, closed, rfl⟩
  | worked id =>
    obtain ⟨g, kept⟩ := Session.advance_surface engines t.session id
    exact .inl (by rw [kept]; rfl)
  | lost id =>
    obtain ⟨g, kept⟩ := Session.lose_surface t.session id
    exact .inl (by rw [kept]; rfl)
  | compiled text => exact .inl rfl

theorem run_append (engines : Engines) (t : Interplay) (acts acts' : List Act) :
    t.run engines (acts ++ acts') = (t.run engines acts).run engines acts' := List.foldl_append

theorem run_polling (engines : Engines) (fuel : Nat) {changed : Bool}
    (polling : t.owner = .polling changed)
    (enough : t.surface.run.elim 0 (·.inbox.length + 1) ≤ fuel) :
    ∃ n, t.run engines (List.replicate n .turn) =
      { t.setSurface (Surface.poll.go fuel t.surface).2 with
        owner := .free (some (changed || (Surface.poll.go fuel t.surface).1)) } := by
  induction fuel generalizing t changed with
  | zero =>
    have nothing : t.surface.take? = none := by
      refine Option.eq_none_iff_forall_not_mem.mpr fun s hs => ?_
      have := Session.take?_shrinks hs
      omega
    refine ⟨1, ?_⟩
    simp only [Interplay.run, List.replicate_one, List.foldl_cons, List.foldl_nil, step, turn,
      polling, nothing, Surface.poll.go, Bool.or_false]
    rfl
  | succ fuel ih =>
    cases ht : t.surface.take? with
    | none =>
      refine ⟨1, ?_⟩
      simp only [Interplay.run, List.replicate_one, List.foldl_cons, List.foldl_nil, step, turn,
        polling, ht, Surface.poll.go, Bool.or_false]
      rfl
    | some s =>
      have fewer := Session.take?_shrinks ht
      let next := changed || t.surface.state.status != s.state.status
      obtain ⟨n, hn⟩ := ih (t := { t.setSurface s with owner := .polling next }) rfl
        (Nat.le_of_lt_succ (Nat.lt_of_lt_of_le fewer enough))
      refine ⟨n + 1, ?_⟩
      have begun : t.step engines .turn = { t.setSurface s with owner := .polling next } := by
        simp only [step, turn, polling, ht, next]
      rw [List.replicate_succ, Interplay.run, List.foldl_cons, begun]
      simp only [Surface.poll.go, ht]
      rw [Bool.or_comm (Surface.poll.go fuel s).1, ← Bool.or_assoc]
      exact hn

theorem run_poll (engines : Engines) (t : Interplay) {returned : Option Bool}
    (free : t.owner = .free returned) :
    ∃ n, t.run engines (.poll :: List.replicate n .turn) =
      { t.setSurface t.surface.poll.2 with owner := .free (some t.surface.poll.1) } := by
  have begun : t.step engines .poll = { t with owner := .polling false } := by
    simp only [step, free]
  obtain ⟨n, hn⟩ := run_polling (t := { t with owner := .polling false }) engines
    (t.surface.run.elim 0 (·.inbox.length + 1)) rfl (Nat.le_refl _)
  refine ⟨n, ?_⟩
  rw [Interplay.run, List.foldl_cons, begun]
  simpa [Interplay.run, Surface.poll, setSurface, surface] using hn

theorem run_awaitReport (engines : Engines) (fuel : Nat) {timed : Bool}
    (waiting : t.owner = .waiting timed) (unsettled : t.isSettled = false) :
    ∃ acts, t.run engines acts =
      { t with session := Session.awaitReport engines fuel t.session } := by
  induction fuel generalizing t with
  | zero => exact ⟨[], rfl⟩
  | succ fuel ih =>
    unfold Session.awaitReport
    cases ht : t.session.surface.take? with
    | some s =>
      refine ⟨[.turn], ?_⟩
      have ht : t.surface.take? = some s := ht
      simp only [Interplay.run, List.foldl_cons, List.foldl_nil, step, turn, waiting, unsettled, ht,
        Bool.false_eq_true, if_false]
      rw [← waiting]
      rfl
    | none =>
      cases t.session.surface.currentRun with
      | none => exact ⟨[], rfl⟩
      | some id =>
        obtain ⟨g, kept⟩ := Session.advance_surface engines t.session id
        have unsettled' : (t.step engines (.work id)).isSettled = false := by
          simpa [isSettled, step, surface, kept] using unsettled
        obtain ⟨acts, hacts⟩ := ih (t := t.step engines (.work id)) waiting unsettled'
        exact ⟨.work id :: acts, hacts⟩

theorem run_wait (engines : Engines) (t : Interplay) (timed : Bool) {returned : Option Bool}
    (free : t.owner = .free returned) :
    ∃ acts, t.run engines (.wait timed :: acts) =
      { session := t.session.wait engines, owner := .waiting timed } := by
  have turns : ∀ fuel (u : Interplay), u.owner = .waiting timed →
      ∃ acts, u.run engines acts =
        { session := Session.wait.go engines fuel u.session, owner := .waiting timed } := by
    intro fuel
    induction fuel with
    | zero => exact fun u hu => ⟨[], by rw [← hu]; rfl⟩
    | succ fuel ih =>
      intro u hu
      unfold Session.wait.go
      split
      · exact ⟨[], by rw [← hu]; rfl⟩
      · rename_i unsettled
        obtain ⟨first, hfirst⟩ := run_awaitReport engines 10 hu (Bool.eq_false_iff.mpr unsettled)
        obtain ⟨rest, hrest⟩ := ih { u with session := Session.awaitReport engines 10 u.session } hu
        exact ⟨first ++ rest, by rw [run_append, hfirst, hrest]⟩
  obtain ⟨acts, hacts⟩ := turns 4 { t with owner := .waiting timed } rfl
  refine ⟨acts, ?_⟩
  have begun : t.step engines (.wait timed) = { t with owner := .waiting timed } := by
    simp only [step, free]
  rw [Interplay.run, List.foldl_cons, begun]
  exact hacts

end Interplay

/-- A surface on a pipeline that any calls have used, after any course of its owner's calls and its
workers' steps and deaths: it shows a state of the source given last; run numbers only grow; and
the next act leaves the state as it is, starts afresh for a new source, applies the oldest report of
the run handed out last, or notes that its worker is gone. -/
theorem surface_shows_latest_source (engines : Engines) (config : Config)
    (requests : List Request) (order : List Nat) (acts : List Act) :
    let p := ((Batch.start (Pipeline.new config) requests).run engines order).pipeline
    let t := (Interplay.start p).run engines acts
    let given := Interplay.started engines (Interplay.start p) acts
    t.surface.state.Shown engines p (given.getLast?.map (·.2)) ∧
      t.surface.source = given.getLast?.map (·.2) ∧
      given.Pairwise (·.1 < ·.1) ∧
      ∀ a : Act,
        (t.step engines a).surface.state = t.surface.state ∨
        ((t.started? a).isSome ∧
          ((t.step engines a).surface.state = .formatting ∨
            (t.step engines a).surface.state = PageState.formatting.fail .workerLost)) ∨
        (∃ id source report, given.getLast? = some (id, source) ∧
          t.surface.run.bind (·.inbox.head?) = some (id, report) ∧
          report ∈ transcript engines config source ∧
          (t.step engines a).surface.state = t.surface.state.apply report) ∨
        ∃ run, t.surface.run = some run ∧ run.inbox = [] ∧ run.connected = false ∧
          (t.step engines a).surface.state = t.surface.state.abandoned := by
  intro p t given
  have batch := Batch.run_sound (Batch.start_sound engines config requests) order
  have sound : t.session.Sound engines config :=
    Interplay.run_sound (Session.start_sound batch.config_eq batch.memo) acts
  have handed : t.Given given := by
    have fresh : (Interplay.start p).Given [] := ⟨rfl, rfl, by simp, List.Pairwise.nil⟩
    exact fresh.run engines acts
  refine ⟨?_, handed.source, handed.increasing, Interplay.step_state sound handed⟩
  rw [← handed.source]
  exact sound.shown batch.config_eq batch.memo

end PagePreview
