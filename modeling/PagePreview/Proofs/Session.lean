import PagePreview.Surface
import PagePreview.Proofs.Pipeline
import Mathlib.Data.List.Basic

/-!
# A surface and its workers

A run makes its reports from its source alone, so what the owner has applied, what waits in the
inbox and what the worker of the current run still owes are three consecutive parts of one list that
the source determines. Whatever the owner and the workers do keeps that, and so the state is always
the one that some first part of that list leads to. Workers of earlier runs take their steps as
well, but nobody holds their inbox.
-/

namespace PagePreview
open Pipeline (SoundMemo compiled)

variable {engines : Engines} {config : Config}

def verdict (engines : Engines) (config : Config) (source : String) : Report :=
  .compiled (compiled engines config (engines.format source).text)

/-- What the run of a source reports, in order. -/
def transcript (engines : Engines) (config : Config) (source : String) : List Report :=
  [.formatted (engines.format source), verdict engines config source]

def PageState.after (reports : List Report) : PageState := reports.foldl apply formatting

def PageState.abandoned (s : PageState) : PageState :=
  if s.isTerminal then s else s.fail .workerLost

/-- What a worker with this source and phase will still report if it is neither called off nor lost,
and that it holds what its source determines. One that is leaving reports nothing more. -/
def Phase.Owes (engines : Engines) (config : Config) (source : String) (rest : List Report) :
    Phase → Prop
  | .begun | .toFormat => rest = transcript engines config source
  | .holding f | .toReport f =>
    f = engines.format source ∧ rest = transcript engines config source
  | .reported text | .toCompile text =>
    text = (engines.format source).text ∧ rest = [verdict engines config source]
  | .compiled r | .toSettle r =>
    .compiled r = verdict engines config source ∧ rest = [verdict engines config source]
  | .leaving | .gone => True

theorem Phase.owes_unlessCalledOff {source : String} {rest : List Report} (phase : Phase)
    (h : phase.Owes engines config source rest) (calledOff : Bool) :
    (if calledOff then .leaving else phase : Phase).Owes engines config source rest := by
  cases calledOff with
  | true => trivial
  | false => exact h

theorem workerStep_owes {p : Pipeline} (hp : SoundMemo p.config p.memo) {w : Worker}
    {rest : List Report} (h : w.phase.Owes engines p.config w.source rest)
    (calledOff heard : Bool) :
    ∃ rest', rest = (Session.workerStep engines p calledOff heard w).2.1.toList ++ rest' ∧
      (Session.workerStep engines p calledOff heard w).1.phase.Owes engines p.config w.source
        rest' := by
  obtain ⟨run, source, phase⟩ := w
  dsimp only at h
  cases phase with
  | begun => exact ⟨rest, rfl, Phase.owes_unlessCalledOff .toFormat h calledOff⟩
  | toFormat => exact ⟨rest, rfl, rfl, h⟩
  | holding f => exact ⟨rest, rfl, Phase.owes_unlessCalledOff (.toReport f) h calledOff⟩
  | toReport f =>
    obtain ⟨hf, rfl⟩ := h
    refine ⟨[verdict engines p.config source], by rw [hf]; rfl, ?_⟩
    cases heard with
    | true => exact ⟨congrArg Formatted.text hf, rfl⟩
    | false => trivial
  | reported text => exact ⟨rest, rfl, Phase.owes_unlessCalledOff (.toCompile text) h calledOff⟩
  | toCompile text =>
    obtain ⟨rfl, rfl⟩ := h
    have hr := Pipeline.compile_result engines hp (engines.format source).text
    exact ⟨[verdict engines p.config source], rfl, congrArg Report.compiled hr, rfl⟩
  | compiled r => exact ⟨rest, rfl, Phase.owes_unlessCalledOff (.toSettle r) h calledOff⟩
  | toSettle r =>
    obtain ⟨hr, rfl⟩ := h
    exact ⟨[], by rw [← hr]; rfl, trivial⟩
  | leaving => exact ⟨rest, rfl, trivial⟩
  | gone => exact ⟨rest, rfl, trivial⟩

@[simp] theorem workerStep_run (p : Pipeline) (calledOff heard : Bool) (w : Worker) :
    (Session.workerStep engines p calledOff heard w).1.run = w.run := by
  obtain ⟨run, source, phase⟩ := w
  cases phase <;> rfl

@[simp] theorem workerStep_source (p : Pipeline) (calledOff heard : Bool) (w : Worker) :
    (Session.workerStep engines p calledOff heard w).1.source = w.source := by
  obtain ⟨run, source, phase⟩ := w
  cases phase <;> rfl

theorem workerStep_pipeline (engines : Engines) {p : Pipeline} (hc : p.config = config)
    (hp : SoundMemo config p.memo) (calledOff heard : Bool) (w : Worker) :
    (Session.workerStep engines p calledOff heard w).2.2.config = config ∧
      SoundMemo config (Session.workerStep engines p calledOff heard w).2.2.memo := by
  obtain ⟨run, source, phase⟩ := w
  cases phase with
  | toCompile text =>
    subst hc
    unfold Session.workerStep
    dsimp only
    exact ⟨Pipeline.compile_config engines p text, Pipeline.compile_sound engines hp text⟩
  | _ => exact ⟨hc, hp⟩

@[simp] theorem Run.close_id (id : Nat) (r : Run) : (r.close id).id = r.id := by
  unfold Run.close
  split <;> rfl

theorem Run.close_connected (id : Nat) (r : Run) :
    (r.close id).connected = false ↔ r.connected = false ∨ r.id = id := by
  unfold Run.close
  split <;> simp [*]

@[simp] theorem Run.close_inbox (id : Nat) (r : Run) : (r.close id).inbox = r.inbox := by
  unfold Run.close
  split <;> rfl

namespace Session

theorem worker?_setWorker {s : Session} {id : Nat} {v w : Worker} (hv : s.worker? id = some v)
    (hw : w.run = id) (j : Nat) :
    (s.setWorker id w).worker? j = if j = id then some w else s.worker? j := by
  have same : ∀ u : Worker, (if u.run = id then w else u).run = u.run := by
    intro u
    split
    · rename_i hu
      exact hw.trans hu.symm
    · rfl
  have found : (s.setWorker id w).worker? j =
      (s.worker? j).map fun u => if u.run = id then w else u := by
    simp only [worker?, setWorker, List.find?_map, Function.comp_def, same]
  rw [found]
  split
  · subst j
    have hid : v.run = id := by simpa using List.find?_some hv
    rw [hv, Option.map_some, if_pos hid]
  · rename_i other
    cases hu : s.worker? j with
    | none => rfl
    | some u =>
      have hj : u.run = j := by simpa using List.find?_some hu
      rw [Option.map_some, if_neg (hj ▸ other)]

theorem setWorker_run_lt {s : Session} {id n : Nat} {w : Worker} (hw : w.run = id)
    (h : ∀ u ∈ s.workers, u.run < n) :
    ∀ u ∈ (s.setWorker id w).workers, u.run < n := by
  intro u member
  obtain ⟨old, kept, rfl⟩ := List.mem_map.mp member
  split
  · rename_i same
    exact (hw.trans same.symm) ▸ h old kept
  · exact h old kept

/-- The run that owns the state and its worker: what was applied, what waits in the inbox and what
the worker still owes are the whole transcript of the source. -/
def Serves (engines : Engines) (config : Config) (source : String) (w : Worker) (run : Run)
    (state : PageState) : Prop :=
  ∃ applied waiting rest, w.source = source ∧ w.phase.Owes engines config source rest ∧
    transcript engines config source = applied ++ waiting ++ rest ∧
    run.inbox = waiting.map (run.id, ·) ∧ state = PageState.after applied

def Over (engines : Engines) (config : Config) (source : String) (state : PageState) : Prop :=
  ∃ applied rest, transcript engines config source = applied ++ rest ∧
    state = (PageState.after applied).abandoned

structure Sound (engines : Engines) (config : Config) (s : Session) : Prop where
  config_eq : s.pipeline.config = config
  memo : SoundMemo config s.pipeline.memo
  workers : ∀ w ∈ s.workers, w.run < s.surface.nextRun
  calledOff : ∀ id ∈ s.surface.calledOff, id + 1 < s.surface.nextRun
  idle : s.surface.source = none → s.surface.run = none ∧ s.surface.state = .formatting
  ended : ∀ source, s.surface.source = some source → s.surface.run = none →
    Over engines config source s.surface.state
  latest : ∀ run, s.surface.run = some run → run.id + 1 = s.surface.nextRun
  running : ∀ source run, s.surface.source = some source → s.surface.run = some run →
    ∃ w, s.worker? run.id = some w ∧ Serves engines config source w run s.surface.state

variable {s : Session}

theorem Sound.source_of_run (h : s.Sound engines config) {run : Run}
    (hr : s.surface.run = some run) : ∃ source, s.surface.source = some source := by
  cases hs : s.surface.source with
  | none => simp [(h.idle hs).1] at hr
  | some source => exact ⟨source, rfl⟩

theorem Sound.not_calledOff (h : s.Sound engines config) {run : Run}
    (hr : s.surface.run = some run) : s.surface.isCalledOff run.id = false := by
  have hl := h.latest run hr
  simp only [Surface.isCalledOff, List.contains_eq_mem, decide_eq_false_iff_not]
  intro member
  have := h.calledOff run.id member
  omega

theorem start_sound {p : Pipeline} (hc : p.config = config) (hp : SoundMemo config p.memo) :
    ({ pipeline := p } : Session).Sound engines config where
  config_eq := hc
  memo := hp
  workers := by simp
  calledOff := by simp
  idle := fun _ => ⟨rfl, rfl⟩
  ended := by simp
  latest := by simp
  running := by simp

/-- Sound memo or not, what the pipeline of a session keeps does not matter to its surface. -/
theorem Sound.setPipeline (h : s.Sound engines config) {p : Pipeline} (hc : p.config = config)
    (hp : SoundMemo config p.memo) : ({ s with pipeline := p } : Session).Sound engines config :=
  { h with config_eq := hc, memo := hp }

theorem setSource_of_ne {source : String} (changed : s.surface.source ≠ some source)
    (spawned : Bool) : (s.setSource source spawned).1 = true ∧
      (s.setSource source spawned).2.surface = s.surface.accept source spawned := by
  unfold setSource
  rw [if_neg changed]
  exact ⟨rfl, rfl⟩

theorem setSource_sound (h : s.Sound engines config) (source : String) (spawned : Bool) :
    (s.setSource source spawned).2.Sound engines config := by
  unfold setSource
  split
  · exact h
  refine ⟨h.config_eq, h.memo, ?_, ?_, by simp [Surface.accept], ?_, ?_, ?_⟩
  · intro w member
    rcases List.mem_append.mp member with old | fresh
    · exact Nat.lt_succ_of_lt (h.workers w old)
    · cases spawned with
      | true =>
        rw [List.mem_singleton.mp fresh]
        exact Nat.lt_succ_self _
      | false => cases fresh
  · intro id member
    rcases List.mem_append.mp member with current | old
    · obtain ⟨run, hr, rfl⟩ := Option.map_eq_some_iff.mp (Option.mem_toList.mp current)
      have := h.latest run hr
      simp only [Surface.accept]
      omega
    · exact Nat.lt_succ_of_lt (h.calledOff id old)
  · intro other hs hr
    cases spawned with
    | true => cases hr
    | false => exact ⟨[], transcript engines config other, rfl, rfl⟩
  · intro run hr
    cases spawned with
    | true =>
      cases hr
      rfl
    | false => cases hr
  · intro other run hs hr
    cases spawned with
    | false => cases hr
    | true =>
      cases hr
      cases hs
      have unknown : s.workers.find? (·.run = s.surface.nextRun) = none := by
        simp only [List.find?_eq_none, decide_eq_true_eq]
        exact fun w member => Nat.ne_of_lt (h.workers w member)
      refine ⟨{ run := s.surface.nextRun, source }, ?_, [], [], _, rfl, rfl, rfl, rfl, rfl⟩
      simp [worker?, List.find?_append, unknown]

/-- Taking finds the oldest report, which is of the current run, or a closed and empty inbox. -/
theorem Sound.taken (h : s.Sound engines config) {t : Surface} (ht : s.surface.take? = some t) :
    ∃ source run, s.surface.source = some source ∧ s.surface.run = some run ∧
      ((∃ report inbox, run.inbox = (run.id, report) :: inbox ∧
          t = { s.surface with
            run := some { run with inbox }
            state := s.surface.state.apply report }) ∨
        run.inbox = [] ∧ run.connected = false ∧ t = s.surface.workerGone) := by
  unfold Surface.take? at ht
  cases hr : s.surface.run with
  | none => simp [hr] at ht
  | some run =>
    obtain ⟨source, hs⟩ := h.source_of_run hr
    obtain ⟨-, -, -, waiting, -, -, -, -, inbox, -⟩ := h.running source run hs hr
    refine ⟨source, run, hs, rfl, ?_⟩
    cases waiting with
    | nil =>
      simp only [hr, inbox, List.map_nil] at ht
      cases closed : run.connected with
      | true => simp [closed] at ht
      | false => exact .inr ⟨inbox, rfl, by simpa [closed] using ht.symm⟩
    | cons report waiting =>
      simp only [hr, inbox, List.map_cons, Option.some.injEq] at ht
      refine .inl ⟨report, waiting.map (run.id, ·), inbox, ?_⟩
      rw [← ht, Surface.apply, if_pos]
      simpa [Surface.currentRun, Surface.isCalledOff] using h.not_calledOff hr

theorem take?_sound (h : s.Sound engines config) {t : Surface} (ht : s.surface.take? = some t) :
    ({ s with surface := t } : Session).Sound engines config := by
  obtain ⟨source, run, hs, hr, ⟨report, inbox, oldest, rfl⟩ | ⟨-, -, rfl⟩⟩ := h.taken ht
  · refine ⟨h.config_eq, h.memo, h.workers, h.calledOff, by simp [hs], by simp, ?_, ?_⟩
    · intro other hother
      cases hother
      exact h.latest run hr
    · intro other run' hother hrun'
      cases hs.symm.trans hother
      cases hrun'
      obtain ⟨w, hw, applied, waiting, rest, hsource, owes, parts, hinbox, state⟩ :=
        h.running source run hs hr
      cases waiting with
      | nil => simp [oldest] at hinbox
      | cons first waiting =>
        simp only [oldest, List.map_cons, List.cons.injEq, Prod.mk.injEq, true_and] at hinbox
        obtain ⟨rfl, rfl⟩ := hinbox
        refine ⟨w, hw, applied ++ [report], waiting, rest, hsource, owes, ?_, rfl, ?_⟩
        · rw [parts, List.append_assoc applied [report] waiting, List.singleton_append]
        · rw [PageState.after, List.foldl_append, ← PageState.after, ← state]
          rfl
  · refine ⟨h.config_eq, h.memo, h.workers, h.calledOff, ?_, ?_, by simp [Surface.workerGone],
      by simp [Surface.workerGone]⟩
    · simp [Surface.workerGone, hs]
    · intro other hother _
      cases hs.symm.trans hother
      obtain ⟨w, -, applied, waiting, rest, -, -, parts, -, state⟩ := h.running source run hs hr
      refine ⟨applied, waiting ++ rest, parts.trans (List.append_assoc _ _ _), ?_⟩
      rw [← state]
      rfl

/-- What a worker sends reaches the surface only through the run that owns the state, and only a
worker that is gone closes its inbox. -/
theorem setWorker_surface (s : Session) (id : Nat) (report : Option Report) (w : Worker) :
    ∃ g : Run → Run,
      (∀ r, (g r).id = r.id ∧
        (g r).inbox = r.inbox ++ (if r.id = id then report.toList.map (id, ·) else []) ∧
        ((g r).connected = false ↔ r.connected = false ∨ r.id = id ∧ w.phase = .gone)) ∧
      ({ s with surface := report.elim s.surface (s.surface.receive id) }.setWorker id w).surface =
        { s.surface with run := s.surface.run.map g } := by
  have sent : ∃ g : Run → Run,
      (∀ r, (g r).id = r.id ∧
        (g r).inbox = r.inbox ++ (if r.id = id then report.toList.map (id, ·) else []) ∧
        (g r).connected = r.connected) ∧
      report.elim s.surface (s.surface.receive id) =
        { s.surface with run := s.surface.run.map g } := by
    cases report with
    | none => exact ⟨fun r => r, by simp, by simp⟩
    | some report =>
      refine ⟨Run.receive id report, fun r => ?_, rfl⟩
      unfold Run.receive
      split <;> simp [*]
  obtain ⟨g, hg, reached⟩ := sent
  unfold setWorker
  dsimp only
  rw [reached]
  split
  · rename_i gone
    refine ⟨fun r => (g r).close id, fun r => ⟨?_, ?_, ?_⟩, ?_⟩
    · rw [Run.close_id, (hg r).1]
    · rw [Run.close_inbox, (hg r).2.1]
    · rw [Run.close_connected, (hg r).1, (hg r).2.2]
      simp [gone]
    · simp [Surface.disconnect, Function.comp_def]
  · rename_i stays
    refine ⟨g, fun r => ⟨(hg r).1, (hg r).2.1, ?_⟩, rfl⟩
    rw [(hg r).2.2]
    exact ⟨.inl, fun closes => closes.resolve_right fun gone => stays gone.2⟩

theorem Sound.relay (h : s.Sound engines config) {id : Nat} {v w : Worker}
    (hv : s.worker? id = some v) (hw : w.run = id) (hsource : w.source = v.source)
    (report : Option Report)
    (pays : ∀ rest, v.phase.Owes engines config v.source rest →
      ∃ rest', rest = report.toList ++ rest' ∧ w.phase.Owes engines config v.source rest') :
    ({ s with surface := report.elim s.surface (s.surface.receive id) }.setWorker id w).Sound
      engines config := by
  obtain ⟨g, hg, surface⟩ := setWorker_surface s id report w
  have found := worker?_setWorker
    (s := { s with surface := report.elim s.surface (s.surface.receive id) }) hv hw
  have numbers := setWorker_run_lt
    (s := { s with surface := report.elim s.surface (s.surface.receive id) }) hw h.workers
  refine ⟨h.config_eq, h.memo, ?_, ?_, ?_, ?_, ?_, ?_⟩ <;> rw [surface]
  · exact numbers
  · exact h.calledOff
  · intro hs
    exact ⟨by simp [(h.idle hs).1], (h.idle hs).2⟩
  · intro source hs hr
    exact h.ended source hs (by simpa using hr)
  · intro run hr
    obtain ⟨old, hold, rfl⟩ := Option.map_eq_some_iff.mp hr
    rw [(hg old).1]
    exact h.latest old hold
  · intro source run hs hr
    obtain ⟨old, hold, rfl⟩ := Option.map_eq_some_iff.mp hr
    obtain ⟨u, hu, applied, waiting, rest, usource, owes, parts, inbox, state⟩ :=
      h.running source old hs hold
    rw [(hg old).1, found]
    by_cases same : old.id = id
    · have huv : u = v := Option.some.inj (hu.symm.trans (same ▸ hv))
      subst huv usource
      obtain ⟨rest', hrest, owes'⟩ := pays rest owes
      refine ⟨w, if_pos same, applied, waiting ++ report.toList, rest', hsource, owes', ?_, ?_,
        state⟩
      · rw [parts, hrest]
        simp only [List.append_assoc]
      · rw [(hg old).1, (hg old).2.1, if_pos same, inbox, List.map_append, same]
    · refine ⟨u, by rw [if_neg same]; exact hu, applied, waiting, rest, usource, owes, parts, ?_,
        state⟩
      rw [(hg old).1, (hg old).2.1, if_neg same, inbox, List.append_nil]

theorem advance_sound (h : s.Sound engines config) (id : Nat) :
    (advance engines s id).Sound engines config := by
  unfold advance
  split
  · exact h
  rename_i w hw
  have hrun : w.run = id := by simpa using List.find?_some hw
  have step := workerStep_pipeline engines h.config_eq h.memo
    (s.surface.isCalledOff id) (s.surface.currentRun = some id) w
  have hp : SoundMemo s.pipeline.config s.pipeline.memo := h.config_eq ▸ h.memo
  dsimp only
  refine (h.setPipeline step.1 step.2).relay hw ((workerStep_run _ _ _ w).trans hrun)
    (workerStep_source _ _ _ w) _ fun rest owes => ?_
  have := workerStep_owes hp (h.config_eq ▸ owes) (s.surface.isCalledOff id)
    (s.surface.currentRun = some id)
  exact h.config_eq ▸ this

theorem lose_sound (h : s.Sound engines config) (id : Nat) :
    (s.lose id).Sound engines config := by
  unfold lose
  split
  · exact h
  rename_i w hw
  have hrun : w.run = id := by simpa using List.find?_some hw
  exact h.relay hw (w := { w with phase := .gone }) hrun rfl none fun rest _ => ⟨rest, rfl, trivial⟩

theorem take?_frame {s t : Surface} (ht : s.take? = some t) :
    t.source = s.source ∧ t.nextRun = s.nextRun := by
  unfold Surface.take? at ht
  split at ht
  · cases ht
  · split at ht
    · cases ht
      unfold Surface.apply
      split <;> exact ⟨rfl, rfl⟩
    · split at ht
      · cases ht
      · cases ht
        exact ⟨rfl, rfl⟩

theorem take?_shrinks {s t : Surface} (ht : s.take? = some t) :
    t.run.elim 0 (·.inbox.length + 1) < s.run.elim 0 (·.inbox.length + 1) := by
  unfold Surface.take? at ht
  cases hr : s.run with
  | none => simp [hr] at ht
  | some run =>
    simp only [hr] at ht
    split at ht
    · rename_i id report inbox oldest
      cases ht
      unfold Surface.apply
      split <;> simp [oldest]
    · split at ht
      · cases ht
      · cases ht
        simp [Surface.workerGone]

theorem advance_surface (engines : Engines) (s : Session) (id : Nat) :
    ∃ g : Run → Run,
      (advance engines s id).surface = { s.surface with run := s.surface.run.map g } := by
  unfold advance
  split
  · exact ⟨fun r => r, by simp⟩
  · rename_i w hw
    dsimp only
    obtain ⟨g, -, surface⟩ := setWorker_surface
      { s with
        pipeline := (workerStep engines s.pipeline (s.surface.isCalledOff id)
          (s.surface.currentRun = some id) w).2.2 } id
      (workerStep engines s.pipeline (s.surface.isCalledOff id)
        (s.surface.currentRun = some id) w).2.1
      (workerStep engines s.pipeline (s.surface.isCalledOff id)
        (s.surface.currentRun = some id) w).1
    exact ⟨g, surface⟩

theorem lose_surface (s : Session) (id : Nat) :
    ∃ g : Run → Run, (s.lose id).surface = { s.surface with run := s.surface.run.map g } := by
  unfold lose
  split
  · exact ⟨fun r => r, by simp⟩
  · exact ⟨Run.close id, rfl⟩

end Session

/-- The states that a surface may show for the source given last. -/
def PageState.Shown (engines : Engines) (p : Pipeline) : Option String → PageState → Prop
  | none, s => s = formatting
  | some source, s =>
    s = formatting ∨ s = formatting.applyFormatted (engines.format source) ∨
      s = (p.run engines source).1 ∨ s = formatting.fail .workerLost ∨
      s = (formatting.applyFormatted (engines.format source)).fail .workerLost

theorem after_cases {source : String} {applied rest : List Report}
    (parts : transcript engines config source = applied ++ rest) :
    PageState.after applied = .formatting ∨
      PageState.after applied = PageState.formatting.applyFormatted (engines.format source) ∨
      PageState.after applied = PageState.after (transcript engines config source) := by
  match applied, parts with
  | [], _ => exact .inl rfl
  | [_], parts =>
    cases parts
    exact .inr (.inl rfl)
  | [_, _], parts =>
    cases parts
    exact .inr (.inr rfl)
  | _ :: _ :: _ :: _, parts => cases parts

theorem after_transcript (engines : Engines) {p : Pipeline} (hc : p.config = config)
    (hp : SoundMemo config p.memo) (source : String) :
    PageState.after (transcript engines config source) = (p.run engines source).1 := by
  subst hc
  rw [Pipeline.run_state engines hp]
  rfl

theorem after_transcript_terminal (source : String) :
    (PageState.after (transcript engines config source)).isTerminal = true := by
  have last : PageState.after (transcript engines config source) =
      (PageState.formatting.applyFormatted (engines.format source)).applyCompiled
        (compiled engines config (engines.format source).text) := rfl
  rw [last]
  cases compiled engines config (engines.format source).text <;> rfl

theorem abandoned_cases {source : String} {applied rest : List Report}
    (parts : transcript engines config source = applied ++ rest) :
    (PageState.after applied).abandoned = PageState.formatting.fail .workerLost ∨
      (PageState.after applied).abandoned =
        (PageState.formatting.applyFormatted (engines.format source)).fail .workerLost ∨
      (PageState.after applied).abandoned =
        PageState.after (transcript engines config source) := by
  rcases after_cases parts with h | h | h
  · exact .inl (by rw [h]; rfl)
  · exact .inr (.inl (by rw [h]; rfl))
  · refine .inr (.inr ?_)
    rw [h, PageState.abandoned, if_pos (after_transcript_terminal source)]

theorem Session.Sound.shown {s : Session} (h : s.Sound engines config) {p : Pipeline}
    (hc : p.config = config) (hp : SoundMemo config p.memo) :
    s.surface.state.Shown engines p s.surface.source := by
  cases hs : s.surface.source with
  | none => exact (h.idle hs).2
  | some source =>
    have full := after_transcript engines hc hp source
    cases hr : s.surface.run with
    | none =>
      obtain ⟨applied, rest, parts, state⟩ := h.ended source hs hr
      rw [state]
      rcases abandoned_cases parts with h | h | h
      · exact .inr (.inr (.inr (.inl h)))
      · exact .inr (.inr (.inr (.inr h)))
      · exact .inr (.inr (.inl (h.trans full)))
    | some run =>
      obtain ⟨w, -, applied, waiting, rest, -, -, parts, -, state⟩ := h.running source run hs hr
      rw [List.append_assoc] at parts
      rw [state]
      rcases after_cases parts with h | h | h
      · exact .inl h
      · exact .inr (.inl h)
      · exact .inr (.inr (.inl (h.trans full)))

end PagePreview
