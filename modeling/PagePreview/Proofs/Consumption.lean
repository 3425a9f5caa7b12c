import PagePreview.Proofs.Interplay
import PagePreview.Proofs.PageState
import Mathlib.Data.Nat.Find

/-!
# How a run's reports are taken

Polling, waiting and waiting for a while take reports from one inbox and stop at different points.
Wherever they stop, what was applied and what still waits are together what the worker has
reported, and a settled page takes nothing more. So a run settles in the state that its reports
determine, whoever takes them and when.
-/

namespace PagePreview

open Pipeline (SoundMemo)

variable {engines : Engines} {config : Config}

def Status.rank : Status → Nat
  | .formatting => 0
  | .compiling => 1
  | .ready | .error => 2

namespace PageState

variable {s t u : PageState}

def Grows (s t : PageState) : Prop := t = s ∨ s.status.rank < t.status.rank

theorem rank_of_running (running : s.isTerminal = false) : s.status.rank < 2 := by
  unfold isTerminal at running
  cases here : s.status <;> simp_all [Status.isTerminal, Status.rank]

theorem happen_grows (s : PageState) (e : Event) : s.Grows (s.happen e) := by
  cases e with
  | lost =>
    by_cases settled : s.isTerminal = true
    · exact .inl (happen_terminal settled .lost)
    · have failed : s.happen .lost = s.fail .workerLost := if_neg settled
      rw [failed]
      exact .inr (rank_of_running (Bool.eq_false_iff.mpr settled))
  | reported r =>
    cases r with
    | formatted f =>
      simp only [happen, apply, applyFormatted]
      split
      · rename_i here
        exact .inr (by simp [here, Status.rank])
      · exact .inl rfl
    | compiled result =>
      simp only [happen, apply, applyCompiled]
      split
      · rename_i here
        cases result <;> exact .inr (by simp [here, fail, Status.rank])
      · exact .inl rfl

theorem Grows.trans (h : s.Grows t) (h' : t.Grows u) : s.Grows u := by
  cases h with
  | inl same => rwa [same] at h'
  | inr later =>
    cases h' with
    | inl same => exact .inr (same ▸ later)
    | inr later' => exact .inr (Nat.lt_trans later later')

theorem Grows.changed_iff (h : s.Grows t) (h' : t.Grows u) :
    u ≠ s ↔ t ≠ s ∨ t.status ≠ u.status := by
  cases h' with
  | inl same => simp [same]
  | inr later =>
    have moved : t.status ≠ u.status := fun same => by simp [same] at later
    have new : u ≠ s := by
      rintro rfl
      cases h with
      | inl same => exact moved (by rw [same])
      | inr earlier => omega
    simp [moved, new]

theorem abandoned_terminal (s : PageState) : s.abandoned.isTerminal = true := by
  unfold abandoned
  split
  · assumption
  · rfl

theorem abandoned_of_terminal (settled : s.isTerminal = true) : s.abandoned = s := if_pos settled

theorem after_append {applied : List Report} (settled : (after applied).isTerminal = true)
    (waiting : List Report) : after (applied ++ waiting) = after applied := by
  have ignored := foldl_happen_terminal settled (waiting.map .reported)
  rw [List.foldl_map] at ignored
  rw [after, List.foldl_append]
  exact ignored

end PageState

namespace Surface

variable {s t : Surface}

theorem take?_grows (ht : s.take? = some t) : s.state.Grows t.state := by
  unfold take? at ht
  split at ht
  · cases ht
  · split at ht
    · cases ht
      unfold apply
      split
      · exact PageState.happen_grows s.state (.reported _)
      · exact .inl rfl
    · split at ht
      · cases ht
      · cases ht
        exact PageState.happen_grows s.state .lost

def unread (s : Surface) : Nat := s.run.elim 0 (·.inbox.length + 1)

/-- Run `id`, if it still owns the state, has no worker that could report. -/
def Closed (s : Surface) (id : Nat) : Prop :=
  ∀ run, s.run = some run → run.id = id → run.connected = false

end Surface

namespace Session

def HasLeft (s : Session) (id : Nat) : Prop := ∀ w, s.worker? id = some w → w.phase = .gone

structure Pays (engines : Engines) (config : Config) (v : Worker) (report : Option Report)
    (w : Worker) : Prop where
  run : w.run = v.run
  source : w.source = v.source
  owes : ∀ rest, v.phase.Owes engines config v.source rest →
    ∃ rest', rest = report.toList ++ rest' ∧ w.phase.Owes engines config v.source rest'
  gone : v.phase = .gone → w.phase = .gone ∧ report = none

structure Relays (engines : Engines) (config : Config) (s : Session) (j : Nat)
    (report : Option Report) (s' : Session) : Prop where
  worker : ∃ v w, s.worker? j = some v ∧ Pays engines config v report w ∧
    ∀ i, s'.worker? i = if i = j then some w else s.worker? i
  surface : ∃ g : Run → Run,
    (∀ r, (g r).id = r.id ∧
      (g r).inbox = r.inbox ++ (if r.id = j then report.toList.map (j, ·) else []) ∧
      ((g r).connected = false ↔ r.connected = false ∨ r.id = j ∧ s'.HasLeft j)) ∧
    s'.surface = { s.surface with run := s.surface.run.map g }

variable {s s' : Session} {j id : Nat} {report : Option Report} {made : List Report}
  {source : String} {v w : Worker}

theorem run_of_worker? (hv : s.worker? j = some v) : v.run = j := by
  simpa using List.find?_some hv

theorem setWorker_relays (hv : s.worker? j = some v) (pays : Pays engines config v report w)
    (p : Pipeline) :
    Relays engines config s j report
      ({ s with pipeline := p, surface := report.elim s.surface (s.surface.receive j) }.setWorker
        j w) := by
  have hw : w.run = j := pays.run.trans (run_of_worker? hv)
  have found := worker?_setWorker
    (s := { s with pipeline := p, surface := report.elim s.surface (s.surface.receive j) }) hv hw
  obtain ⟨g, hg, surface⟩ := setWorker_surface { s with pipeline := p } j report w
  refine ⟨⟨v, w, hv, pays, found⟩, g, fun r => ⟨(hg r).1, (hg r).2.1, ?_⟩, surface⟩
  rw [(hg r).2.2, HasLeft, found, if_pos rfl]
  simp

theorem workerStep_pays {p : Pipeline} (hc : p.config = config) (hp : SoundMemo config p.memo)
    (calledOff heard : Bool) (w : Worker) :
    Pays engines config w (workerStep engines p calledOff heard w).2.1
      (workerStep engines p calledOff heard w).1 where
  run := workerStep_run p calledOff heard w
  source := workerStep_source p calledOff heard w
  owes _ owes := by
    subst hc
    exact workerStep_owes hp owes calledOff heard
  gone left := by
    obtain ⟨run, source, phase⟩ := w
    obtain rfl := left
    exact ⟨rfl, rfl⟩

def nextReport? (engines : Engines) (s : Session) (id : Nat) : Option Report :=
  (s.worker? id).bind fun w =>
    (workerStep engines s.pipeline (s.surface.isCalledOff id) (s.surface.currentRun = some id)
      w).2.1

theorem advance_relays (h : s.Sound engines config) (j : Nat) :
    (s.worker? j = none ∧ advance engines s j = s) ∨
      Relays engines config s j (s.nextReport? engines j) (advance engines s j) := by
  unfold advance nextReport?
  cases hv : s.worker? j with
  | none => exact .inl ⟨rfl, rfl⟩
  | some v =>
    exact .inr (setWorker_relays hv (workerStep_pays h.config_eq h.memo _ _ v) _)

theorem lose_relays (engines : Engines) (config : Config) (s : Session) (j : Nat) :
    s.lose j = s ∨ Relays engines config s j none (s.lose j) := by
  unfold lose
  cases hv : s.worker? j with
  | none => exact .inl rfl
  | some v =>
    have dies : Pays engines config v none { v with phase := .gone } :=
      ⟨rfl, rfl, fun rest _ => ⟨rest, rfl, trivial⟩, fun _ => ⟨rfl, rfl⟩⟩
    exact .inr (setWorker_relays hv dies s.pipeline)

inductive Stands (s : Session) (id : Nat) (made : List Report) : Prop
  | runs (run : Run) (applied waiting : List Report) : s.surface.run = some run → run.id = id →
    made = applied ++ waiting → run.inbox = waiting.map (id, ·) →
    s.surface.state = PageState.after applied → (run.connected = false → s.HasLeft id) →
    Stands s id made
  | ended : s.surface.run = none → s.surface.state = (PageState.after made).abandoned →
    s.HasLeft id → Stands s id made

/-- The run of a source owns the state, or it has owned it last; its worker has made these
reports. -/
structure Fed (engines : Engines) (config : Config) (source : String) (s : Session) (id : Nat)
    (made : List Report) : Prop where
  owes : ∃ rest, transcript engines config source = made ++ rest ∧
    ∀ w, s.worker? id = some w → w.source = source ∧ w.phase.Owes engines config source rest
  stands : s.Stands id made

theorem Relays.left (r : Relays engines config s j report s') (h : s.HasLeft id) :
    s'.HasLeft id ∧ (j = id → report = none) := by
  obtain ⟨v, w, hv, pays, found⟩ := r.worker
  constructor
  · intro u hu
    rw [found] at hu
    split at hu
    · rename_i same
      cases hu
      exact (pays.gone (h v (same ▸ hv))).1
    · exact h u hu
  · intro same
    exact (pays.gone (h v (same ▸ hv))).2

theorem Fed.relay (h : Fed engines config source s id made)
    (r : Relays engines config s j report s') :
    Fed engines config source s' id (made ++ if j = id then report.toList else []) := by
  obtain ⟨v, w, hv, pays, found⟩ := r.worker
  obtain ⟨g, hg, surface⟩ := r.surface
  constructor
  · obtain ⟨rest, parts, owes⟩ := h.owes
    by_cases same : j = id
    · obtain ⟨hsource, owes⟩ := owes v (same ▸ hv)
      obtain ⟨rest', hrest, owes'⟩ := pays.owes rest (hsource ▸ owes)
      refine ⟨rest', by rw [parts, hrest, if_pos same, List.append_assoc], fun u hu => ?_⟩
      rw [found, if_pos same.symm] at hu
      cases hu
      exact ⟨pays.source.trans hsource, hsource ▸ owes'⟩
    · refine ⟨rest, by rw [parts, if_neg same, List.append_nil], fun u hu => owes u ?_⟩
      rwa [found, if_neg (Ne.symm same)] at hu
  · cases h.stands with
    | runs run applied waiting hr hid parts inbox state closed =>
      refine .runs (g run) applied (waiting ++ if j = id then report.toList else [])
        (by rw [surface, hr]; rfl) ((hg run).1.trans hid) (by rw [parts, List.append_assoc]) ?_
        (by rw [surface]; exact state) fun shut => ?_
      · rw [(hg run).2.1, inbox, hid, List.map_append]
        by_cases same : j = id
        · simp [same]
        · simp [same, Ne.symm same]
      · rcases (hg run).2.2.mp shut with earlier | ⟨same, left⟩
        · exact (r.left (closed earlier)).1
        · exact hid ▸ same ▸ left
    | ended hr state left =>
      have silent : (if j = id then report.toList else []) = [] := by
        split
        · rename_i same
          rw [(r.left left).2 same]
          rfl
        · rfl
      rw [silent, List.append_nil]
      exact .ended (by rw [surface, hr]; rfl) (by rw [surface]; exact state) (r.left left).1

theorem Fed.taken (h : Fed engines config source s id made) (sound : s.Sound engines config)
    {t : Surface} (ht : s.surface.take? = some t) :
    Fed engines config source { s with surface := t } id made := by
  refine ⟨h.owes, ?_⟩
  obtain ⟨-, run, -, hr, taken⟩ := sound.taken ht
  cases h.stands with
  | ended none _ _ => rw [none] at hr; cases hr
  | runs run' applied waiting hr' hid parts inbox state closed =>
    obtain rfl := Option.some.inj (hr'.symm.trans hr)
    rcases taken with ⟨report, rest, oldest, rfl⟩ | ⟨empty, shut, rfl⟩
    · cases waiting with
      | nil => simp [oldest] at inbox
      | cons first waiting =>
        simp only [oldest, List.map_cons, List.cons.injEq, Prod.mk.injEq] at inbox
        obtain ⟨⟨-, rfl⟩, rfl⟩ := inbox
        refine .runs _ (applied ++ [report]) waiting rfl hid (by simp [parts]) rfl ?_ closed
        rw [PageState.after, List.foldl_append, ← PageState.after, ← state]
        rfl
    · have nothing : waiting = [] := by simpa [empty] using inbox.symm
      refine .ended rfl ?_ (closed shut)
      rw [parts, nothing, List.append_nil, ← state]
      rfl

theorem Fed.setPipeline (h : Fed engines config source s id made) (p : Pipeline) :
    Fed engines config source { s with pipeline := p } id made := by
  refine ⟨h.owes, ?_⟩
  cases h.stands with
  | runs run applied waiting hr hid parts inbox state closed =>
    exact .runs run applied waiting hr hid parts inbox state closed
  | ended hr state left => exact .ended hr state left

theorem take?_closed (sound : s.Sound engines config) {t : Surface} (ht : s.surface.take? = some t)
    (closed : s.surface.Closed id) : t.Closed id := by
  obtain ⟨-, run, -, hr, ⟨report, inbox, -, rfl⟩ | ⟨-, -, rfl⟩⟩ := sound.taken ht
  · rintro run' ⟨⟩ hid
    exact closed run hr hid
  · rintro run' ⟨⟩

theorem Fed.closed (h : Fed engines config source s id made)
    (r : Relays engines config s j report s') (closed : s.surface.Closed id) :
    s'.surface.Closed id ∧ s'.surface.unread ≤ s.surface.unread := by
  obtain ⟨g, hg, surface⟩ := r.surface
  rw [surface]
  cases h.stands with
  | ended hr _ _ => simp [Surface.Closed, Surface.unread, hr]
  | runs run _ _ hr hid _ _ _ left =>
    have shut := closed run hr hid
    have silent : run.id = j → report = none := fun same =>
      (r.left (left shut)).2 (same.symm.trans hid)
    constructor
    · intro run' hrun' _
      obtain ⟨old, hold, rfl⟩ := Option.map_eq_some_iff.mp hrun'
      rw [hr] at hold
      cases hold
      exact (hg run).2.2.mpr (.inl shut)
    · simp only [Surface.unread, hr, Option.map_some, Option.elim_some, (hg run).2.1]
      split
      · rename_i same
        simp [silent same]
      · simp

theorem setSource_fed (sound : s.Sound engines config)
    (changed : s.surface.source ≠ some source) (spawned : Bool) :
    Fed engines config source (s.setSource source spawned).2 s.surface.nextRun [] := by
  have unknown : s.workers.find? (·.run = s.surface.nextRun) = none := by
    simp only [List.find?_eq_none, decide_eq_true_eq]
    exact fun w member => Nat.ne_of_lt (sound.workers w member)
  unfold setSource
  rw [if_neg changed]
  cases spawned with
  | true =>
    refine ⟨⟨_, rfl, fun w hw => ?_⟩, .runs _ [] [] rfl rfl rfl rfl rfl (by simp)⟩
    have fresh : { run := s.surface.nextRun, source } = w := by
      simpa [worker?, List.find?_append, unknown] using hw
    rw [← fresh]
    exact ⟨rfl, rfl⟩
  | false =>
    have nobody : ∀ w, ¬ (s.workers ++ []).find? (fun v : Worker => v.run = s.surface.nextRun) =
        some w := by
      simp [unknown]
    exact ⟨⟨_, rfl, fun w hw => absurd hw (nobody w)⟩,
      .ended rfl rfl fun w hw => absurd hw (nobody w)⟩

theorem Fed.settled (h : Fed engines config source s id made)
    (settled : s.surface.state.isTerminal = true) :
    s.surface.state = (PageState.after made).abandoned := by
  cases h.stands with
  | ended _ state _ => exact state
  | runs _ applied waiting _ _ parts _ state _ =>
    rw [state] at settled
    rw [parts, PageState.after_append settled, PageState.abandoned_of_terminal settled, state]

end Session

namespace Interplay

open Session (Fed Relays)

variable {t : Interplay} {id : Nat} {source : String} {made : List Report}

def reported? (engines : Engines) (t : Interplay) (id : Nat) : Act → Option Report
  | .work j => if j = id then t.session.nextReport? engines id else none
  | _ => none

/-- What the worker of run `id` reports in the course of the acts. -/
def reports (engines : Engines) (t : Interplay) (id : Nat) : List Act → List Report
  | [] => []
  | a :: acts => (t.reported? engines id a).toList ++ reports engines (t.step engines a) id acts

/-- What an act can do when no new source is given, and what the worker of run `id` reports. -/
inductive Proceeds (engines : Engines) (config : Config) (t : Interplay) (id : Nat) :
    Option Report → Session → Prop
  | idle (p : Pipeline) : Proceeds engines config t id none { t.session with pipeline := p }
  | taken (s : Surface) : t.surface.take? = some s →
    Proceeds engines config t id none { t.session with surface := s }
  | relayed (j : Nat) (report : Option Report) (s : Session) :
    Relays engines config t.session j report s →
    Proceeds engines config t id (if j = id then report else none) s

theorem step_proceeds (sound : t.session.Sound engines config) (id : Nat) {a : Act}
    (quiet : t.started? a = none) :
    Proceeds engines config t id (t.reported? engines id a) (t.step engines a).session := by
  have others : (∀ j, a ≠ .work j ∧ a ≠ .die j) →
      Proceeds engines config t id none (t.step engines a).session := by
    intro other
    have moves := step_moves engines t a
    generalize (t.step engines a).session = s at moves
    cases moves with
    | idle _ _ => exact .idle t.session.pipeline
    | given source spawned started _ => rw [started] at quiet; cases quiet
    | taken s hs => exact .taken s hs
    | worked j => exact absurd rfl (other j).1
    | lost j => exact absurd rfl (other j).2
    | compiled text => exact .idle _
  cases a with
  | work j =>
    have same : t.reported? engines id (.work j) =
        if j = id then t.session.nextReport? engines j else none := by
      simp only [reported?]
      split
      · rename_i same
        rw [same]
      · rfl
    rcases Session.advance_relays sound j with ⟨absent, idle⟩ | relays
    · have silent : t.session.nextReport? engines j = none := by
        rw [Session.nextReport?, absent]
        rfl
      have stays : (t.step engines (.work j)).session = t.session := idle
      rw [same, silent, ite_self, stays]
      exact .idle t.session.pipeline
    · rw [same]
      exact .relayed j _ _ relays
  | die j =>
    rcases Session.lose_relays engines config t.session j with idle | relays
    · have stays : (t.step engines (.die j)).session = t.session := idle
      rw [stays]
      exact .idle t.session.pipeline
    · have lost : Proceeds engines config t id (if j = id then none else none) _ :=
        .relayed j none _ relays
      rw [ite_self] at lost
      exact lost
  | _ => exact others (by simp)

theorem step_fed (sound : t.session.Sound engines config)
    (h : Fed engines config source t.session id made) {a : Act} (quiet : t.started? a = none) :
    Fed engines config source (t.step engines a).session id
      (made ++ (t.reported? engines id a).toList) := by
  have proceeds := step_proceeds sound id quiet
  generalize (t.step engines a).session = s at *
  generalize t.reported? engines id a = report at *
  cases proceeds with
  | idle p =>
    rw [Option.toList_none, List.append_nil]
    exact h.setPipeline p
  | taken s hs =>
    rw [Option.toList_none, List.append_nil]
    exact h.taken sound hs
  | relayed j report s relays =>
    have fed := h.relay relays
    rwa [apply_ite Option.toList]

theorem run_fed (sound : t.session.Sound engines config)
    (h : Fed engines config source t.session id made) {acts : List Act}
    (quiet : started engines t acts = []) :
    Fed engines config source (t.run engines acts).session id
      (made ++ reports engines t id acts) := by
  induction acts generalizing t made with
  | nil =>
    rw [reports, List.append_nil]
    exact h
  | cons a acts ih =>
    rw [started, List.append_eq_nil_iff, Option.toList_eq_nil_iff] at quiet
    have fed := ih (step_sound sound a) (step_fed sound h quiet.1) quiet.2
    rw [List.append_assoc] at fed
    exact fed

theorem begun_fed (sound : t.session.Sound engines config) {spawned : Bool} {given : String}
    (begun : t.started? (.setSource source spawned) = some (id, given)) :
    Fed engines config source (t.step engines (.setSource source spawned)).session id [] := by
  cases owner : t.owner with
  | polling changed => simp [started?, owner] at begun
  | waiting timed => simp [started?, owner] at begun
  | free returned =>
    have changed : t.session.surface.source ≠ some source := by
      intro same
      simp [started?, owner, Session.setSource, same] at begun
    simp only [started?, owner, (Session.setSource_of_ne changed spawned).1, if_true] at begun
    cases begun
    simp only [step, owner]
    exact Session.setSource_fed sound changed spawned

def IsFree (t : Interplay) : Prop := ∃ returned, t.owner = .free returned

theorem not_isFree_of_polling {changed : Bool} (polling : t.owner = .polling changed) :
    ¬ t.IsFree := by
  rintro ⟨_, free⟩
  rw [polling] at free
  cases free

/-- A call made here goes on through these acts and then returns `b`. -/
structure Lasts (engines : Engines) (t : Interplay) (call : Act) (acts : List Act) (b : Bool) :
    Prop where
  free : t.IsFree
  busy : ∀ n < acts.length, ¬ ((t.step engines call).run engines (acts.take n)).IsFree
  returns : ((t.step engines call).run engines acts).owner = .free (some b)

theorem quiet_of_busy (busy : ¬ t.IsFree) (a : Act) : t.started? a = none := by
  cases a with
  | setSource source spawned =>
    cases owner : t.owner with
    | free returned => exact absurd ⟨returned, owner⟩ busy
    | polling changed => simp [started?, owner]
    | waiting timed => simp [started?, owner]
  | _ => rfl

/-- What holds where a call begins, and is kept as long as it goes on, holds before its last act. -/
theorem before_last {P : Interplay → Prop} {acts : List Act} (some : acts ≠ []) (begins : P t)
    (keeps : ∀ v a, P v → a ∈ acts → ¬ (v.step engines a).IsFree → P (v.step engines a))
    (busy : ∀ n < acts.length, ¬ (t.run engines (acts.take n)).IsFree) :
    ∃ v a, P v ∧ a ∈ acts ∧ t.run engines acts = v.step engines a := by
  induction acts generalizing t with
  | nil => exact absurd rfl some
  | cons a acts ih =>
    cases acts with
    | nil => exact ⟨t, a, begins, List.mem_singleton_self a, rfl⟩
    | cons a' acts =>
      have next : ¬ (t.step engines a).IsFree := busy 1 (by simp)
      obtain ⟨v, last, holds, member, ends⟩ := ih (List.cons_ne_nil a' acts)
        (keeps t a begins List.mem_cons_self next)
        (fun v b hv member => keeps v b hv (List.mem_cons_of_mem a member))
        (fun n hn => busy (n + 1) (Nat.succ_lt_succ hn))
      exact ⟨v, last, holds, List.mem_cons_of_mem a member, ends⟩

theorem Lasts.some {call : Act} {acts : List Act} {b : Bool} (h : Lasts engines t call acts b)
    (called : ¬ (t.step engines call).IsFree) : acts ≠ [] := by
  rintro rfl
  exact called ⟨_, h.returns⟩

structure Polls (before : PageState) (t : Interplay) (changed : Bool) : Prop where
  grows : before.Grows t.surface.state
  tells : changed = true ↔ t.surface.state ≠ before

theorem Polls.step {before : PageState} {changed : Bool} (h : Polls before t changed)
    (polling : t.owner = .polling changed) (engines : Engines) (a : Act) :
    ∃ changed', Polls before (t.step engines a) changed' ∧
      ((t.step engines a).owner = .polling changed' ∨
        (t.step engines a).owner = .free (some changed')) := by
  have same : ∀ u : Interplay, u.surface.state = t.surface.state → Polls before u changed :=
    fun u hu => ⟨hu ▸ h.grows, hu ▸ h.tells⟩
  cases a with
  | turn =>
    simp only [Interplay.step, turn, polling]
    split
    · exact ⟨changed, same _ rfl, .inr rfl⟩
    · rename_i s hs
      have grows := Surface.take?_grows hs
      refine ⟨changed || t.surface.state.status != s.state.status, ⟨h.grows.trans grows, ?_⟩,
        .inl rfl⟩
      have moved := h.grows.changed_iff grows
      simp only [Bool.or_eq_true, bne_iff_ne, h.tells]
      exact moved.symm
  | work id =>
    obtain ⟨g, kept⟩ := Session.advance_surface engines t.session id
    have shown : (t.step engines (.work id)).surface = _ := kept
    exact ⟨changed, same _ (by rw [shown]; rfl), .inl polling⟩
  | die id =>
    obtain ⟨g, kept⟩ := Session.lose_surface t.session id
    have shown : (t.step engines (.die id)).surface = _ := kept
    exact ⟨changed, same _ (by rw [shown]; rfl), .inl polling⟩
  | compile text => exact ⟨changed, same _ rfl, .inl polling⟩
  | _ =>
    simp only [Interplay.step, polling]
    exact ⟨changed, h, .inl rfl⟩

theorem poll_tells {acts : List Act} {b : Bool} (h : Lasts engines t .poll acts b) :
    b = true ↔ ((t.step engines .poll).run engines acts).surface.state ≠ t.surface.state := by
  obtain ⟨returned, free⟩ := h.free
  have begun : t.step engines .poll = { t with owner := .polling false } := by
    simp only [step, free]
  have called : ¬ (t.step engines .poll).IsFree := by
    rw [begun]
    exact not_isFree_of_polling rfl
  obtain ⟨v, a, ⟨changed, polling, polls⟩, -, last⟩ := before_last
    (P := fun v => ∃ c, v.owner = .polling c ∧ Polls t.surface.state v c) (h.some called)
    ⟨false, by rw [begun], by rw [begun]; exact ⟨.inl rfl, by simp [surface]⟩⟩
    (fun v a now _ busy => by
      obtain ⟨c, polling, polls⟩ := now
      obtain ⟨c', polls', goes | ends⟩ := polls.step polling engines a
      · exact ⟨c', goes, polls'⟩
      · exact absurd ⟨_, ends⟩ busy)
    h.busy
  have returns := h.returns
  rw [last] at returns ⊢
  obtain ⟨c', polls', goes | ends⟩ := polls.step polling engines a
  · rw [goes] at returns
    cases returns
  · rw [ends] at returns
    cases returns
    exact polls'.tells

structure Waits (engines : Engines) (config : Config) (source : String) (id : Nat) (timed : Bool)
    (t : Interplay) : Prop where
  waiting : t.owner = .waiting timed
  sound : t.session.Sound engines config
  fed : ∃ made, Fed engines config source t.session id made

variable {timed : Bool}

theorem Waits.busy (h : Waits engines config source id timed t) : ¬ t.IsFree := by
  rintro ⟨_, free⟩
  rw [h.waiting] at free
  cases free

theorem Waits.settled (h : Waits engines config source id timed t) (settled : t.isSettled = true) :
    t.surface.state.isTerminal = true := by
  obtain ⟨made, fed⟩ := h.fed
  rw [isSettled, Bool.or_eq_true] at settled
  rcases settled with terminal | none
  · exact terminal
  · cases fed.stands with
    | runs run _ _ hr _ _ _ _ _ => simp [surface, hr] at none
    | ended _ state _ =>
      rw [surface, state]
      exact PageState.abandoned_terminal _

theorem Waits.step (h : Waits engines config source id timed t) {a : Act}
    (patient : timed = true → a ≠ .expire) :
    Waits engines config source id timed (t.step engines a) ∨
      (t.step engines a).owner = .free (some true) ∧
        (t.step engines a).surface.state.isTerminal = true := by
  have goes : (t.step engines a).owner = .waiting timed →
      Waits engines config source id timed (t.step engines a) := by
    intro waiting
    obtain ⟨made, fed⟩ := h.fed
    exact ⟨waiting, step_sound h.sound a, _, step_fed h.sound fed (quiet_of_busy h.busy a)⟩
  cases a with
  | turn =>
    by_cases settled : t.isSettled = true
    · have terminal := h.settled settled
      have ends : t.step engines .turn = { t with owner := .free (some true) } := by
        simp only [Interplay.step, turn, h.waiting, settled, if_true, terminal]
      rw [ends]
      exact .inr ⟨rfl, terminal⟩
    · refine .inl (goes ?_)
      simp only [Interplay.step, turn, h.waiting, settled]
      cases t.surface.take? <;> simp [h.waiting, setSurface]
  | expire =>
    refine .inl (goes ?_)
    cases timed with
    | true => exact absurd rfl (patient rfl)
    | false => simp [Interplay.step, h.waiting]
  | work id => exact .inl (goes h.waiting)
  | die id => exact .inl (goes h.waiting)
  | compile text => exact .inl (goes h.waiting)
  | _ => exact .inl (goes (by simp [Interplay.step, h.waiting]))

theorem Waits.begun (sound : t.session.Sound engines config)
    (fed : Fed engines config source t.session id made) (free : t.IsFree) (timed : Bool) :
    Waits engines config source id timed (t.step engines (.wait timed)) := by
  obtain ⟨returned, free⟩ := free
  simp only [Interplay.step, free]
  exact ⟨rfl, sound, made, fed⟩

theorem wait_returns (sound : t.session.Sound engines config)
    (fed : Fed engines config source t.session id made) {acts : List Act} {b : Bool}
    (h : Lasts engines t (.wait timed) acts b) (patient : timed = true → .expire ∉ acts) :
    b = true ∧
      ((t.step engines (.wait timed)).run engines acts).surface.state.isTerminal = true := by
  have begun := Waits.begun sound fed h.free timed
  have unexpired : ∀ a ∈ acts, timed = true → a ≠ .expire := by
    rintro a member isTimed rfl
    exact patient isTimed member
  obtain ⟨v, a, waits, member, last⟩ := before_last (h.some begun.busy) begun
    (fun v a waits member busy =>
      (waits.step (unexpired a member)).resolve_right fun ends => busy ⟨_, ends.1⟩)
    h.busy
  have returns := h.returns
  rw [last] at returns ⊢
  rcases waits.step (unexpired a member) with goes | ⟨ends, terminal⟩
  · rw [goes.waiting] at returns
    cases returns
  · rw [ends] at returns
    cases returns
    exact ⟨rfl, terminal⟩

theorem step_closed (sound : t.session.Sound engines config)
    (fed : Fed engines config source t.session id made) {a : Act} (quiet : t.started? a = none)
    (closed : t.surface.Closed id) :
    (t.step engines a).surface.Closed id ∧
      (t.step engines a).surface.unread ≤ t.surface.unread := by
  have proceeds := step_proceeds sound id quiet
  have shown : (t.step engines a).surface = (t.step engines a).session.surface := rfl
  rw [shown]
  generalize (t.step engines a).session = s at *
  generalize t.reported? engines id a = report at *
  cases proceeds with
  | idle p => exact ⟨closed, Nat.le_refl _⟩
  | taken s hs =>
    exact ⟨Session.take?_closed sound hs closed, Nat.le_of_lt (Session.take?_shrinks hs)⟩
  | relayed j report s relays => exact fed.closed relays closed

theorem Waits.turn_shrinks (h : Waits engines config source id timed t)
    (closed : t.surface.Closed id)
    (goes : Waits engines config source id timed (t.step engines .turn)) :
    (t.step engines .turn).surface.unread < t.surface.unread := by
  have unsettled : ¬ t.isSettled = true := by
    intro settled
    refine goes.busy ⟨some t.surface.state.isTerminal, ?_⟩
    simp only [Interplay.step, turn, h.waiting, settled, if_true]
  cases ht : t.surface.take? with
  | some s =>
    have taken : (t.step engines .turn).surface = s := by
      simp only [Interplay.step, turn, h.waiting, unsettled, ht]
      rfl
    rw [taken]
    exact Session.take?_shrinks ht
  | none =>
    obtain ⟨made, fed⟩ := h.fed
    cases fed.stands with
    | ended none _ _ => exact absurd (by simp [isSettled, surface, none]) unsettled
    | runs run _ _ hr hid _ _ _ _ =>
      have shut := closed run hr hid
      unfold Surface.take? at ht
      simp only [surface, hr] at ht
      split at ht
      · cases ht
      · simp [shut] at ht

def along (engines : Engines) (t : Interplay) (schedule : Nat → Act) (n : Nat) : Interplay :=
  t.run engines ((List.range n).map schedule)

theorem along_succ (engines : Engines) (t : Interplay) (schedule : Nat → Act) (n : Nat) :
    along engines t schedule (n + 1) = (along engines t schedule n).step engines (schedule n) := by
  simp only [along, List.range_succ, List.map_append, run_append]
  rfl

/-- No wait goes on for ever if the owner gets its turns and the worker is gone at some point: from
then on every turn leaves less to take. -/
theorem not_waits_forever {schedule : Nat → Act}
    (waits : ∀ n, Waits engines config source id timed (along engines t schedule n))
    (turns : ∀ n, ∃ k, n ≤ k ∧ schedule k = .turn) (n : Nat) :
    ¬ (along engines t schedule n).surface.Closed id := by
  have next : ∀ n, (along engines t schedule n).surface.Closed id →
      (along engines t schedule (n + 1)).surface.Closed id ∧
        (along engines t schedule (n + 1)).surface.unread ≤
          (along engines t schedule n).surface.unread := by
    intro n closed
    obtain ⟨made, fed⟩ := (waits n).fed
    rw [along_succ]
    exact step_closed (waits n).sound fed (quiet_of_busy (waits n).busy _) closed
  have later : ∀ n k, n ≤ k → (along engines t schedule n).surface.Closed id →
      (along engines t schedule k).surface.Closed id ∧
        (along engines t schedule k).surface.unread ≤
          (along engines t schedule n).surface.unread := by
    intro n k hk closed
    induction k, hk using Nat.le_induction with
    | base => exact ⟨closed, Nat.le_refl _⟩
    | succ k _ ih => exact ⟨(next k ih.1).1, Nat.le_trans (next k ih.1).2 ih.2⟩
  induction left : (along engines t schedule n).surface.unread using Nat.strong_induction_on
    generalizing n with
  | _ left' ih =>
    intro closed
    obtain ⟨k, hk, turn⟩ := turns n
    obtain ⟨closed', fewer⟩ := later n k hk closed
    have goes := waits (k + 1)
    rw [along_succ, turn] at goes
    have shrinks := (waits k).turn_shrinks closed' goes
    rw [← turn, ← along_succ] at shrinks
    exact ih _ (by omega) (k + 1) rfl (next k closed').1

/-- However the acts come, a wait ends if the owner gets its turns and the worker is gone at some
point. -/
theorem wait_ends (sound : t.session.Sound engines config)
    (fed : Fed engines config source t.session id made) (free : t.IsFree) {schedule : Nat → Act}
    (turns : ∀ n, ∃ k, n ≤ k ∧ schedule k = .turn)
    (patient : timed = true → ∀ n, schedule n ≠ .expire)
    (closes : ∃ n, (along engines (t.step engines (.wait timed)) schedule n).surface.Closed id) :
    ∃ n, Lasts engines t (.wait timed) ((List.range n).map schedule) true := by
  let u := along engines (t.step engines (.wait timed)) schedule
  have waits : ∀ n, (∀ k < n, ¬ (u (k + 1)).IsFree) →
      Waits engines config source id timed (u n) := by
    intro n
    induction n with
    | zero => exact fun _ => Waits.begun sound fed free timed
    | succ n ih =>
      intro busy
      have before := ih fun k hk => busy k (Nat.lt_succ_of_lt hk)
      have next : u (n + 1) = (u n).step engines (schedule n) := along_succ engines _ schedule n
      rw [next]
      exact (before.step fun isTimed => patient isTimed n).resolve_right fun ends =>
        busy n (Nat.lt_succ_self n) ⟨_, next ▸ ends.1⟩
  by_cases returns : ∃ n, (u (n + 1)).IsFree
  · classical
    let n := Nat.find returns
    have busy : ∀ k < n, ¬ (u (k + 1)).IsFree := fun k hk => Nat.find_min returns hk
    have next : u (n + 1) = (u n).step engines (schedule n) := along_succ engines _ schedule n
    refine ⟨n + 1, free, fun k hk => ?_, ?_⟩
    · rw [List.length_map, List.length_range] at hk
      rw [← List.map_take, List.take_range, Nat.min_eq_left (Nat.le_of_lt hk)]
      exact (waits k fun j hj => busy j (by omega)).busy
    · have ends := (waits n busy).step fun isTimed => patient isTimed n
      rw [← next] at ends
      exact (ends.resolve_left fun goes => goes.busy (Nat.find_spec returns)).1
  · obtain ⟨n, closed⟩ := closes
    have forever : ∀ n, Waits engines config source id timed (u n) := fun n =>
      waits n fun k _ free => returns ⟨k, free⟩
    exact absurd closed (not_waits_forever forever turns n)

end Interplay

open Interplay (Lasts)

/-- From when a source is given until the next one, whatever the owner and the workers do: the
worker of its run makes some first reports of the run, and once the state is terminal it is the one
that these reports lead to and, unless they settle the page, the loss of the worker. A poll returns
whether it has changed the state. A wait that is not given up returns with a terminal state, and
it does return if the owner gets its turns and the worker disconnects at some point. -/
theorem settled_however_taken (engines : Engines) (config : Config) (requests : List Request)
    (order : List Nat) (before : List Act) (source : String) (spawned : Bool) (id : Nat) :
    let p := ((Batch.start (Pipeline.new config) requests).run engines order).pipeline
    let t := (Interplay.start p).run engines before
    let begun := t.step engines (.setSource source spawned)
    t.started? (.setSource source spawned) = some (id, source) →
    ∀ acts, Interplay.started engines begun acts = [] →
      let made := begun.reports engines id acts
      let u := begun.run engines acts
      made <+: transcript engines config source ∧
      (u.surface.state.isTerminal = true →
        u.surface.state = (PageState.after made).abandoned) ∧
      (∀ later changed, Lasts engines u .poll later changed →
        (changed = true ↔
          ((u.step engines .poll).run engines later).surface.state ≠ u.surface.state)) ∧
      ∀ timed : Bool,
        (∀ later ended, Lasts engines u (.wait timed) later ended →
          (timed = true → .expire ∉ later) →
          ended = true ∧
            ((u.step engines (.wait timed)).run engines later).surface.state.isTerminal = true) ∧
        ∀ schedule : Nat → Act, u.IsFree → (∀ n, ∃ k, n ≤ k ∧ schedule k = .turn) →
          (timed = true → ∀ n, schedule n ≠ .expire) →
          (∃ n, (Interplay.along engines (u.step engines (.wait timed)) schedule
            n).surface.Closed id) →
          ∃ n, Lasts engines u (.wait timed) ((List.range n).map schedule) true := by
  intro p t begun started acts quiet made u
  have batch := Batch.run_sound (Batch.start_sound engines config requests) order
  have sound : t.session.Sound engines config :=
    Interplay.run_sound (Session.start_sound batch.config_eq batch.memo) before
  have sound' : begun.session.Sound engines config := Interplay.step_sound sound _
  have fed : u.session.Fed engines config source id made :=
    Interplay.run_fed sound' (Interplay.begun_fed sound started) quiet
  have sound'' : u.session.Sound engines config := Interplay.run_sound sound' acts
  obtain ⟨rest, parts, -⟩ := fed.owes
  exact ⟨⟨rest, parts.symm⟩, fed.settled, fun _ _ => Interplay.poll_tells, fun timed =>
    ⟨fun _ _ => Interplay.wait_returns sound'' fed, fun _ free turns patient closes =>
      Interplay.wait_ends sound'' fed free turns patient closes⟩⟩

/-- A worker that dies before it has reported anything: a poll notes the loss, and a wait in its
place would end as well. -/
theorem settled_however_taken_of_lost_worker :
    let engines : Engines :=
      { format := fun text => ⟨text, none⟩, lower := .ok, execute := fun _ script => .ok script }
    let t := Interplay.start (Pipeline.new {})
    let begun := t.step engines (.setSource "a" true)
    let u := begun.run engines [.die 1]
    let polled := (u.step engines .poll).run engines [.turn, .turn]
    t.started? (.setSource "a" true) = some (1, "a") ∧
      Interplay.started engines begun [.die 1] = [] ∧ u.surface.run.isSome = true ∧
      Lasts engines u .poll [.turn, .turn] true ∧ polled.surface.state ≠ u.surface.state ∧
      polled.surface.state = PageState.formatting.abandoned ∧
      ∃ n, Lasts engines u (.wait false) ((List.range n).map fun _ => .turn) true := by
  intro engines t begun u polled
  obtain ⟨-, -, polls, waits⟩ :=
    settled_however_taken engines {} [] [] [] "a" true 1 rfl [.die 1] rfl
  obtain ⟨-, settled, -⟩ :=
    settled_however_taken engines {} [] [] [] "a" true 1 rfl [.die 1, .poll, .turn, .turn] rfl
  have lasts : Lasts engines u .poll [.turn, .turn] true := by
    refine ⟨⟨_, rfl⟩, fun n hn => ?_, rfl⟩
    match n, hn with
    | 0, _ => exact Interplay.not_isFree_of_polling rfl
    | 1, _ => exact Interplay.not_isFree_of_polling rfl
  refine ⟨rfl, rfl, rfl, lasts, (polls _ _ lasts).mp rfl, settled rfl, ?_⟩
  exact (waits false).2 _ ⟨_, rfl⟩ (fun n => ⟨n, Nat.le_refl n, rfl⟩) (by simp)
    ⟨0, by rintro _ ⟨⟩ _; rfl⟩

end PagePreview
