import PagePreview.Proofs.Session

/-!
# What a page's state tells of its history

Reports may reach a page late, early, repeated or out of order, and its worker may be lost at any
point. The first formatted source is the only one that the page takes, the first result behind it,
or the loss of the worker, is what settles it, and a settled page never changes again. All five
fields besides the status can be read off these two.
-/

namespace PagePreview

inductive PageState.Event
  | reported (r : Report)
  | lost

namespace PageState

def happen (s : PageState) : Event → PageState
  | .reported r => s.apply r
  | .lost => s.abandoned

def behind (events : List Event) : PageState := events.foldl happen formatting

/-- The formatted source that a page takes: the first one, unless the worker is lost before. -/
def taken? : List Event → Option Formatted
  | [] | .lost :: _ => none
  | .reported (.formatted f) :: _ => some f
  | .reported (.compiled _) :: events => taken? events

def verdict? : List Event → Option (Except Failure RenderedUnit)
  | [] => none
  | .lost :: _ => some (.error .workerLost)
  | .reported (.compiled result) :: _ => some result
  | .reported (.formatted _) :: events => verdict? events

/-- What settles a page. A result counts only behind a formatted source. -/
def settled? : List Event → Option (Except Failure RenderedUnit)
  | [] => none
  | .lost :: _ => some (.error .workerLost)
  | .reported (.formatted _) :: events => verdict? events
  | .reported (.compiled _) :: events => settled? events

inductive Moves : Event → Status → Status → Prop
  | stay (e : Event) (s : Status) : Moves e s s
  | formatted (f : Formatted) : Moves (.reported (.formatted f)) .formatting .compiling
  | compiled (unit : RenderedUnit) : Moves (.reported (.compiled (.ok unit))) .compiling .ready
  | failed (e : Failure) : Moves (.reported (.compiled (.error e))) .compiling .error
  | lost {s : Status} (running : s.isTerminal = false) : Moves .lost s .error

/-- The fields of a page that has taken a formatted source, or none, and has been settled by a
result, or not yet. -/
structure Accounts (taken : Option Formatted) (result : Option (Except Failure RenderedUnit))
    (s : PageState) : Prop where
  text : s.formattedText = taken.elim "" (·.text)
  warning : s.formatWarning = taken.bind (·.warning)
  settled : s.isTerminal = true ↔ result.isSome = true
  unit_iff : s.resolvedUnit.isSome = true ↔ s.status = .ready
  unit : s.status = .ready → ∃ unit, result = some (.ok unit) ∧ s.resolvedUnit = some unit
  error_iff : s.runtimeError.isSome = true ↔ s.status = .error
  failure : s.status = .error → ∃ e, result = some (.error e) ∧
    s.runtimeError = some e.message ∧ s.failureStage = some e.stage
  stage_iff : s.failureStage = some .compile ∨ s.failureStage = some .execution ↔ s.status = .error
  stage : s.status ≠ .error → s.failureStage = if s.formatWarning.isSome then some .format else none

theorem happen_moves (s : PageState) (e : Event) : Moves e s.status (s.happen e).status := by
  cases e with
  | lost =>
    simp only [happen, abandoned]
    split
    · exact .stay _ _
    · rename_i running
      exact .lost (by simpa [isTerminal] using running)
  | reported r =>
    cases r with
    | formatted f =>
      simp only [happen, apply, applyFormatted]
      split
      · rename_i here
        rw [here]
        exact .formatted f
      · exact .stay _ _
    | compiled result =>
      simp only [happen, apply, applyCompiled]
      split
      · rename_i here
        rw [here]
        cases result with
        | ok unit => exact .compiled unit
        | error e => exact .failed e
      · exact .stay _ _

theorem happen_terminal {s : PageState} (h : s.isTerminal = true) (e : Event) : s.happen e = s := by
  have settled : s.status ≠ .formatting ∧ s.status ≠ .compiling := by
    unfold isTerminal at h
    constructor <;> intro here <;> rw [here] at h <;> cases h
  cases e with
  | lost => simp [happen, abandoned, h]
  | reported r =>
    cases r with
    | formatted f => simp [happen, apply, applyFormatted, settled.1]
    | compiled result => simp [happen, apply, applyCompiled, settled.2]

theorem foldl_happen_terminal {s : PageState} (h : s.isTerminal = true) (events : List Event) :
    events.foldl happen s = s := by
  induction events with
  | nil => rfl
  | cons e events ih => rw [List.foldl_cons, happen_terminal h, ih]

theorem stage_cases (e : Failure) : e.stage = .compile ∨ e.stage = .execution := by
  cases e <;> simp [Failure.stage]

theorem accounts_formatting : Accounts none none formatting := by
  constructor <;> simp [formatting, isTerminal, Status.isTerminal]

theorem accounts_compiling (f : Formatted) :
    Accounts (some f) none (formatting.applyFormatted f) := by
  constructor <;> simp [formatting, applyFormatted, isTerminal, Status.isTerminal]

theorem accounts_ready (f : Formatted) (unit : RenderedUnit) :
    Accounts (some f) (some (.ok unit))
      ((formatting.applyFormatted f).applyCompiled (.ok unit)) := by
  constructor <;>
    simp [formatting, applyFormatted, applyCompiled, isTerminal, Status.isTerminal]

theorem Accounts.fail {taken : Option Formatted} {result : Option (Except Failure RenderedUnit)}
    {s : PageState} (h : Accounts taken result s) (e : Failure) :
    Accounts taken (some (.error e)) (s.fail e) where
  text := h.text
  warning := h.warning
  settled := by simp [PageState.fail, isTerminal, Status.isTerminal]
  unit_iff := by simp [PageState.fail]
  unit := by simp [PageState.fail]
  error_iff := by simp [PageState.fail]
  failure _ := ⟨e, rfl, rfl, rfl⟩
  stage_iff := by simpa [PageState.fail] using stage_cases e
  stage := by simp [PageState.fail]

theorem accounts_verdict (f : Formatted) (events : List Event) :
    Accounts (some f) (verdict? events) (events.foldl happen (formatting.applyFormatted f)) := by
  induction events with
  | nil => exact accounts_compiling f
  | cons e events ih =>
    rw [List.foldl_cons]
    cases e with
    | lost =>
      have failed : (formatting.applyFormatted f).happen .lost =
          (formatting.applyFormatted f).fail .workerLost := rfl
      rw [failed, foldl_happen_terminal rfl]
      exact (accounts_compiling f).fail .workerLost
    | reported r =>
      cases r with
      | formatted late => exact ih
      | compiled result =>
        cases result with
        | ok unit =>
          have ready : (formatting.applyFormatted f).happen (.reported (.compiled (.ok unit))) =
              (formatting.applyFormatted f).applyCompiled (.ok unit) := rfl
          rw [ready, foldl_happen_terminal rfl]
          exact accounts_ready f unit
        | error e =>
          have failed : (formatting.applyFormatted f).happen (.reported (.compiled (.error e))) =
              (formatting.applyFormatted f).fail e := rfl
          rw [failed, foldl_happen_terminal rfl]
          exact (accounts_compiling f).fail e

theorem accounts_behind (events : List Event) :
    Accounts (taken? events) (settled? events) (behind events) := by
  unfold behind
  induction events with
  | nil => exact accounts_formatting
  | cons e events ih =>
    rw [List.foldl_cons]
    cases e with
    | lost =>
      have failed : formatting.happen .lost = formatting.fail .workerLost := rfl
      rw [failed, foldl_happen_terminal rfl]
      exact accounts_formatting.fail .workerLost
    | reported r =>
      cases r with
      | formatted f => exact accounts_verdict f events
      | compiled early => exact ih

/-- A page's status only moves on, a settled page stays as it is, and the other fields are those of
the first formatted source that was taken and of what settled the page. A whole run is such a
history: it settles its page, whatever its engines answer. -/
theorem fields_follow_history :
    (∀ events : List Event, Accounts (taken? events) (settled? events) (behind events) ∧
      (∀ e, Moves e (behind events).status (behind (events ++ [e])).status) ∧
      ((behind events).isTerminal = true → ∀ later, behind (events ++ later) = behind events)) ∧
    ∀ (engines : Engines) (p : Pipeline) (source : String),
      let f := engines.format source
      let result := (p.compile engines f.text).1
      (p.run engines source).1 = behind [.reported (.formatted f), .reported (.compiled result)] ∧
        (p.run engines source).1.isTerminal = true ∧
        Accounts (some f) (some result) (p.run engines source).1 := by
  refine ⟨fun events => ⟨accounts_behind events, ?_, ?_⟩, ?_⟩
  · intro e
    unfold behind
    rw [List.foldl_append]
    exact happen_moves _ e
  · intro terminal later
    unfold behind
    rw [List.foldl_append]
    exact foldl_happen_terminal terminal later
  · intro engines p source f result
    have whole : (p.run engines source).1 =
        behind [.reported (.formatted f), .reported (.compiled result)] := by
      have text : (formatting.applyFormatted f).formattedText = f.text := rfl
      simp only [Pipeline.run, behind, List.foldl_cons, List.foldl_nil, happen, apply]
      rw [text]
    have accounts := accounts_behind [.reported (.formatted f), .reported (.compiled result)]
    rw [← whole] at accounts
    exact ⟨whole, accounts.settled.mpr rfl, accounts⟩

end PageState
end PagePreview
