import PagePreview.Proofs.Machine.Step

/-!
# Steps that may throw

`Ends n x s Q R` says of a step how it may end: with a result and a state as in `Q`, by throwing a
value as in `R`, or at a limit if there is no room for `n`. A limit is no exception: no handler of a
page sees it, and it ends the whole run.
-/

namespace PagePreview.Machine
open Script Run

variable {α β : Type} {n m k fuel : Nat} {s t : State} {x : Run α} {f : α → Run β} {a : α} {v : Value}
  {P : α → Array Object → Prop} {Q Q' : α → State → Prop} {S : β → State → Prop} {R R' : Value → State → Prop}

structure Level (s t : State) : Prop where
  limits : t.limits = s.limits
  depth : t.depth = s.depth
  held : t.held = s.held

theorem Level.refl (s : State) : Level s s := ⟨rfl, rfl, rfl⟩

theorem Level.trans {r : State} (h : Level r s) (h' : Level s t) : Level r t :=
  ⟨h'.limits.trans h.limits, h'.depth.trans h.depth, h'.held.trans h.held⟩

theorem Level.room (h : Level s t) : Room n fuel t ↔ Room n fuel s := by
  rw [Room, Room, h.limits, h.depth, h.held]

theorem Kept.level (h : Kept s t) : Level s t := ⟨h.limits, h.depth, h.held⟩

def Settles (n fuel : Nat) (s : State) (Q : α → State → Prop) (R : Value → State → Prop) :
    EStateM.Result Abrupt State α → Prop
  | .ok a t => Level s t ∧ Q a t
  | .error (.thrown v) t => R v t
  | .error (.limit _) _ => ¬Room n fuel s
  | .error _ _ => False

/-- With room for `n` the step gives a result as in `Q` or throws a value as in `R`. -/
def Ends (n : Nat) (x : Run α) (s : State) (Q : α → State → Prop) (R : Value → State → Prop) : Prop :=
  ∀ fuel, Settles n fuel s Q R (x (engine builtins fuel) s)

theorem Settles.mono {r : EStateM.Result Abrupt State α} (h : Settles m fuel s Q R r) (le : m ≤ n)
    (result : ∀ a t, Level s t → Q a t → Q' a t) (thrown : ∀ v t, R v t → R' v t) :
    Settles n fuel s Q' R' r := by
  cases r with
  | ok a t => exact ⟨h.1, result a t h.1 h.2⟩
  | error stop t =>
    cases stop with
    | thrown v => exact thrown v t h
    | limit message => exact fun room => h (room.mono le)
    | suspended => exact h
    | cut => exact h

theorem Ends.mono (h : Ends m x s Q R) (le : m ≤ n) (result : ∀ a t, Level s t → Q a t → Q' a t)
    (thrown : ∀ v t, R v t → R' v t) : Ends n x s Q' R' :=
  fun fuel => (h fuel).mono le result thrown

theorem Ends.more (h : Ends m x s Q R) (le : m ≤ n) : Ends n x s Q R :=
  h.mono le (fun _ _ _ hq => hq) fun _ _ hr => hr

theorem ends_of_ok (ok : ∀ fuel, x (engine builtins fuel) s = .ok a t) (level : Level s t) (hQ : Q a t) :
    Ends n x s Q R := by
  intro fuel
  rw [ok fuel]
  exact ⟨level, hQ⟩

theorem ends_pure (hQ : Q a s) : Ends n (pure a) s Q R := ends_of_ok (fun _ => rfl) (.refl s) hQ

theorem ends_throw (hR : R v s) : Ends n (throwValue v : Run α) s Q R := fun _ => hR

theorem Gives.ends_well (h : Gives n x s P) : Ends n x s (fun a t => Kept s t ∧ P a t.objects) R := by
  intro fuel
  have fits := h fuel
  cases run : x (engine builtins fuel) s with
  | ok a t =>
    rw [run] at fits
    exact ⟨fits.1.level, fits⟩
  | error stop t =>
    rw [run] at fits
    cases stop with
    | thrown v => exact fits.elim
    | limit message => exact fits
    | suspended => exact fits
    | cut => exact fits

theorem Ends.bind (hx : Ends n x s Q R) (hf : ∀ a t, Level s t → Q a t → Ends n (f a) t S R) :
    Ends n (x >>= f) s S R := by
  intro fuel
  have first := hx fuel
  have whole : (x >>= f) (engine builtins fuel) s =
      EStateM.bind (x (engine builtins fuel)) (fun a => f a (engine builtins fuel)) s := rfl
  rw [whole, EStateM.bind]
  cases run : x (engine builtins fuel) s with
  | error stop t =>
    rw [run] at first
    cases stop <;> exact first
  | ok a t =>
    rw [run] at first
    obtain ⟨level, ha⟩ := first
    have second := hf a t level ha fuel
    dsimp only
    cases run' : f a (engine builtins fuel) t with
    | ok b u =>
      rw [run'] at second
      exact ⟨level.trans second.1, second.2⟩
    | error stop u =>
      rw [run'] at second
      cases stop with
      | thrown v => exact second
      | limit message => exact fun room => second (level.room.mpr room)
      | suspended => exact second
      | cut => exact second

theorem Gives.ends_bind (hx : Gives n x s P) (hf : ∀ a t, Kept s t → P a t.objects → Ends n (f a) t S R) :
    Ends n (x >>= f) s S R :=
  hx.ends_well.bind fun a t _ h => hf a t h.1 h.2

theorem Reads.ends_bind (hx : Reads s x a) (hf : Ends n (f a) s S R) : Ends n (x >>= f) s S R := by
  intro fuel
  rw [run_bind (hx _)]
  exact hf fuel

theorem Ends.map {g : α → β} (hx : Ends n x s (fun a t => S (g a) t) R) : Ends n (g <$> x) s S R := by
  intro fuel
  have h := hx fuel
  have whole : (g <$> x) (engine builtins fuel) s = EStateM.map g (x (engine builtins fuel)) s := rfl
  rw [whole, EStateM.map]
  cases run : x (engine builtins fuel) s with
  | ok a t =>
    rw [run] at h
    exact h
  | error stop t =>
    rw [run] at h
    cases stop <;> exact h

theorem Ends.outcome (h : Ends n x s Q R) (room : Room n fuel s) :
    (∃ a t, x (engine builtins fuel) s = .ok a t ∧ Level s t ∧ Q a t) ∨
      ∃ v t, x (engine builtins fuel) s = .error (.thrown v) t ∧ R v t := by
  have settled := h fuel
  cases run : x (engine builtins fuel) s with
  | ok a t =>
    rw [run] at settled
    exact .inl ⟨a, t, rfl, settled⟩
  | error stop t =>
    rw [run] at settled
    cases stop with
    | thrown v => exact .inr ⟨v, t, rfl, settled⟩
    | limit message => exact absurd room settled
    | suspended => exact settled.elim
    | cut => exact settled.elim

section Dropping

variable {size : Nat}

theorem dropScopes_objects : (t.dropScopes size).objects = t.objects := by
  unfold State.dropScopes
  split <;> rfl

theorem dropScopes_limits : (t.dropScopes size).limits = t.limits := by
  unfold State.dropScopes
  split <;> rfl

end Dropping

theorem ends_perform {task : Task} {Q : Completion → State → Prop}
    (h : Ends n (performTask builtins task) s Q R) : Ends (n + 1) (perform task) s Q R := by
  intro fuel
  cases fuel with
  | zero => exact fun room => Nat.not_succ_le_zero n room.1
  | succ fuel =>
    have inner := h fuel
    have same : perform task (engine builtins (fuel + 1)) s =
        performTask builtins task (engine builtins fuel) s := rfl
    rw [same]
    cases run : performTask builtins task (engine builtins fuel) s with
    | ok a t =>
      rw [run] at inner
      exact inner
    | error stop t =>
      rw [run] at inner
      cases stop with
      | thrown v => exact inner
      | limit message =>
        rintro ⟨tasks, calls, held⟩
        exact inner ⟨by omega, by omega, by omega⟩
      | suspended => exact inner
      | cut => exact inner

theorem ends_execute {c : Context} {body : Stmt} {Q : Completion → State → Prop}
    (h : Ends n (statement c body) s Q R) : Ends (n + 1) (execute c body) s Q R :=
  ends_perform h

theorem ends_call {callee this : Value} {args : Array Value} {Q : Value → State → Prop}
    (h : Ends n (callValue builtins callee this args) s Q R) : Ends (n + 1) (call callee this args) s Q R :=
  Ends.map (g := valueOf) (ends_perform (Ends.map (g := fun v => Completion.normal (some v)) h))

theorem ends_counted (h : Ends n x (s.entered k)
      (fun a t => Q a { t.leave s.depth (s.held + k) s.loops s.scopes.size with held := s.held })
      (fun v t => R v { t.leave s.depth (s.held + k) s.loops s.scopes.size with held := s.held })) :
    Ends (n + k + 1) (counted k x) s Q R := by
  intro fuel
  have inner := h fuel
  have checked : counted k x (engine builtins fuel) s =
      withState (fun t => { t with held := s.held }) (asCall k x (engine builtins fuel) s) := rfl
  have called : asCall k x (engine builtins fuel) s =
      EStateM.bind (checkLimits (engine builtins fuel)) (fun _ => framed x (engine builtins fuel))
        { s with held := s.held + k } := rfl
  have run : framed x (engine builtins fuel) { s with held := s.held + k } =
      withState (·.leave s.depth (s.held + k) s.loops s.scopes.size)
        (x (engine builtins fuel) (s.entered k)) := rfl
  rw [checked, called, EStateM.bind, checkLimits_eq]
  by_cases calls : s.limits.calls ≤ s.depth
  · rw [if_pos calls]
    rintro ⟨-, room, -⟩
    omega
  · rw [if_neg calls]
    by_cases held : heldLimit ≤ s.held + k
    · rw [if_pos held]
      rintro ⟨-, -, room⟩
      omega
    · rw [if_neg held]
      dsimp only
      rw [run]
      cases step : x (engine builtins fuel) (s.entered k) with
      | ok a t =>
        rw [step] at inner
        exact ⟨⟨leave_limits.trans inner.1.limits, rfl, rfl⟩, inner.2⟩
      | error stop t =>
        rw [step] at inner
        cases stop with
        | thrown v => exact inner
        | limit message =>
          rintro ⟨tasks, depth, room⟩
          refine inner ⟨?_, ?_, ?_⟩
          · omega
          · change s.depth + 1 + n ≤ s.limits.calls
            omega
          · change s.held + k + n ≤ heldLimit
            omega
        | suspended => exact inner
        | cut => exact inner

end PagePreview.Machine
