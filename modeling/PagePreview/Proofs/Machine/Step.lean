import PagePreview.Machine.Builtin

/-!
# Steps of the machine and the room they need

A step can end at a limit: on nested tasks, on calls under way, on values put by. `Gives n x s Q`
says that nothing else can go wrong with `x` in the state `s`, that its outcome is as `Q` says, and
that no limit is met where `n` more of each are allowed. A step that only looks, `Reads`, meets no
limit at all.
-/

namespace PagePreview.Machine
open Script Run

variable {α β : Type} {n m k fuel : Nat} {s t : State} {os : Array Object} {e : Engine}
  {x : Run α} {f : α → Run β} {a : α} {P : α → Array Object → Prop} {Q : β → Array Object → Prop}

/-- The step gives `a` and leaves the state as it is, whatever evaluates its tasks. -/
def Reads (s : State) (x : Run α) (a : α) : Prop := ∀ e : Engine, x e s = .ok a s

theorem run_bind (h : x e s = .ok a t) : (x >>= f) e s = f a e t := by
  have whole : (x >>= f) e s = EStateM.bind (x e) (fun a => f a e) s := rfl
  rw [whole, EStateM.bind, h]

theorem reads_pure (a : α) : Reads s (pure a) a := fun _ => rfl

theorem reads_get : Reads s get s := fun _ => rfl

theorem reads_objectAt (id : Nat) : Reads s (objectAt id) (s.object id) := fun _ => rfl

theorem Reads.bind {b : β} (hx : Reads s x a) (hf : Reads s (f a) b) : Reads s (x >>= f) b := by
  intro e
  rw [run_bind (hx e)]
  exact hf e

theorem Reads.map {g : α → β} (hx : Reads s x a) : Reads s (g <$> x) (g a) := by
  intro e
  have whole : (g <$> x) e s = EStateM.map g (x e) s := rfl
  rw [whole, EStateM.map, hx e]

theorem Reads.guarded {handler : Abrupt → Run α} (hx : Reads s x a) : Reads s (tryCatch x handler) a := by
  intro e
  have whole : (tryCatch x handler) e s = EStateM.tryCatch (x e) (fun stop => handler stop e) s := rfl
  rw [whole]
  delta EStateM.tryCatch
  rw [hx e]

/-- A loop that only looks at the state; `g` says what has been gathered behind each element. -/
theorem reads_forIn {γ : Type} {f : α → γ → Run (ForInStep γ)} {l : List α} {g : Nat → γ}
    (h : ∀ i (hi : i < l.length), Reads s (f l[i] (g i)) (.yield (g (i + 1)))) :
    Reads s (forIn l (g 0) f) (g l.length) := by
  induction l generalizing g with
  | nil => exact reads_pure _
  | cons a l ih =>
    rw [List.forIn_cons]
    refine (h 0 (Nat.zero_lt_succ _)).bind ?_
    exact ih (g := fun i => g (i + 1)) fun i hi => h (i + 1) (Nat.succ_lt_succ hi)

theorem range'_of_range (count : Nat) :
    List.range' (([:count] : Std.Legacy.Range).start) ([:count] : Std.Legacy.Range).size
      ([:count] : Std.Legacy.Range).step = List.range count := by
  simp [Std.Legacy.Range.size, List.range_eq_range']

theorem reads_forIn_range {γ : Type} {f : Nat → γ → Run (ForInStep γ)} {count : Nat} {g : Nat → γ}
    (h : ∀ i < count, Reads s (f i (g i)) (.yield (g (i + 1)))) :
    Reads s (forIn [:count] (g 0) f) (g count) := by
  rw [Std.Legacy.Range.forIn_eq_forIn_range', range'_of_range]
  have whole := reads_forIn (s := s) (f := f) (l := List.range count) (g := g) fun i hi => by
    rw [List.length_range] at hi
    rw [List.getElem_range]
    exact h i hi
  rwa [List.length_range] at whole

/-- Whether `n` more tasks may be nested, `n` more calls made and `n` more values put by. -/
def Room (n fuel : Nat) (s : State) : Prop :=
  n ≤ fuel ∧ s.depth + n ≤ s.limits.calls ∧ s.held + n ≤ heldLimit

theorem Room.mono (h : Room n fuel s) (le : m ≤ n) : Room m fuel s := by
  obtain ⟨tasks, calls, held⟩ := h
  exact ⟨by omega, by omega, by omega⟩

/-- What a step leaves as it is: all but the objects, and what only other steps look at. -/
structure Kept (s t : State) : Prop where
  scopes : t.scopes = s.scopes
  limits : t.limits = s.limits
  depth : t.depth = s.depth
  held : t.held = s.held
  joining : t.joining = s.joining

theorem Kept.refl (s : State) : Kept s s := ⟨rfl, rfl, rfl, rfl, rfl⟩

theorem Kept.trans {r : State} (h : Kept r s) (h' : Kept s t) : Kept r t :=
  ⟨h'.scopes.trans h.scopes, h'.limits.trans h.limits, h'.depth.trans h.depth, h'.held.trans h.held,
    h'.joining.trans h.joining⟩

theorem Kept.room (h : Kept s t) : Room n fuel t ↔ Room n fuel s := by
  rw [Room, Room, h.limits, h.depth, h.held]

/-- The same scopes are around, and the same lists are being joined. -/
structure Around (s t : State) : Prop where
  scopes : t.scopes = s.scopes
  joining : t.joining = s.joining

theorem Around.refl (s : State) : Around s s := ⟨rfl, rfl⟩

theorem Around.trans {r : State} (h : Around r s) (h' : Around s t) : Around r t :=
  ⟨h'.scopes.trans h.scopes, h'.joining.trans h.joining⟩

theorem Kept.around (h : Kept s t) : Around s t := ⟨h.scopes, h.joining⟩

def Fits (n fuel : Nat) (s : State) (Q : α → Array Object → Prop) :
    EStateM.Result Abrupt State α → Prop
  | .ok a t => Kept s t ∧ Q a t.objects
  | .error (.limit _) _ => ¬Room n fuel s
  | .error _ _ => False

/-- With room for `n` the step gives what `Q` says of its result and of the objects behind it; with
less, it may also end at a limit. -/
def Gives (n : Nat) (x : Run α) (s : State) (Q : α → Array Object → Prop) : Prop :=
  ∀ fuel, Fits n fuel s Q (x (engine builtins fuel) s)

theorem gives_of_ok (ok : ∀ fuel, x (engine builtins fuel) s = .ok a t) (kept : Kept s t)
    (hP : P a t.objects) : Gives n x s P := by
  intro fuel
  rw [ok fuel]
  exact ⟨kept, hP⟩

theorem Gives.ends {Q : α → Array Object → Prop} (h : Gives n x s Q) (fuel : Nat) :
    (∃ a t, x (engine builtins fuel) s = .ok a t ∧ Kept s t ∧ Q a t.objects) ∨
      ∃ message t, x (engine builtins fuel) s = .error (.limit message) t ∧ ¬Room n fuel s := by
  have fits := h fuel
  cases result : x (engine builtins fuel) s with
  | ok a t =>
    rw [result] at fits
    exact .inl ⟨a, t, rfl, fits⟩
  | error stop t =>
    rw [result] at fits
    cases stop with
    | limit message => exact .inr ⟨message, t, rfl, fits⟩
    | thrown v => exact fits.elim
    | suspended => exact fits.elim
    | cut => exact fits.elim

theorem Reads.gives (h : Reads s x a) (hP : P a s.objects) : Gives n x s P :=
  gives_of_ok (fun _ => h _) (.refl s) hP

theorem gives_pure (hP : P a s.objects) : Gives n (pure a) s P := (reads_pure a).gives hP

theorem Fits.limit {fuel' : Nat} {stop : Abrupt} {t' u : State}
    (h : Fits n fuel t P (.error stop u)) (room : Room m fuel' s → Room n fuel t) :
    Fits m fuel' s Q (.error stop t') := by
  cases stop with
  | limit message => exact fun there => h (room there)
  | thrown v => exact h
  | suspended => exact h
  | cut => exact h

theorem Gives.bind (hx : Gives n x s P)
    (hf : ∀ a t, Kept s t → P a t.objects → Gives n (f a) t Q) : Gives n (x >>= f) s Q := by
  intro fuel
  have first := hx fuel
  have whole : (x >>= f) (engine builtins fuel) s =
      EStateM.bind (x (engine builtins fuel)) (fun a => f a (engine builtins fuel)) s := rfl
  rw [whole, EStateM.bind]
  cases run : x (engine builtins fuel) s with
  | error stop t =>
    rw [run] at first
    exact first.limit id
  | ok a t =>
    rw [run] at first
    obtain ⟨kept, ha⟩ := first
    have second := hf a t kept ha fuel
    dsimp only
    cases run' : f a (engine builtins fuel) t with
    | ok b u =>
      rw [run'] at second
      exact ⟨kept.trans second.1, second.2⟩
    | error stop u =>
      rw [run'] at second
      exact second.limit kept.room.mpr

theorem Reads.gives_bind (hx : Reads s x a) (hf : Gives n (f a) s Q) : Gives n (x >>= f) s Q := by
  intro fuel
  rw [run_bind (hx _)]
  exact hf fuel

theorem Gives.mono {P' : α → Array Object → Prop} (hx : Gives m x s P) (le : m ≤ n)
    (weaker : ∀ a os, P a os → P' a os) : Gives n x s P' := by
  intro fuel
  have h := hx fuel
  cases run : x (engine builtins fuel) s with
  | ok a t =>
    rw [run] at h
    exact ⟨h.1, weaker a t.objects h.2⟩
  | error stop t =>
    rw [run] at h
    exact h.limit fun room => room.mono le

theorem Gives.more (hx : Gives m x s P) (le : m ≤ n) : Gives n x s P := hx.mono le fun _ _ h => h

theorem Gives.map {g : α → β} (hx : Gives n x s fun a os => Q (g a) os) : Gives n (g <$> x) s Q := by
  intro fuel
  have h := hx fuel
  have whole : (g <$> x) (engine builtins fuel) s = EStateM.map g (x (engine builtins fuel)) s := rfl
  rw [whole, EStateM.map]
  cases run : x (engine builtins fuel) s with
  | ok a t =>
    rw [run] at h
    exact h
  | error stop t =>
    rw [run] at h
    exact h.limit id

theorem gives_forIn {γ : Type} {f : α → γ → Run (ForInStep γ)} {l : List α}
    {I : Nat → γ → Array Object → Prop} {c : γ}
    (h : ∀ i (hi : i < l.length) c t, Kept s t → I i c t.objects →
      Gives n (f l[i] c) t fun r os => ∃ d, r = .yield d ∧ I (i + 1) d os)
    (begun : I 0 c s.objects) : Gives n (forIn l c f) s (I l.length) := by
  induction l generalizing s c I with
  | nil => exact gives_pure begun
  | cons a l ih =>
    rw [List.forIn_cons]
    refine (h 0 (Nat.zero_lt_succ _) c s (.refl s) begun).bind ?_
    rintro r t kept ⟨d, rfl, hd⟩
    have rest := ih (I := fun i => I (i + 1)) (fun i hi c u later hc =>
      h (i + 1) (Nat.succ_lt_succ hi) c u (kept.trans later) hc) hd
    exact rest

theorem gives_forIn_range {γ : Type} {f : Nat → γ → Run (ForInStep γ)} {count : Nat}
    {I : Nat → γ → Array Object → Prop} {c : γ}
    (h : ∀ i < count, ∀ c t, Kept s t → I i c t.objects →
      Gives n (f i c) t fun r os => ∃ d, r = .yield d ∧ I (i + 1) d os)
    (begun : I 0 c s.objects) : Gives n (forIn [:count] c f) s (I count) := by
  rw [Std.Legacy.Range.forIn_eq_forIn_range', range'_of_range]
  have whole := gives_forIn (n := n) (f := f) (l := List.range count) (I := I) (fun i hi => by
    rw [List.length_range] at hi
    rw [List.getElem_range]
    exact h i hi) begun
  rwa [List.length_range] at whole

theorem gives_perform {task : Task} {P : Completion → Array Object → Prop}
    (h : Gives n (performTask builtins task) s P) : Gives (n + 1) (perform task) s P := by
  intro fuel
  cases fuel with
  | zero => exact fun room => Nat.not_succ_le_zero n room.1
  | succ fuel =>
    have inner := h fuel
    have same : perform task (engine builtins (fuel + 1)) s =
        performTask builtins task (engine builtins fuel) s := rfl
    rw [same]
    cases run : performTask builtins task (engine builtins fuel) s with
    | ok a t =>
      rw [run] at inner
      exact inner
    | error stop t =>
      rw [run] at inner
      refine inner.limit ?_
      rintro ⟨tasks, calls, held⟩
      exact ⟨by omega, by omega, by omega⟩

theorem gives_evaluate {c : Context} {expr : Expr} {P : Value → Array Object → Prop}
    (h : Gives n (expression c expr) s P) : Gives (n + 1) (evaluate c expr) s P :=
  Gives.map (g := valueOf) (gives_perform (Gives.map (g := fun v => Completion.normal (some v)) h))

theorem gives_call {id : Nat} {g : Native} {this : Value} {args : Array Value}
    {P : Value → Array Object → Prop} (native : (s.object id).kind = .native g)
    (h : Gives n (builtins g this args none) s P) :
    Gives (n + 1) (call (.object id) this args) s P := by
  have called : Gives n (callValue builtins (.object id) this args) s P := by
    refine (reads_objectAt id).gives_bind ?_
    rw [native]
    exact h
  exact Gives.map (g := valueOf) (gives_perform (Gives.map (g := fun v => Completion.normal (some v)) called))

def State.entered (k : Nat) (s : State) : State :=
  { s with depth := s.depth + 1, held := s.held + k, loops := 0 }

theorem around_entered (k : Nat) (s : State) : Around s (s.entered k) := ⟨rfl, rfl⟩

theorem checkLimits_eq (e : Engine) (s : State) : checkLimits e s =
    if s.limits.calls ≤ s.depth then .error (.limit callLimitComplaint) s
    else if heldLimit ≤ s.held then .error (.limit heldLimitComplaint) s
    else .ok () s := by
  unfold checkLimits
  change (if _ then _ else _ : Run Unit) e s = _
  by_cases calls : s.limits.calls ≤ s.depth
  · rw [if_pos calls, if_pos calls]
    rfl
  · rw [if_neg calls, if_neg calls]
    change (if _ then _ else _ : Run Unit) e s = _
    by_cases held : heldLimit ≤ s.held
    · rw [if_pos held, if_pos held]
      rfl
    · rw [if_neg held, if_neg held]
      rfl

theorem gives_checkLimits : Gives 1 checkLimits s fun _ os => os = s.objects := by
  intro fuel
  rw [checkLimits_eq]
  split
  · rintro ⟨-, calls, -⟩
    omega
  · split
    · rintro ⟨-, -, held⟩
      omega
    · exact ⟨.refl s, rfl⟩

section Leaving

variable {depth held loops size : Nat}

theorem Kept.leave (h : Kept s t) : (t.leave depth held loops s.scopes.size).scopes = s.scopes := by
  unfold State.leave State.dropScopes
  split
  · change t.scopes.shrink s.scopes.size = s.scopes
    rw [h.scopes]
    simp
  · exact h.scopes

theorem leave_objects : (t.leave depth held loops size).objects = t.objects := by
  unfold State.leave State.dropScopes
  split <;> rfl

theorem leave_joining : (t.leave depth held loops size).joining = t.joining := by
  unfold State.leave State.dropScopes
  split <;> rfl

theorem leave_limits : (t.leave depth held loops size).limits = t.limits := by
  unfold State.leave State.dropScopes
  split <;> rfl

end Leaving

def withState (f : State → State) : EStateM.Result Abrupt State α → EStateM.Result Abrupt State α
  | .ok a t => .ok a (f t)
  | .error stop t => .error stop (f t)

theorem gives_counted (h : Gives n x (s.entered k) P) : Gives (n + k + 1) (counted k x) s P := by
  intro fuel
  have inner := h fuel
  have checked : counted k x (engine builtins fuel) s =
      withState (fun t => { t with held := s.held }) (asCall k x (engine builtins fuel) s) := rfl
  have called : asCall k x (engine builtins fuel) s =
      EStateM.bind (checkLimits (engine builtins fuel)) (fun _ => framed x (engine builtins fuel))
        { s with held := s.held + k } := rfl
  have run : framed x (engine builtins fuel) { s with held := s.held + k } =
      withState (·.leave s.depth (s.held + k) s.loops s.scopes.size)
        (x (engine builtins fuel) (s.entered k)) := rfl
  rw [checked, called, EStateM.bind, checkLimits_eq]
  by_cases calls : s.limits.calls ≤ s.depth
  · rw [if_pos calls]
    rintro ⟨-, room, -⟩
    omega
  · rw [if_neg calls]
    by_cases held : heldLimit ≤ s.held + k
    · rw [if_pos held]
      rintro ⟨-, -, room⟩
      omega
    · rw [if_neg held]
      dsimp only
      rw [run]
      cases step : x (engine builtins fuel) (s.entered k) with
      | ok a t =>
        rw [step] at inner
        obtain ⟨kept, ha⟩ := inner
        have inside : Kept s { t.leave s.depth (s.held + k) s.loops s.scopes.size with held := s.held } :=
          ⟨kept.leave, leave_limits.trans kept.limits, rfl, rfl, leave_joining.trans kept.joining⟩
        refine ⟨inside, ?_⟩
        change P a (t.leave s.depth (s.held + k) s.loops s.scopes.size).objects
        rw [leave_objects]
        exact ha
      | error stop t =>
        rw [step] at inner
        refine inner.limit ?_
        rintro ⟨tasks, depth, room⟩
        refine ⟨?_, ?_, ?_⟩
        · omega
        · change s.depth + 1 + n ≤ s.limits.calls
          omega
        · change s.held + k + n ≤ heldLimit
          omega

theorem gives_holding (h : Gives n x { s with held := s.held + k } P) :
    Gives (n + k) (holding k x) s P := by
  intro fuel
  have inner := h fuel
  have run : holding k x (engine builtins fuel) s =
      EStateM.bind (x (engine builtins fuel)) (fun a t => .ok a { t with held := t.held - k })
        { s with held := s.held + k } := rfl
  rw [run]
  dsimp only [EStateM.bind]
  cases step : x (engine builtins fuel) { s with held := s.held + k } with
  | ok a t =>
    rw [step] at inner
    obtain ⟨kept, ha⟩ := inner
    have back : t.held - k = s.held := by
      rw [kept.held]
      exact Nat.add_sub_cancel s.held k
    exact ⟨⟨kept.scopes, kept.limits, kept.depth, back, kept.joining⟩, ha⟩
  | error stop t =>
    rw [step] at inner
    refine inner.limit ?_
    rintro ⟨tasks, calls, room⟩
    refine ⟨by omega, ?_, ?_⟩
    · change s.depth + n ≤ s.limits.calls
      omega
    · change s.held + k + n ≤ heldLimit
      omega

end PagePreview.Machine
