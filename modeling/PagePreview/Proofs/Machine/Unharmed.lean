import PagePreview.Proofs.Machine.Outcome
import PagePreview.Proofs.Machine.Standard

/-!
# Steps that leave unharmed what there was

A step may make objects and scopes, and may throw; it leaves a state unharmed if all that was there
stays as it was. An outcome of such steps is a result, or what is known of the value that is thrown.
-/

namespace PagePreview.Machine
open Script Run Builtin

variable {α β γ : Type} {n m k id : Nat} {s t u : State} {os os' : Array Object} {o : Object}
  {moving : List Nat} {x : Run α} {f : α → Run β} {a : α} {v : Value} {P : α → Array Object → Prop}

structure Unharmed (s t : State) : Prop extends Level s t where
  objects : Extends s.objects t.objects
  scopes : ∀ (i : Nat) (sc : Machine.Scope), s.scopes[i]? = some sc → t.scopes[i]? = some sc
  joining : t.joining = s.joining

theorem Unharmed.refl (s : State) : Unharmed s s := ⟨.refl s, .refl _, fun _ _ h => h, rfl⟩

theorem Unharmed.trans (h : Unharmed s t) (h' : Unharmed t u) : Unharmed s u where
  toLevel := h.toLevel.trans h'.toLevel
  objects := h.objects.trans h'.objects
  scopes i sc there := h'.scopes i sc (h.scopes i sc there)
  joining := h'.joining.trans h.joining

theorem Kept.unharmed (h : Kept s t) (more : Extends s.objects t.objects) : Unharmed s t where
  toLevel := h.level
  objects := more
  scopes := h.scopes ▸ fun _ _ there => there
  joining := h.joining

theorem Unharmed.ready (h : Unharmed s t) (ready : Ready s) : Ready t where
  standard := ready.standard.extends h.objects
  globals name mem := by
    obtain ⟨sc, at_, rest⟩ := ready.globals name mem
    exact ⟨sc, h.scopes _ sc at_, rest⟩
  joining id mem := by
    rw [h.joining] at mem
    exact Nat.lt_of_lt_of_le (ready.joining id mem) h.objects.size_le

theorem Unharmed.leave (h : Unharmed (s.entered k) t) :
    Unharmed s { t.leave s.depth (s.held + k) s.loops s.scopes.size with held := s.held } where
  limits := leave_limits.trans h.limits
  depth := rfl
  held := rfl
  objects := by
    change Extends s.objects (t.leave _ _ _ _).objects
    rw [leave_objects]
    exact h.objects
  scopes i sc there := by
    have bound : i < s.scopes.size := (Array.getElem?_eq_some_iff.mp there).1
    have kept : t.scopes[i]? = some sc := h.scopes i sc there
    change (t.dropScopes s.scopes.size).scopes[i]? = some sc
    unfold State.dropScopes
    split
    · change (t.scopes.shrink s.scopes.size)[i]? = some sc
      have there' : i < t.scopes.size := (Array.getElem?_eq_some_iff.mp kept).1
      rw [Array.shrink_eq_take, Array.take_eq_extract, Array.getElem?_extract, Nat.zero_add, if_pos (by omega)]
      exact kept
    · exact kept
  joining := leave_joining.trans h.joining

/-- What is in the first store, but at some places, is also in the second. -/
def Besides (moving : List Nat) (os os' : Array Object) : Prop :=
  ∀ (id : Nat) (o : Object), id ∉ moving → os[id]? = some o → os'[id]? = some o

theorem Extends.besides (h : Extends os os') : Besides moving os os' := fun id o _ there => h id o there

theorem Besides.trans {os'' : Array Object} (h : Besides moving os os') (h' : Besides moving os' os'') :
    Besides moving os os'' := fun id o still there => h' id o still (h id o still there)

theorem besides_modify {f : Object → Object} (mem : id ∈ moving) : Besides moving os (os.modify id f) :=
  fun _ _ still there => modify_there (fun same => still (same ▸ mem)) there

/-- An object that stays where it is, whatever becomes of the objects at some places. -/
structure Steady (moving : List Nat) (os : Array Object) (id : Nat) (o : Object) : Prop where
  place : os[id]? = some o
  still : id ∉ moving

/-- A later state: scopes and objects were added, and the objects at some places may be others. -/
structure Later (moving : List Nat) (s t : State) : Prop where
  objects : Besides moving s.objects t.objects
  scopes : ∀ (i : Nat) (sc : Machine.Scope), s.scopes[i]? = some sc → t.scopes[i]? = some sc

theorem Later.refl (s : State) : Later moving s s := ⟨fun _ _ _ h => h, fun _ _ h => h⟩

theorem Later.trans (h : Later moving s t) (h' : Later moving t u) : Later moving s u where
  objects := h.objects.trans h'.objects
  scopes i sc there := h'.scopes i sc (h.scopes i sc there)

theorem Unharmed.later (h : Unharmed s t) : Later moving s t := ⟨h.objects.besides, h.scopes⟩

theorem Later.entered (h : Later moving s t) (k : Nat) : Later moving s (t.entered k) := ⟨h.objects, h.scopes⟩

theorem Steady.later (h : Steady moving s.objects id o) (later : Later moving s t) : t.objects[id]? = some o :=
  later.objects id o h.still h.place

/-- What is known of a thrown value, whatever becomes of the objects at some places. -/
structure Thrown (moving : List Nat) where
  Tells : Array Object → Value → Prop
  lasts : ∀ os os' v, Besides moving os os' → Tells os v → Tells os' v

/-- A result, or what is known of the value that is thrown in its place. -/
abbrev Outcome (moving : List Nat) (α : Type) := Except (Thrown moving) α

def Outcome.Throws (out : Outcome moving α) (v : Value) (os : Array Object) : Prop :=
  ∃ known, out = .error known ∧ known.Tells os v

/-- The step leaves the state unharmed, and its outcome is this one. -/
def ComesTo (n : Nat) (x : Run α) (s : State) (out : Outcome moving α) : Prop :=
  Ends n x s (fun a t => Unharmed s t ∧ out = .ok a) fun v t => Unharmed s t ∧ out.Throws v t.objects

variable {out : Outcome moving α} {g : α → Outcome moving β}

theorem Outcome.Throws.bind (h : out.Throws v os) : Outcome.Throws (out >>= g) v os := by
  obtain ⟨known, rfl, tells⟩ := h
  exact ⟨known, rfl, tells⟩

theorem Outcome.Throws.map {g : α → β} (h : out.Throws v os) : Outcome.Throws (g <$> out) v os := by
  obtain ⟨known, rfl, tells⟩ := h
  exact ⟨known, rfl, tells⟩

theorem Outcome.Throws.of_map {g : α → β} (h : Outcome.Throws (g <$> out) v os) : out.Throws v os := by
  obtain ⟨known, same, tells⟩ := h
  cases out with
  | ok a => cases same
  | error known' =>
    cases same
    exact ⟨known, rfl, tells⟩

theorem Outcome.ok_of_map {g : α → β} {b : β} (h : g <$> out = .ok b) : ∃ a, out = .ok a ∧ g a = b := by
  cases out with
  | error known => cases h
  | ok a => exact ⟨a, rfl, Except.ok.inj h⟩

theorem Outcome.Throws.besides (h : out.Throws v os) (later : Besides moving os os') : out.Throws v os' := by
  obtain ⟨known, same, tells⟩ := h
  exact ⟨known, same, known.lasts os os' v later tells⟩

namespace ComesTo

theorem more (h : ComesTo m x s out) (le : m ≤ n) : ComesTo n x s out := Ends.more h le

theorem bind (hx : ComesTo n x s out) (hf : ∀ a t, Unharmed s t → out = .ok a → ComesTo n (f a) t (g a)) :
    ComesTo n (x >>= f) s (out >>= g) := by
  refine Ends.bind (Ends.mono hx (Nat.le_refl n) (fun _ _ _ h => h) fun v t h => ⟨h.1, h.2.bind⟩) ?_
  rintro a t - ⟨unharmed, rfl⟩
  refine Ends.mono (hf a t unharmed rfl) (Nat.le_refl n) ?_ ?_
  · rintro b u - ⟨unharmed', same⟩
    exact ⟨unharmed.trans unharmed', same⟩
  · rintro v u ⟨unharmed', thrown⟩
    exact ⟨unharmed.trans unharmed', thrown⟩

theorem map {g : α → β} (hx : ComesTo n x s out) : ComesTo n (g <$> x) s (g <$> out) := by
  refine Ends.map (Ends.mono hx (Nat.le_refl n) ?_ fun v t h => ⟨h.1, h.2.map⟩)
  rintro a t - ⟨unharmed, rfl⟩
  exact ⟨unharmed, rfl⟩

theorem bind_ok {out' : Outcome moving β} (hx : ComesTo n x s (.ok a : Outcome moving α))
    (hf : ∀ t, Unharmed s t → ComesTo n (f a) t out') : ComesTo n (x >>= f) s out' := by
  refine hx.bind (g := fun _ => out') fun b t unharmed same => ?_
  cases same
  exact hf t unharmed

theorem behind (unharmed : Unharmed s t) (h : ComesTo n x t out) :
    Ends n x t (fun a u => Unharmed s u ∧ out = .ok a) fun v u => Unharmed s u ∧ out.Throws v u.objects :=
  Ends.mono h (Nat.le_refl n) (fun _ _ _ h => ⟨unharmed.trans h.1, h.2⟩)
    fun _ _ h => ⟨unharmed.trans h.1, h.2⟩

end ComesTo

theorem comesTo_pure (a : α) : ComesTo n (pure a) s (.ok a : Outcome moving α) := ends_pure ⟨.refl s, rfl⟩

variable {out' : Outcome moving β}

theorem Gives.comesTo_bind (hx : Gives n x s P) (grows : ∀ a os, P a os → Extends s.objects os)
    (hf : ∀ a t, Kept s t → P a t.objects → ComesTo n (f a) t out') : ComesTo n (x >>= f) s out' :=
  hx.ends_bind fun a t kept ha => (hf a t kept ha).behind (kept.unharmed (grows a _ ha))

theorem Reads.comesTo_bind (hx : Reads s x a) (hf : ComesTo n (f a) s out') : ComesTo n (x >>= f) s out' :=
  hx.ends_bind hf

theorem Gives.comesTo (hx : Gives n x s fun b os => b = a ∧ Extends s.objects os) :
    ComesTo n x s (.ok a : Outcome moving α) := by
  refine hx.ends_well.mono (Nat.le_refl n) ?_ fun _ _ none => none
  rintro b t - ⟨kept, rfl, more⟩
  exact ⟨kept.unharmed more, rfl⟩

theorem comesTo_counted (h : ComesTo n x (s.entered k) out) : ComesTo (n + k + 1) (counted k x) s out := by
  refine ends_counted (Ends.mono h (Nat.le_refl n) ?_ ?_)
  · rintro a t - ⟨unharmed, same⟩
    exact ⟨unharmed.leave, same⟩
  · rintro v t ⟨unharmed, thrown⟩
    refine ⟨unharmed.leave, ?_⟩
    change out.Throws v (t.leave _ _ _ _).objects
    rw [leave_objects]
    exact thrown

/-- A loop comes to what its rounds come to, one after the other, up to the first that throws. -/
theorem comesTo_forIn {round : α → γ → Run (ForInStep γ)} {g : γ → α → Outcome moving γ} {l : List α} {c : γ}
    (h : ∀ a ∈ l, ∀ c t, Unharmed s t → ComesTo n (round a c) t (.yield <$> g c a)) :
    ComesTo n (forIn l c round) s (l.foldlM g c) := by
  induction l generalizing s c with
  | nil => exact comesTo_pure c
  | cons a l ih =>
    rw [List.forIn_cons, List.foldlM_cons]
    have first := h a List.mem_cons_self c s (.refl s)
    have whole : g c a >>= l.foldlM g = (.yield <$> g c a) >>= fun r : ForInStep γ => l.foldlM g r.value := by
      cases g c a <;> rfl
    rw [whole]
    refine first.bind fun r t unharmed same => ?_
    obtain ⟨d, -, rfl⟩ := Outcome.ok_of_map same
    exact ih fun a mem c u unharmed' => h a (List.mem_cons_of_mem _ mem) c u (unharmed.trans unharmed')

theorem comesTo_forIn_range {round : Nat → γ → Run (ForInStep γ)} {g : γ → Nat → Outcome moving γ} {count : Nat}
    {c : γ} (h : ∀ i < count, ∀ c t, Unharmed s t → ComesTo n (round i c) t (.yield <$> g c i)) :
    ComesTo n (forIn [:count] c round) s ((List.range count).foldlM g c) := by
  rw [Std.Legacy.Range.forIn_eq_forIn_range', range'_of_range]
  exact comesTo_forIn fun i mem => h i (List.mem_range.mp mem)

theorem ends_caught {handler : Abrupt → Run α} {Q : α → State → Prop} {R R' : Value → State → Prop}
    (hx : Ends n x s Q R) (level : ∀ v t, R v t → Level s t)
    (handled : ∀ v t, R v t → Ends n (handler (.thrown v)) t Q R')
    (limited : ∀ message, handler (.limit message) = throw (.limit message)) :
    Ends n (tryCatch x handler) s Q R' := by
  intro fuel
  have first := hx fuel
  have whole : (tryCatch x handler) (engine builtins fuel) s =
      EStateM.tryCatch (x (engine builtins fuel)) (fun stop => handler stop (engine builtins fuel)) s := rfl
  rw [whole]
  delta EStateM.tryCatch
  dsimp only
  cases run : x (engine builtins fuel) s with
  | ok a t =>
    rw [run] at first
    exact first
  | error stop t =>
    rw [run] at first
    cases stop with
    | thrown v =>
      have settled := handled v t first fuel
      have back := level v t first
      change Settles n fuel s Q R' (handler (.thrown v) (engine builtins fuel) t)
      cases run' : handler (.thrown v) (engine builtins fuel) t with
      | ok a u =>
        rw [run'] at settled
        exact ⟨back.trans settled.1, settled.2⟩
      | error stop u =>
        rw [run'] at settled
        cases stop with
        | limit message => exact fun room => settled (back.room.mpr room)
        | thrown w => exact settled
        | suspended => exact settled
        | cut => exact settled
    | limit message =>
      change Settles n fuel s Q R' (handler (.limit message) (engine builtins fuel) t)
      rw [limited]
      exact first
    | suspended => exact first.elim
    | cut => exact first.elim

theorem ends_always {after : Run Unit} {Q Q' : α → State → Prop} {R R' : Value → State → Prop}
    (hx : Ends n x s Q R) (level : ∀ v t, R v t → Level s t)
    (returned : ∀ a t, Q a t → Ends n after t (fun _ u => Q' a u) R')
    (thrown : ∀ v t, R v t → Ends n after t (fun _ u => R' v u) R') : Ends n (always x after) s Q' R' := by
  refine Ends.bind (ends_caught hx level (fun v t hr => ?_) fun _ => rfl) fun a t _ ha => ?_
  · exact (thrown v t hr).bind fun _ u _ hr' => ends_throw hr'
  · exact (returned a t ha).bind fun _ u _ hq => ends_pure hq

end PagePreview.Machine
