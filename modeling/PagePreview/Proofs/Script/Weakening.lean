import PagePreview.Proofs.Script.Walk
import PagePreview.Script.Check
import Mathlib.Data.List.Basic

/-!
# More declarations

A check goes the same way if one of the scopes around declares some names more, up to where that scope
is given a value of such a name. There the check fails, and says that the name has already been
declared. So whether the additional declarations fit among the others shows in the scope that they
leave without them.
-/

namespace PagePreview.Script

variable {names : List String} {depth floor : Nat}

namespace Scope

variable {s s' : Scope} {n name : String} {b : Binding}

structure Gains (names : List String) (s s' : Scope) : Prop where
  holdsVars : s'.holdsVars = s.holdsVars
  passed : s'.passed = s.passed
  any_bindingsOf (n : String) (test : Binding → Bool) :
    (s'.bindingsOf n).any test = ((s.bindingsOf n).any test || (names.contains n && test .lexical))

theorem bindingsOf_declare (s : Scope) (n m : String) (b : Binding) :
    (s.declare n b).bindingsOf m = if n = m then b :: s.bindingsOf m else s.bindingsOf m := by
  by_cases same : n = m
  · simp [declare, bindingsOf, same]
  · simp [declare, bindingsOf, same]

theorem any_bindingsOf_declare (s : Scope) (n m : String) (b : Binding) (test : Binding → Bool) :
    ((s.declare n b).bindingsOf m).any test = ((s.bindingsOf m).any test || (n == m && test b)) := by
  rw [bindingsOf_declare]
  by_cases same : n = m
  · simp [same, Bool.or_comm]
  · simp [same]

theorem Gains.refl (s : Scope) : s.Gains [] s := ⟨rfl, rfl, by simp⟩

theorem Gains.cons (h : s.Gains names s') (name : String) :
    s.Gains (name :: names) (s'.declare name .lexical) := by
  refine ⟨h.holdsVars, h.passed, fun n test => ?_⟩
  rw [any_bindingsOf_declare, h.any_bindingsOf, List.contains_cons, Bool.or_assoc, ← Bool.and_or_distrib_right,
    Bool.or_comm (names.contains n), Bool.beq_comm]

theorem gains_declare (s : Scope) (name : String) : s.Gains [name] (s.declare name .lexical) :=
  (Gains.refl s).cons name

theorem gains_foldr (s : Scope) (names : List String) :
    s.Gains names (names.foldr (fun name s => s.declare name .lexical) s) := by
  induction names with
  | nil => exact .refl s
  | cons name names ih => exact ih.cons name

theorem Gains.contains_var (h : s.Gains names s') :
    (s'.bindingsOf n).contains .var = (s.bindingsOf n).contains .var := by
  have other : (Binding.var == Binding.lexical) = false := rfl
  rw [List.contains_eq_any_beq, List.contains_eq_any_beq, h.any_bindingsOf, other, Bool.and_false,
    Bool.or_false]

theorem Gains.declare (h : s.Gains names s') (n : String) (b : Binding) :
    (s.declare n b).Gains names (s'.declare n b) := by
  refine ⟨h.holdsVars, h.passed, fun m test => ?_⟩
  rw [any_bindingsOf_declare, any_bindingsOf_declare, h.any_bindingsOf, Bool.or_right_comm]

theorem Gains.pass (h : s.Gains names s') (n : String) :
    Gains names { s with passed := n :: s.passed } { s' with passed := n :: s'.passed } :=
  ⟨h.holdsVars, congrArg (n :: ·) h.passed, h.any_bindingsOf⟩

theorem clashes_lexical (b : Binding) : b.clashes .lexical = b.isValue := by
  cases b <;> rfl

theorem lexical_clashes (b : Binding) : Binding.clashes .lexical b = b.isValue := rfl

theorem Gains.clashes (h : s.Gains names s') :
    s'.clashes n b = (s.clashes n b || (names.contains n && b.isValue)) := by
  rw [Scope.clashes, h.any_bindingsOf, h.passed, clashes_lexical, Scope.clashes, Bool.or_right_comm]

def holds (s : Scope) (name : String) : Bool := s.clashes name .lexical

theorem holds_declare : (s.declare n b).holds name = (n == name && b.isValue || s.holds name) := by
  have passed : (s.declare n b).passed = s.passed := rfl
  rw [holds, holds, Scope.clashes, Scope.clashes, any_bindingsOf_declare, passed, lexical_clashes]
  ac_rfl

theorem holds_pass :
    holds { s with passed := n :: s.passed } name = (n == name || s.holds name) := by
  have var : Binding.clashes .lexical .var = true := rfl
  by_cases same : n = name
  · simp [holds, Scope.clashes, var, same]
  · have other : (n == name) = false := by simpa using same
    have other' : (name == n) = false := by simpa using Ne.symm same
    simp [holds, Scope.clashes, bindingsOf, var, other, Ne.symm same]

end Scope

namespace Check

/-- One scope, with so many scopes around it, declares these names as well in the second list. -/
inductive Gains (names : List String) (depth : Nat) : List Scope → List Scope → Prop
  | here {scope scope' : Scope} {outer : List Scope} :
    scope.Gains names scope' → outer.length = depth →
    Gains names depth (scope :: outer) (scope' :: outer)
  | inside (scope : Scope) {scopes scopes' : List Scope} :
    Gains names depth scopes scopes' → Gains names depth (scope :: scopes) (scope :: scopes')

/-- The scope with so many scopes around it has a value of this name. -/
def holds (name : String) (depth : Nat) : List Scope → Bool
  | [] => false
  | scope :: outer => if outer.length = depth then scope.holds name else holds name depth outer

variable {scopes scopes' t : List Scope} {scope : Scope} {n name : String}

theorem Gains.length (h : Gains names depth scopes scopes') :
    scopes'.length = scopes.length ∧ depth < scopes.length := by
  induction h with
  | here _ around => exact ⟨rfl, by simp [around]⟩
  | inside scope _ ih => exact ⟨by simp [ih.1], Nat.lt_succ_of_lt ih.2⟩

theorem gains_exists (names : List String) (h : depth < scopes.length) :
    ∃ scopes', Gains names depth scopes scopes' := by
  induction scopes with
  | nil => cases h
  | cons scope outer ih =>
    by_cases around : outer.length = depth
    · exact ⟨_, .here (scope.gains_foldr names) around⟩
    · obtain ⟨outer', gains⟩ := ih (by rw [List.length_cons] at h; omega)
      exact ⟨_, .inside scope gains⟩

theorem holds_inside (h : depth < scopes.length) :
    holds name depth (scope :: scopes) = holds name depth scopes := by
  rw [holds, if_neg (by omega)]

theorem holds_here (h : scopes.length = depth) :
    holds name depth (scope :: scopes) = scope.holds name := by
  rw [holds, if_pos h]

theorem Gains.tail (h : Gains names depth (scope :: scopes) scopes') (inner : depth < scopes.length) :
    ∃ outer, scopes' = scope :: outer ∧ Gains names depth scopes outer := by
  cases h with
  | here _ around => omega
  | inside _ gains => exact ⟨_, rfl, gains⟩

def kinds (scopes : List Scope) : List Bool := scopes.map (·.holdsVars)

theorem kinds_declareVar? (h : Scope.declareVar? n scopes = some t) : kinds t = kinds scopes := by
  induction scopes generalizing t with
  | nil =>
    obtain rfl := Option.some.inj h
    rfl
  | cons scope outer ih =>
    rw [Scope.declareVar?] at h
    split at h
    · cases h
    · split at h
      · obtain rfl := Option.some.inj h
        rfl
      · obtain ⟨outer', found, rfl⟩ := Option.map_eq_some_iff.mp h
        exact congrArg (scope.holdsVars :: ·) (ih found)

theorem length_eq_of_kinds (h : kinds t = kinds scopes) : t.length = scopes.length := by
  simpa [kinds] using congrArg List.length h

theorem declareVar?_length (h : Scope.declareVar? n scopes = some t) : t.length = scopes.length :=
  length_eq_of_kinds (kinds_declareVar? h)

theorem holds_declareVar? (h : Scope.declareVar? n scopes = some t) (held : holds name depth scopes = true) :
    holds name depth t = true := by
  induction scopes generalizing t with
  | nil =>
    obtain rfl := Option.some.inj h
    exact held
  | cons scope outer ih =>
    rw [Scope.declareVar?] at h
    split at h
    · cases h
    by_cases around : outer.length = depth
    · rw [holds_here around] at held
      split at h
      · obtain rfl := Option.some.inj h
        rw [holds_here around, Scope.holds_declare, held, Bool.or_true]
      · obtain ⟨outer', found, rfl⟩ := Option.map_eq_some_iff.mp h
        rw [holds_here ((declareVar?_length found).trans around), Scope.holds_pass, held, Bool.or_true]
    · rw [holds, if_neg around] at held
      split at h
      · obtain rfl := Option.some.inj h
        rwa [holds, if_neg around]
      · obtain ⟨outer', found, rfl⟩ := Option.map_eq_some_iff.mp h
        rw [holds, if_neg (by rwa [declareVar?_length found])]
        exact ih found held

/-- Where the scope has gained the name of the variable, it gets a value of that name. -/
theorem Gains.declareVar? (gains : Gains names depth scopes scopes')
    (h : Scope.declareVar? n scopes = some t) :
    (∃ t', Scope.declareVar? n scopes' = some t' ∧ Gains names depth t t' ∧
        ∀ m ∈ names, holds m depth t = holds m depth scopes) ∨
      Scope.declareVar? n scopes' = none ∧ n ∈ names ∧ holds n depth t = true := by
  induction gains generalizing t with
  | @here scope scope' outer gains around =>
    rw [Scope.declareVar?] at h
    rw [Scope.declareVar?, gains.any_bindingsOf, gains.holdsVars]
    split at h
    · cases h
    rename_i free
    cases same : names.contains n with
    | true =>
      refine .inr ⟨by simp [Scope.clashes_lexical, Binding.isValue], by simpa using same, ?_⟩
      split at h
      · obtain rfl := Option.some.inj h
        rw [holds_here around, Scope.holds_declare]
        simp [Binding.isValue]
      · obtain ⟨outer', found, rfl⟩ := Option.map_eq_some_iff.mp h
        rw [holds_here ((declareVar?_length found).trans around), Scope.holds_pass]
        simp
    | false =>
      have other : ∀ m ∈ names, (n == m) = false := fun m mem => by
        rw [beq_eq_false_iff_ne]
        rintro rfl
        simp [mem] at same
      rw [Bool.false_and, Bool.or_false, if_neg free]
      left
      split at h
      · rename_i stops
        obtain rfl := Option.some.inj h
        refine ⟨_, if_pos stops, .here (gains.declare n .var) around, fun m mem => ?_⟩
        rw [holds_here around, holds_here around, Scope.holds_declare, other m mem, Bool.false_and,
          Bool.false_or]
      · rename_i passes
        obtain ⟨outer', found, rfl⟩ := Option.map_eq_some_iff.mp h
        have around' := (declareVar?_length found).trans around
        refine ⟨_, (if_neg passes).trans (Option.map_eq_some_iff.mpr ⟨_, found, rfl⟩),
          ?_, fun m mem => ?_⟩
        · have pass := gains.pass n
          rw [gains.holdsVars] at pass
          exact .here pass around'
        rw [holds_here around', holds_here around, Scope.holds_pass, other m mem, Bool.false_or]
  | @inside scope outer outer' gains ih =>
    have inner := gains.length.2
    rw [Scope.declareVar?] at h ⊢
    split at h
    · cases h
    rename_i free
    rw [if_neg free]
    split at h
    · rename_i stops
      obtain rfl := Option.some.inj h
      refine .inl ⟨_, if_pos stops, .inside _ gains, fun m _ => ?_⟩
      rw [holds_inside inner, holds_inside inner]
    · rename_i passes
      obtain ⟨t, found, rfl⟩ := Option.map_eq_some_iff.mp h
      have inner' : depth < t.length := by rwa [declareVar?_length found]
      rw [if_neg passes, holds_inside inner']
      rcases ih found with ⟨t', found', gains', same⟩ | ⟨none, mem, clash⟩
      · refine .inl ⟨_, Option.map_eq_some_iff.mpr ⟨_, found', rfl⟩, .inside _ gains', fun m mem => ?_⟩
        rw [holds_inside inner', holds_inside inner, same m mem]
      · exact .inr ⟨by rw [none]; rfl, mem, clash⟩

variable {α β : Type} {c : Checked α} {f : α → Checked β}

/-- What a check keeps: the surroundings, the kinds of the scopes, and the values that one of them has. -/
structure Keeps (depth : Nat) (s t : State) : Prop where
  place : t.place = s.place
  kinds : kinds t.scopes = kinds s.scopes
  holds (name : String) : holds name depth s.scopes = true → holds name depth t.scopes = true

theorem Keeps.length {s t : State} (h : Keeps depth s t) : t.scopes.length = s.scopes.length :=
  length_eq_of_kinds h.kinds

theorem Keeps.trans {s t u : State} (h : Keeps depth s t) (h' : Keeps depth t u) : Keeps depth s u :=
  ⟨h'.place.trans h.place, h'.kinds.trans h.kinds, fun name held => h'.holds name (h.holds name held)⟩

theorem Keeps.refl (s : State) : Keeps depth s s := ⟨rfl, rfl, fun _ held => held⟩

/-- Where the second state declares these names as well, the check goes the same way, or it fails
because one of them is declared again. At least `floor` scopes are around. -/
def Follows (names : List String) (depth floor : Nat) (c : Checked α) : Prop :=
  ∀ s s' : State, floor ≤ s.scopes.length → Gains names depth s.scopes s'.scopes → s'.place = s.place →
    ∀ a t, c s = .ok a t → Keeps depth s t ∧
      ((∃ t', c s' = .ok a t' ∧ Gains names depth t.scopes t'.scopes ∧ t'.place = t.place ∧
          ∀ m ∈ names, holds m depth t.scopes = holds m depth s.scopes) ∨
        ∃ m ∈ names, (∃ u, c s' = .error (redeclared m) u) ∧ holds m depth t.scopes = true)

theorem bind_run (c : Checked α) (f : α → Checked β) (s : State) :
    (c >>= f) s = match c s with
      | .ok a t => f a t
      | .error message t => .error message t := by
  change EStateM.bind c f s = _
  unfold EStateM.bind
  cases c s <;> rfl

theorem get_run (f : State → Checked α) (s : State) : (get >>= f) s = f s s := rfl

def onTop (test : Scope → Bool) (b : Binding) (n : String) : Checked Unit := do
  let s ← get
  match s.scopes with
  | scope :: outer =>
    if test scope then throw (redeclared n)
    set { s with scopes := scope.declare n b :: outer }
  | [] => pure ()

theorem onTop_run (test : Scope → Bool) (b : Binding) (n : String) (place : Place) (scope : Scope)
    (outer : List Scope) : onTop test b n ⟨place, scope :: outer⟩ =
      if test scope then .error (redeclared n) ⟨place, scope :: outer⟩
      else .ok () ⟨place, scope.declare n b :: outer⟩ := by
  rw [onTop, get_run]
  dsimp only
  split <;> rfl

def declareVar (n : String) : Checked Unit := fun s =>
  match Scope.declareVar? n s.scopes with
  | some scopes => .ok () { s with scopes }
  | none => .error (redeclared n) s

theorem declare_eq (b : Binding) (n : String) : declare b n = (do
    checkWord n
    assignable n
    if b = .var then declareVar n else onTop (fun scope => scope.clashes n b) b n) := by
  refine congrArg (checkWord n >>= ·) (funext fun _ => congrArg (assignable n >>= ·) (funext fun _ => ?_))
  funext ⟨place, scopes⟩
  rw [get_run]
  by_cases var : b = .var
  · subst var
    rw [if_pos rfl, declareVar]
    cases found : Scope.declareVar? n scopes with
    | none => simp only [found]; rfl
    | some outer => simp only [found]; rfl
  · rw [if_neg var]
    cases b with
    | var => exact absurd rfl var
    | _ => cases scopes <;> rfl

theorem within_run (g : Place → Place) (c : Checked Unit) (s : State) :
    within g c s = match c { s with place := g s.place } with
      | .ok _ t => .ok () { t with place := s.place }
      | .error message t => .error message t := by
  change (c >>= fun _ => _) { s with place := g s.place } = _
  rw [bind_run]
  cases c { s with place := g s.place } <;> rfl

theorem inScope_run (scope : Scope) (c : Checked Unit) (s : State) :
    inScope scope c s = match c { s with scopes := scope :: s.scopes } with
      | .ok _ t => .ok () { t with scopes := t.scopes.drop 1 }
      | .error message t => .error message t := by
  change (c >>= fun _ => _) { s with scopes := scope :: s.scopes } = _
  rw [bind_run]
  cases c { s with scopes := scope :: s.scopes } <;> rfl

namespace Follows

theorem lower (h : Follows names depth (depth + 1) c) : Follows names depth floor c :=
  fun s s' _ gains => h s s' gains.length.2 gains

theorem pure (a : α) : Follows names depth floor (Pure.pure a : Checked α) := by
  intro s s' _ gains place b t ran
  cases ran
  exact ⟨.refl _, .inl ⟨s', rfl, gains, place, fun _ _ => rfl⟩⟩

theorem throw (message : String) : Follows names depth floor (MonadExcept.throw message : Checked α) := by
  intro s s' _ gains place b t ran
  cases ran

theorem bind (hc : Follows names depth floor c) (hf : ∀ a, Follows names depth floor (f a)) :
    Follows names depth floor (c >>= f) := by
  intro s s' enough gains place b u ran
  rw [bind_run] at ran ⊢
  cases first : c s with
  | error message t =>
    rw [first] at ran
    cases ran
  | ok a t =>
    rw [first] at ran
    obtain ⟨keeps, ⟨t', ran', gains', place', kept⟩ | ⟨m, mem, ⟨w, failed⟩, clash⟩⟩ :=
      hc s s' enough gains place a t first
    · have enough' : floor ≤ t.scopes.length := by rwa [keeps.length]
      obtain ⟨keeps', ⟨u', ran'', gains'', place'', kept'⟩ | next⟩ :=
        hf a t t' enough' gains' place' b u ran
      · rw [ran']
        exact ⟨keeps.trans keeps', .inl ⟨u', ran'', gains'', place'', fun m mem =>
          (kept' m mem).trans (kept m mem)⟩⟩
      · rw [ran']
        exact ⟨keeps.trans keeps', .inr next⟩
    · have deep : depth < t.scopes.length := by
        rw [keeps.length]
        exact gains.length.2
      obtain ⟨scopes', gains'⟩ := gains_exists names deep
      have enough' : floor ≤ t.scopes.length := by rwa [keeps.length]
      have keeps' := (hf a t { t with scopes := scopes' } enough' gains' rfl b u ran).1
      rw [failed]
      exact ⟨keeps.trans keeps', .inr ⟨m, mem, ⟨w, rfl⟩, keeps'.holds m clash⟩⟩

theorem place : Follows names depth floor place := by
  intro s s' _ gains same p t ran
  cases ran
  exact ⟨.refl _, .inl ⟨s', by rw [← same]; rfl, gains, same, fun _ _ => rfl⟩⟩

theorem ite {test : Prop} [Decidable test] {d : Checked α} (hc : Follows names depth floor c)
    (hd : Follows names depth floor d) : Follows names depth floor (if test then c else d) := by
  split
  · exact hc
  · exact hd

theorem step {test : Prop} [Decidable test] {d : Checked Unit} {k : Unit → Checked β}
    (hd : Follows names depth floor d) (hk : ∀ u, Follows names depth floor (k u)) :
    Follows names depth floor (if test then d >>= k else k ()) :=
  (hd.bind hk).ite (hk ())

theorem within {g : Place → Place} {c : Checked Unit} (h : Follows names depth floor c) :
    Follows names depth floor (within g c) := by
  intro s s' enough gains place u t ran
  rw [within_run] at ran ⊢
  cases first : c { s with place := g s.place } with
  | error message t =>
    rw [first] at ran
    cases ran
  | ok v t =>
    rw [first] at ran
    cases ran
    have placed : g s'.place = g s.place := congrArg g place
    obtain ⟨keeps, next⟩ :=
      h { s with place := g s.place } { s' with place := g s'.place } enough gains placed v t first
    refine ⟨⟨rfl, keeps.kinds, keeps.holds⟩, ?_⟩
    rcases next with ⟨t', ran', gains', -, kept⟩ | ⟨m, mem, ⟨w, failed⟩, clash⟩
    · rw [ran']
      exact .inl ⟨_, rfl, gains', place, kept⟩
    · rw [failed]
      exact .inr ⟨m, mem, ⟨w, rfl⟩, clash⟩

theorem inScope (scope : Scope) {c : Checked Unit} (h : Follows names depth (floor + 1) c) :
    Follows names depth floor (inScope scope c) := by
  intro s s' enough gains place u t ran
  rw [inScope_run] at ran ⊢
  cases first : c { s with scopes := scope :: s.scopes } with
  | error message t =>
    rw [first] at ran
    cases ran
  | ok v t =>
    rw [first] at ran
    cases ran
    obtain ⟨keeps, next⟩ := h { s with scopes := scope :: s.scopes }
      { s' with scopes := scope :: s'.scopes } (Nat.succ_le_succ enough) (.inside scope gains) place v t first
    obtain ⟨top, outer, split⟩ := List.exists_cons_of_length_eq_add_one keeps.length
    have inner : outer.length = s.scopes.length := by simpa [split] using keeps.length
    have deep : depth < outer.length := by
      rw [inner]
      exact gains.length.2
    have held (m : String) : holds m depth t.scopes = holds m depth (t.scopes.drop 1) := by
      rw [split, holds_inside deep, List.drop_one, List.tail_cons]
    have held' (m : String) : holds m depth (scope :: s.scopes) = holds m depth s.scopes :=
      holds_inside gains.length.2
    have kept : kinds outer = kinds s.scopes := by
      have same := congrArg List.tail keeps.kinds
      rwa [split] at same
    refine ⟨⟨keeps.place, by rwa [split], fun m before => ?_⟩, ?_⟩
    · rw [← held, keeps.holds m ((held' m).trans before)]
    rcases next with ⟨t', ran', gains', place', kept⟩ | ⟨m, mem, ⟨w, failed⟩, clash⟩
    · rw [split] at gains'
      obtain ⟨outer', split', below⟩ := gains'.tail deep
      rw [ran']
      refine .inl ⟨_, rfl, by simpa [split, split'] using below, place', fun m mem => ?_⟩
      rw [← held, kept m mem, held']
    · rw [failed]
      exact .inr ⟨m, mem, ⟨w, rfl⟩, (held m).symm.trans clash⟩

theorem each {g : α → Checked Unit} (h : ∀ a, Follows names depth floor (g a)) (as : List α) :
    Follows names depth floor (each g as) := by
  induction as with
  | nil => exact pure ()
  | cons a as ih => exact (h a).bind fun _ => ih

theorem eachOption {g : α → Checked Unit} (h : ∀ a, Follows names depth floor (g a)) (a : Option α) :
    Follows names depth floor (eachOption g a) := by
  cases a with
  | none => exact pure ()
  | some a => exact h a

theorem report (message : Option String) : Follows names depth floor (report message) := by
  cases message with
  | none => exact pure ()
  | some message => exact throw message

theorem checkWord (n : String) : Follows names depth floor (checkWord n) :=
  place.bind fun _ => (throw _).ite (pure ())

theorem assignable (n : String) : Follows names depth floor (assignable n) :=
  place.bind fun _ => (throw _).ite (pure ())

theorem checkTarget (fuel : Nat) (e : Expr) : Follows names depth floor (checkTarget fuel e) :=
  each assignable _

theorem keeps_declare (b : Binding) (n : String) (place : Place) (scope : Scope) (outer : List Scope) :
    Keeps depth ⟨place, scope :: outer⟩ ⟨place, scope.declare n b :: outer⟩ := by
  refine ⟨rfl, rfl, fun m held => ?_⟩
  by_cases around : outer.length = depth
  · rw [holds_here around] at held ⊢
    rw [Scope.holds_declare, held, Bool.or_true]
  · rw [Check.holds, if_neg around] at held ⊢
    exact held

/-- What stands against a declaration is the same with the additional ones, but for those of its own
name, and they stand against every value. -/
theorem onTop_follows {test : Scope → Bool} {b : Binding} {n : String}
    (gained : depth + 1 < floor ∨ ∀ scope scope' : Scope, scope.Gains names scope' →
      test scope = false → test scope' = (names.contains n && b.isValue)) :
    Follows names depth floor (onTop test b n) := by
  rintro ⟨place, scopes⟩ ⟨place', scopes'⟩ enough gains same u t ran
  dsimp only at enough gains same
  subst same
  cases gains with
  | @here scope scope' outer gains around =>
    have test' := gained.resolve_left (by
      rw [List.length_cons, around] at enough
      omega) scope scope' gains
    cases free : test scope with
    | true => simp [onTop_run, free] at ran
    | false =>
      obtain rfl : (⟨place', scope.declare n b :: outer⟩ : State) = t := by
        simpa [onTop_run, free] using ran
      refine ⟨keeps_declare b n place' scope outer, ?_⟩
      have now (m : String) : holds m depth (scope.declare n b :: outer) =
          (n == m && b.isValue || holds m depth (scope :: outer)) := by
        rw [holds_here around, holds_here around, Scope.holds_declare]
      have stands := test' free
      cases clash : names.contains n && b.isValue with
      | true =>
        rw [clash] at stands
        obtain ⟨mem, value⟩ := Bool.and_eq_true_iff.mp clash
        refine .inr ⟨n, by simpa using mem, ⟨⟨place', scope' :: outer⟩, by simp [onTop_run, stands]⟩, ?_⟩
        rw [now, value, beq_self_eq_true, Bool.and_self, Bool.true_or]
      | false =>
        rw [clash] at stands
        refine .inl ⟨⟨place', scope'.declare n b :: outer⟩, by simp [onTop_run, stands],
          .here (gains.declare n b) around, rfl, fun m mem => ?_⟩
        have apart : (n == m && b.isValue) = false := by
          by_cases eq : n = m
          · subst eq
            simpa [mem] using clash
          · simp [eq]
        rw [now, apart, Bool.false_or]
  | @inside scope outer outer' gains =>
    have deep := gains.length.2
    cases free : test scope with
    | true => simp [onTop_run, free] at ran
    | false =>
      obtain rfl : (⟨place', scope.declare n b :: outer⟩ : State) = t := by
        simpa [onTop_run, free] using ran
      refine ⟨keeps_declare b n place' scope outer, .inl ⟨⟨place', scope.declare n b :: outer'⟩,
        by simp [onTop_run, free], .inside _ gains, rfl, fun m _ => ?_⟩⟩
      rw [holds_inside deep, holds_inside deep]

theorem var (n : String) : Follows names depth floor (declareVar n) := by
  rintro ⟨place, scopes⟩ ⟨place', scopes'⟩ enough gains same u t ran
  dsimp only at enough gains same
  subst same
  cases found : Scope.declareVar? n scopes with
  | none => simp [declareVar, found] at ran
  | some outer =>
    obtain rfl : (⟨place', outer⟩ : State) = t := by simpa [declareVar, found] using ran
    refine ⟨⟨rfl, kinds_declareVar? found, fun m => holds_declareVar? found⟩, ?_⟩
    rcases gains.declareVar? found with ⟨outer', found', gains', kept⟩ | ⟨none, mem, clash⟩
    · exact .inl ⟨⟨place', outer'⟩, by simp [declareVar, found'], gains', rfl, kept⟩
    · exact .inr ⟨n, mem, ⟨⟨place', scopes'⟩, by simp [declareVar, none]⟩, clash⟩

theorem declare (b : Binding) (n : String) : Follows names depth floor (declare b n) := by
  rw [declare_eq]
  refine (checkWord n).bind fun _ => (assignable n).bind fun _ => ?_
  exact (var n).ite (onTop_follows (.inr fun scope scope' gains free => by
    rw [gains.clashes, free, Bool.false_or]))

theorem declareParam (isUnique : Bool) (n : String) :
    Follows names depth floor (declareParam isUnique n) := by
  have top : Follows names depth floor (onTop (fun scope => (scope.bindingsOf n).any (Binding.clashes .var) ||
      isUnique && (scope.bindingsOf n).contains .var) .var n) := by
    refine onTop_follows (.inr fun scope scope' gains free => ?_)
    rw [Bool.or_eq_false_iff] at free
    rw [gains.any_bindingsOf, gains.contains_var, free.1, free.2, Bool.or_false]
    rfl
  exact (checkWord n).bind fun _ => (assignable n).bind fun _ => top

theorem chains : Chains (m := Checked) fun _ c => Follows names depth floor c := ⟨pure, bind⟩

theorem checkPrivate (n : String) : Follows names depth floor (checkPrivate n) :=
  place.bind fun _ => step (throw _) fun _ => (throw _).ite (pure _)

theorem checkNumber (raw : String) : Follows names depth floor (checkNumber raw) := by
  unfold Check.checkNumber
  split
  · exact ((throw _).ite (throw _)).ite (pure _)
  · exact pure _

theorem checkJump (isBreak : Bool) (label : Option String) :
    Follows names depth floor (checkJump isBreak label) := by
  refine place.bind fun p => ?_
  split
  · exact ((throw _).ite (pure _)).ite ((throw _).ite (pure _))
  · split
    · exact (throw _).ite (pure _)
    · exact (throw _).ite (throw _)

theorem checkHead (isIn : Bool) (left : Stmt) : Follows names depth floor (checkHead isIn left) := by
  unfold Check.checkHead
  dsimp only
  split
  · refine place.bind fun _ => step (throw _) fun _ => ?_
    split
    · exact throw _
    · exact pure _
  · exact throw _
  · exact pure _

/-- What a handler binds is declared in a scope of its own, inside of the one that declares more. -/
theorem caught (b : Binding) (n : String) : Follows names depth (depth + 2) (do
    Check.checkWord n
    Check.assignable n
    let s ← get
    match s.scopes with
    | scope :: outer =>
      if b == .lexical && scope.clashes n b then MonadExcept.throw (redeclared n)
      set { s with scopes := scope.declare n b :: outer }
    | [] => Pure.pure () : Checked Unit) := by
  have top : Follows names depth (depth + 2) (onTop (fun scope => b == .lexical && scope.clashes n b) b n) :=
    onTop_follows (.inl (Nat.lt_succ_self _))
  exact (checkWord n).bind fun _ => (assignable n).bind fun _ => top

section Rules

variable {self : Meet} (h : ∀ floor task, Follows names depth floor (self task)) (fuel : Nat)

include h

theorem below (e : Expr) : Follows names depth floor (below self e) :=
  (chains.descend_expr (fun e => (h _ (.expr e)).bind fun _ => pure _)
    (fun s => (h _ (.stmt s)).bind fun _ => pure _) (fun _ => pure _) e).bind fun _ => pure _

theorem checkSignature (kind : FunctionKind) (params : List Expr) :
    Follows names depth floor (checkSignature self kind params) :=
  (each (fun p => h _ (.expr p)) params).bind fun _ => report _

theorem checkFunction (kind : FunctionKind) (n : Option String) (params : List Expr)
    (body : List Stmt) : Follows names depth floor (checkFunction self fuel kind n params body) := by
  refine place.bind fun outer => within ?_
  refine (eachOption (fun n => (checkWord n).bind fun _ => assignable n) n).bind fun _ => inScope _ ?_
  refine (each (fun p => (each (declareParam _) _).bind fun _ => within (h _ _)) params).bind fun _ => ?_
  exact (report _).bind fun _ => step (throw _) fun _ => h _ _

theorem checkMember (isAmbient : Bool) (m : Expr) :
    Follows names depth floor (checkMember self fuel isAmbient m) := by
  have decorated (ds : List Expr) : Follows names depth floor (Check.each (fun d => self (.expr d)) ds) :=
    each (fun d => h _ _) ds
  unfold Check.checkMember
  split
  · refine (decorated _).bind fun _ => step (h _ _) fun _ => ?_
    dsimp only
    split
    · exact (checkFunction h fuel _ _ _ _).bind fun _ => report _
    · exact (checkSignature h _ _).bind fun _ => report _
    · exact report _
  · exact (decorated _).bind fun _ => step (h _ _) fun _ =>
      (within (eachOption (fun v => h _ _) _)).bind fun _ => report _
  · exact within (inScope _ (h _ _))
  · exact pure _

theorem checkClass (ds : List Expr) (isDeclare isAbstract : Bool) (n : Option String)
    (parent : Option Expr) (members : List Expr) :
    Follows names depth floor (checkClass self fuel ds isDeclare isAbstract n parent members) := by
  refine (each (fun d => h _ _) ds).bind fun _ => within ?_
  refine (eachOption (fun n => (checkWord n).bind fun _ => assignable n) n).bind fun _ => ?_
  refine place.bind fun p => (within ?_).bind fun _ => report _
  refine (eachOption (fun e => h _ _) parent).bind fun _ => ?_
  dsimp only
  split
  · exact (throw _).bind fun _ => (each (checkMember h fuel _) members).bind fun _ =>
      (throw _).ite (pure _)
  · exact (pure _).bind fun _ => (each (checkMember h fuel _) members).bind fun _ =>
      (throw _).ite (pure _)

theorem exprRule (e : Expr) : Follows names depth floor (exprRule self fuel e) := by
  have below (e : Expr) : Follows names depth floor (Check.below self e) := below h e
  unfold Check.exprRule
  split
  case h_1 =>
    refine (checkWord _).bind fun _ => ?_
    split
    · refine place.bind fun p => ?_
      split
      · exact throw _
      · exact pure _
    · exact pure _
  case h_2 => exact checkPrivate _
  case h_3 =>
    exact (below _).bind fun _ => place.bind fun _ => step (throw _) fun _ => place.bind fun _ =>
      (throw _).ite (pure _)
  case h_4 =>
    exact (below _).bind fun _ => place.bind fun _ => (throw _).ite (pure _)
  case h_5 => exact place.bind fun _ => (checkNumber _).ite (pure _)
  case h_6 => exact place.bind fun _ => (report _).ite (pure _)
  case h_7 => exact checkFunction h fuel _ _ _ _
  case h_8 => exact checkSignature h _ _
  case h_9 =>
    split
    · exact checkFunction h fuel _ _ _ _
    · exact checkFunction h fuel _ _ _ _
  case h_10 => exact checkClass h fuel _ _ _ _ _ _
  case h_11 =>
    refine step (h _ _) fun _ => ?_
    split
    · exact checkFunction h fuel _ _ _ _
    · exact pure _
  case h_12 => exact (below _).bind fun _ => (throw _).ite (pure _)
  case h_13 => exact (below _).bind fun _ => checkTarget _ _
  case h_14 => exact (below _).bind fun _ => checkTarget _ _
  case h_15 =>
    refine (below _).bind fun _ => ?_
    split
    · exact place.bind fun _ => (throw _).ite (pure _)
    · exact throw _
    · exact pure _
  case h_16 =>
    refine (below _).bind fun _ => ?_
    split
    · exact throw _
    · exact checkPrivate _
  case h_17 =>
    exact place.bind fun _ => step (throw _) fun _ => step (throw _) fun _ => each (fun a => h _ _) _
  case h_18 => exact place.bind fun _ => (throw _).ite (pure _)
  case h_19 => exact place.bind fun _ => (throw _).ite (pure _)
  case h_20 => exact below _

theorem checkBody (allowsFunction : Bool) (s : Stmt) :
    Follows names depth floor (checkBody self allowsFunction s) := by
  refine (h _ _).bind fun _ => ite ?_ (pure _)
  split
  · exact place.bind fun _ => (throw _).ite (pure _)
  · exact throw _

theorem loopBody (s : Stmt) : Follows names depth floor (loopBody self s) :=
  within (checkBody h _ _)

theorem spaceBody (isDeclare : Bool) (body : List Stmt) :
    Follows names depth floor (spaceBody self isDeclare body) :=
  place.bind fun _ => (within (inScope _ (h _ _))).bind fun _ => (throw _).ite (pure _)

theorem nestedRule (s : Stmt) : Follows names depth floor (nestedRule self fuel s) := by
  unfold Check.nestedRule
  dsimp only
  split
  case h_1 => exact inScope _ (h _ _)
  case h_2 =>
    refine each (fun d => ?_) _
    exact step (throw _) fun _ => (each (declare _) _).bind fun _ => h _ _
  case h_3 => exact (declare _ _).bind fun _ => h _ _
  case h_4 => exact (declare _ _).bind fun _ => h _ _
  case h_5 =>
    exact (h _ _).bind fun _ => (checkBody h _ _).bind fun _ => eachOption (fun s => checkBody h _ s) _
  case h_6 =>
    exact inScope _ ((eachOption (fun s => h _ _) _).bind fun _ => (eachOption (fun e => h _ _) _).bind
      fun _ => (eachOption (fun e => h _ _) _).bind fun _ => loopBody h _)
  case h_7 =>
    exact inScope _ ((h _ _).bind fun _ => (h _ _).bind fun _ => (loopBody h _).bind fun _ =>
      checkHead _ _)
  case h_8 =>
    exact inScope _ ((h _ _).bind fun _ => (h _ _).bind fun _ => (loopBody h _).bind fun _ =>
      checkHead _ _)
  case h_9 => exact (h _ _).bind fun _ => loopBody h _
  case h_10 => exact (loopBody h _).bind fun _ => h _ _
  case h_11 => exact checkJump _ _
  case h_12 => exact checkJump _ _
  case h_13 =>
    exact place.bind fun _ => step (throw _) fun _ => (h _ _).bind fun _ => checkBody h _ _
  case h_14 =>
    exact (h _ _).bind fun _ => (within (inScope _ (each (fun c => h _ _) _))).bind fun _ =>
      (throw _).ite (pure _)
  case h_15 =>
    refine place.bind fun _ => step (throw _) fun _ => within ((h _ _).bind fun _ => place.bind fun _ =>
      ite ?_ (pure _))
    split
    · exact throw _
    · exact pure _
  case h_16 =>
    refine lower ((inScope _ (h _ _)).bind fun _ => (eachOption (fun handler => ?_) _).bind fun _ =>
      eachOption (fun body => inScope _ (h _ _)) _)
    refine inScope _ ((eachOption (fun p => ?_) _).bind fun _ => h _ _)
    exact (each (fun n => caught _ n) _).bind fun _ => h _ _
  case h_17 => exact each (declare _) _
  case h_18 => exact declare _ _
  case h_19 => exact (declare _ _).bind fun _ => report _
  case h_20 => exact (declare _ _).bind fun _ => report _
  case h_21 => exact (declare _ _).bind fun _ => (each (fun e => h _ _) _).bind fun _ => report _
  case h_22 => exact place.bind fun _ => (report _).ite (pure _)
  case h_23 => exact step (declare _ _) fun _ => spaceBody h _ _
  case h_24 => exact spaceBody h _ _
  case h_25 =>
    exact (chains.descend_stmt (fun e => (h _ (.expr e)).bind fun _ => pure _)
      (fun s => (h _ (.stmt s)).bind fun _ => pure _) (fun _ => pure _) _).bind fun _ => pure _

theorem stmtRule (s : Stmt) : Follows names depth floor (stmtRule self fuel s) := by
  unfold Check.stmtRule
  split
  · exact nestedRule h fuel _
  · exact nestedRule h fuel _
  · exact nestedRule h fuel _
  · exact within (nestedRule h fuel _)

theorem rule (task : Task) : Follows names depth floor (rule self fuel task) := by
  cases task with
  | expr e => exact exprRule h fuel e
  | stmt s => exact stmtRule h fuel s
  | list body => exact each (fun s => h _ _) body

end Rules

theorem meet (fuel : Nat) (task : Task) : Follows names depth floor (meet fuel task) := by
  induction fuel generalizing floor task with
  | zero => exact pure ()
  | succ fuel ih => exact rule (fun floor task => ih task) fuel task

end Follows

end Check

end PagePreview.Script
