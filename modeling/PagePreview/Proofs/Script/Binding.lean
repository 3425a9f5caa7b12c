import PagePreview.Proofs.Script.Weakening

/-!
# A name bound in the last block

A unit ends in a block, and somewhere in that block a `const` binds a name to a value. If the unit
passes the check with the bare value in place of the binding, then with the binding it passes as
well, unless something else in the block has a value of that name: then the check says that the name
has already been declared, whatever stands first.
-/

namespace PagePreview.Script

def Bindable (name : String) : Prop :=
  name ∉ strictWords ∧ name ≠ "eval" ∧ name ≠ "arguments"

instance (name : String) : Decidable (Bindable name) :=
  inferInstanceAs (Decidable (_ ∧ _ ∧ _))

namespace Check

variable {name : String} {depth : Nat} {s t : State}

theorem meet_append (fuel : Nat) (as bs : List Stmt) : meet (fuel + 1) (.list (as ++ bs)) =
    (meet (fuel + 1) (.list as) >>= fun _ => meet (fuel + 1) (.list bs)) := by
  change each _ _ = (each _ _ >>= fun _ => each _ _)
  induction as with
  | nil => rw [List.nil_append, each, pure_bind]
  | cons a as ih => rw [List.cons_append, each, ih, each, bind_assoc]

theorem meet_cons (fuel : Nat) (a : Stmt) (as : List Stmt) : meet (fuel + 1) (.list (a :: as)) =
    (meet fuel (.stmt a) >>= fun _ => meet (fuel + 1) (.list as)) := rfl

theorem meet_nil (fuel : Nat) : meet (fuel + 1) (.list []) = pure () := rfl

def nested (p : Place) : Place := { p with atTop := false }

theorem meet_block (fuel : Nat) (body : List Stmt) :
    meet (fuel + 1) (.stmt (.block body)) = within nested (inScope {} (meet fuel (.list body))) := rfl

theorem meet_commented (fuel : Nat) (comments : List Comment) (a : Stmt) :
    meet (fuel + 1) (.stmt (.commented comments a)) = meet fuel (.stmt a) := by
  change ((Stmt.commented comments a).descend
    { expr := fun e => do meet fuel (.expr e); return e
      stmt := fun s => do meet fuel (.stmt s); return s } >>= fun _ => pure ()) = _
  simp [Stmt.descend]

theorem below_eq (fuel : Nat) (e : Expr) : below (meet fuel) e = (e.descend
    { expr := fun e => do meet fuel (.expr e); return e
      stmt := fun s => do meet fuel (.stmt s); return s } >>= fun _ => pure ()) := rfl

theorem meet_paren (fuel : Nat) (value : Expr) :
    meet (fuel + 1) (.expr (.paren value)) = meet fuel (.expr value) := by
  change below (meet fuel) _ = _
  simp [below_eq, Expr.descend]

theorem meet_value (fuel : Nat) (value : Expr) : meet (fuel + 2) (.stmt (.expression (.paren value))) =
    within nested (meet fuel (.expr value)) := by
  change within nested ((Stmt.expression (.paren value)).descend
    { expr := fun e => do meet (fuel + 1) (.expr e); return e
      stmt := fun s => do meet (fuel + 1) (.stmt s); return s } >>= fun _ => pure ()) = _
  simp [Stmt.descend, meet_paren]

theorem meet_declarator (fuel : Nat) (value : Expr) :
    meet (fuel + 1) (.expr (.declarator (.identifier name) (some value))) =
      (meet fuel (.expr (.identifier name)) >>= fun _ => meet fuel (.expr value)) := by
  change below (meet fuel) _ = _
  simp [below_eq, Expr.descend, Visit.expr?, Visit.option]

theorem checkWord_eq (bindable : Bindable name) : checkWord name = pure () := by
  have free : strictWords.contains name = false := by simpa using bindable.1
  funext s
  change (if s.place.strict && strictWords.contains name then _ else _ : Checked Unit) s = _
  rw [free, Bool.and_false]
  rfl

theorem assignable_eq (bindable : Bindable name) : assignable name = pure () := by
  have other : (name == "eval" || name == "arguments") = false := by simpa using bindable.2
  funext s
  change (if s.place.strict && (name == "eval" || name == "arguments") then _ else _ : Checked Unit) s = _
  rw [other, Bool.and_false]
  rfl

theorem meet_identifier (bindable : Bindable name) (fuel : Nat) :
    meet fuel (.expr (.identifier name)) = pure () := by
  cases fuel with
  | zero => rfl
  | succ fuel =>
    have other : (name == "arguments") = false := by simpa using bindable.2.2
    change (checkWord name >>= fun _ => if name == "arguments" then _ else _) = _
    rw [checkWord_eq bindable, other]
    rfl

def const (name : String) (value : Expr) : Stmt :=
  .vars false .const [.declarator (.identifier name) (some value)]

theorem meet_const (bindable : Bindable name) (fuel : Nat) (value : Expr) :
    meet (fuel + 3) (.stmt (const name value)) = within nested
      (onTop (Scope.holds · name) .lexical name >>= fun _ => meet (fuel + 1) (.expr value)) := by
  have other : "let" ≠ name := by
    rintro rfl
    exact bindable.1 (by simp [strictWords])
  have declares : declare .lexical name = onTop (Scope.holds · name) .lexical name := by
    rw [declare_eq, checkWord_eq bindable, assignable_eq bindable]
    rfl
  change within nested (each (fun d => do
    let names := boundNames (fuel + 2) d
    if VariableKind.const != .var && names.contains "let" then
      throw ("\x60let\x60 cannot be declared as a variable name inside of a \x60" ++ VariableKind.const.text ++
        "\x60 declaration")
    each (declare .lexical) names
    meet (fuel + 2) (.expr d)) [.declarator (.identifier name) (some value)]) = _
  simp [each, boundNames, other, declares, meet_declarator, meet_identifier bindable]

/-- A declaration in the scope on top takes place in other surroundings all the same. -/
theorem within_onTop {test : Scope → Bool} {b : Binding} {g : Place → Place} {c : Checked Unit}
    {place : Place} {scope : Scope} {outer : List Scope} :
    within g (onTop test b name >>= fun _ => c) ⟨place, scope :: outer⟩ =
      if test scope then .error (redeclared name) ⟨g place, scope :: outer⟩
      else within g c ⟨place, scope.declare name b :: outer⟩ := by
  rw [within_run, within_run, bind_run, onTop_run]
  cases test scope <;> rfl

def complains? (c : Checked Unit) (s : State) : Option String :=
  match c s with
  | .ok _ _ => none
  | .error message _ => some message

theorem complaint?_eq (p : Program) : complaint? p =
    complains? (meet p.depth (.list p.body)) { place := { strict := hasStrictDirective p.body } } := rfl

theorem complains_eq_none {c : Checked Unit} : complains? c s = none ↔ ∃ t, c s = .ok () t := by
  unfold complains?
  cases c s <;> simp

theorem complains_bind {c d : Checked Unit} (ran : c s = .ok () t) :
    complains? (c >>= fun _ => d) s = complains? d t := by
  rw [complains?, bind_run, ran, complains?]

theorem complains_within (g : Place → Place) (c : Checked Unit) (s : State) :
    complains? (within g c) s = complains? c { s with place := g s.place } := by
  rw [complains?, within_run, complains?]
  cases c { s with place := g s.place } <;> rfl

theorem complains_inScope (scope : Scope) (c : Checked Unit) (s : State) :
    complains? (inScope scope c) s = complains? c { s with scopes := scope :: s.scopes } := by
  rw [complains?, inScope_run, complains?]
  cases c { s with scopes := scope :: s.scopes } <;> rfl

theorem Follows.keeps {names : List String} {c : Checked Unit} (h : Follows names depth 0 c)
    (inner : depth < s.scopes.length) (ran : c s = .ok () t) : Keeps depth s t := by
  obtain ⟨scopes', gains⟩ := gains_exists names inner
  exact (h s ⟨s.place, scopes'⟩ (Nat.zero_le _) gains rfl () t ran).1

theorem meet_length {fuel : Nat} {task : Task} (ran : meet fuel task s = .ok () t)
    (some : s.scopes ≠ []) : t.scopes.length = s.scopes.length := by
  have follows : Follows [] 0 0 (meet fuel task) := .meet fuel task
  exact (follows.keeps (List.length_pos_iff.mpr some) ran).length

/-- Where it passes, in scopes of these kinds, the one with `depth` scopes around it has a value of the
name. -/
def Leaves (fits : List Bool → Prop) (name : String) (depth : Nat) (c : Checked Unit) : Prop :=
  ∀ s t, fits (kinds s.scopes) → depth < s.scopes.length → c s = .ok () t →
    Keeps depth s t ∧ holds name depth t.scopes = true

def isTop (depth : Nat) (ks : List Bool) : Prop := ks.length = depth + 1

namespace Leaves

variable {fits : List Bool → Prop} {c : Checked Unit} {f : Unit → Checked Unit}

theorem bind (hc : Leaves fits name depth c) (hf : ∀ a, Follows [name] depth 0 (f a)) :
    Leaves fits name depth (c >>= f) := by
  intro s u fit inner ran
  rw [bind_run] at ran
  cases first : c s with
  | error message t =>
    rw [first] at ran
    cases ran
  | ok a t =>
    rw [first] at ran
    obtain ⟨keeps, held⟩ := hc s t fit inner first
    have keeps' := (hf a).keeps (by rwa [keeps.length]) ran
    exact ⟨keeps.trans keeps', keeps'.holds name held⟩

theorem after (hc : Follows [name] depth 0 c) (hf : ∀ a, Leaves fits name depth (f a)) :
    Leaves fits name depth (c >>= f) := by
  intro s u fit inner ran
  rw [bind_run] at ran
  cases first : c s with
  | error message t =>
    rw [first] at ran
    cases ran
  | ok a t =>
    rw [first] at ran
    have keeps := hc.keeps inner first
    obtain ⟨keeps', held⟩ := hf a t u (by rwa [keeps.kinds]) (by rwa [keeps.length]) ran
    exact ⟨keeps.trans keeps', held⟩

theorem within {g : Place → Place} (hc : Leaves fits name depth c) :
    Leaves fits name depth (within g c) := by
  intro s u fit inner ran
  rw [within_run] at ran
  cases first : c { s with place := g s.place } with
  | error message t =>
    rw [first] at ran
    cases ran
  | ok a t =>
    rw [first] at ran
    cases ran
    obtain ⟨keeps, held⟩ := hc { s with place := g s.place } t fit inner first
    exact ⟨⟨rfl, keeps.kinds, keeps.holds⟩, held⟩

theorem each {α : Type} {g : α → Checked Unit} (follows : ∀ a, Follows [name] depth 0 (g a)) {a : α}
    {as : List α} (mem : a ∈ as) (leaves : Leaves fits name depth (g a)) :
    Leaves fits name depth (each g as) := by
  induction as with
  | nil => cases mem
  | cons b bs ih =>
    rcases List.mem_cons.mp mem with rfl | later
    · exact leaves.bind fun _ => Follows.each follows bs
    · exact after (follows b) fun _ => ih later

theorem vars {isDeclare : Bool} {kind : VariableKind} {ds : List Expr} {value : Option Expr}
    (mem : Expr.declarator (.identifier name) value ∈ ds)
    (declares : Leaves fits name depth (declare (kindBinding kind) name)) (fuel : Nat) :
    Leaves fits name depth (meet (fuel + 3) (.stmt (.vars isDeclare kind ds))) := by
  change Leaves fits name depth (Check.within nested (Check.each _ ds))
  refine (each (fun d => ?_) mem ?_).within
  · exact Follows.step (.throw _) fun _ =>
      (Follows.each (Follows.declare _) _).bind fun _ => Follows.meet _ _
  · have names : boundNames (fuel + 2) (.declarator (.identifier name) value) = [name] := rfl
    have leaves : Leaves fits name depth (Check.each (Check.declare (kindBinding kind)) [name]) :=
      declares.bind fun _ => .pure ()
    dsimp only
    rw [names]
    split
    · exact after (.throw _) fun _ => leaves.bind fun _ => .meet _ _
    · exact leaves.bind fun _ => .meet _ _

theorem onTop {test : Scope → Bool} {b : Binding} (value : b.isValue) :
    Leaves (isTop depth) name depth (onTop test b name) := by
  rintro ⟨place, scopes⟩ t fit inner ran
  obtain ⟨scope, outer, rfl⟩ := List.exists_cons_of_length_pos (Nat.zero_lt_of_lt inner)
  have around : outer.length = depth := by simpa [isTop, kinds] using fit
  rw [onTop_run] at ran
  split at ran
  · cases ran
  · cases ran
    refine ⟨Follows.keeps_declare b name place scope outer, ?_⟩
    rw [holds_here around, Scope.holds_declare]
    simp [value]

theorem declareVar : Leaves (isTop depth) name depth (declareVar name) := by
  rintro ⟨place, scopes⟩ t fit inner ran
  have follows : Follows [] depth 0 (Check.declareVar name) := .var name
  refine ⟨follows.keeps inner ran, ?_⟩
  obtain ⟨scope, outer, rfl⟩ := List.exists_cons_of_length_pos (Nat.zero_lt_of_lt inner)
  have around : outer.length = depth := by simpa [isTop, kinds] using fit
  cases found : Scope.declareVar? name (scope :: outer) with
  | none => simp [Check.declareVar, found] at ran
  | some scopes' =>
    obtain rfl : (⟨place, scopes'⟩ : State) = t := by simpa [Check.declareVar, found] using ran
    rw [Scope.declareVar?] at found
    split at found
    · cases found
    · split at found
      · obtain rfl := Option.some.inj found
        rw [holds_here around, Scope.holds_declare]
        simp [Binding.isValue]
      · obtain ⟨outer', passed, rfl⟩ := Option.map_eq_some_iff.mp found
        rw [holds_here ((declareVar?_length passed).trans around), Scope.holds_pass]
        simp

/-- A variable that is declared with `var` leaves a block for the function around it. -/
theorem hoisted : Leaves (· = [false, true]) name 0 (Check.declareVar name) := by
  rintro ⟨place, scopes⟩ t fit inner ran
  have follows : Follows [] 0 0 (Check.declareVar name) := .var name
  refine ⟨follows.keeps inner ran, ?_⟩
  obtain ⟨block, body, rfl⟩ := List.length_eq_two.mp (by simpa [kinds] using congrArg List.length fit)
  obtain ⟨through, stops⟩ : block.holdsVars = false ∧ body.holdsVars = true := by simpa [kinds] using fit
  cases found : Scope.declareVar? name [block, body] with
  | none => simp [Check.declareVar, found] at ran
  | some scopes' =>
    obtain rfl : (⟨place, scopes'⟩ : State) = t := by simpa [Check.declareVar, found] using ran
    simp only [Scope.declareVar?, through, stops, Bool.false_eq_true, if_false, if_true,
      Option.ite_none_left_eq_some, Option.map_eq_some_iff, Option.some.injEq] at found
    obtain ⟨-, outer, ⟨-, rfl⟩, rfl⟩ := found
    have around : ([] : List Scope).length = 0 := rfl
    rw [holds_inside Nat.zero_lt_one, holds_here around, Scope.holds_declare]
    simp [Binding.isValue]

theorem declare {b : Binding} (leaves : Leaves fits name depth (if b = .var then Check.declareVar name
      else Check.onTop (fun scope => scope.clashes name b) b name)) :
    Leaves fits name depth (declare b name) := by
  rw [declare_eq]
  exact after (.checkWord name) fun _ => after (.assignable name) fun _ => leaves

theorem declare_value {b : Binding} (value : b.isValue) :
    Leaves (isTop depth) name depth (Check.declare b name) := by
  refine declare ?_
  split
  · exact declareVar
  · exact onTop value

end Leaves

/-- The statement declares the name as a value of its own. -/
inductive DeclaresValue (name : String) : Stmt → Prop
  | vars {isDeclare kind ds value} : Expr.declarator (.identifier name) value ∈ ds →
    DeclaresValue name (.vars isDeclare kind ds)
  | function {isAsync isGenerator isDeclare tps params result body} : DeclaresValue name
    (.declaration (.function (some name) isAsync isGenerator isDeclare tps params result body))
  | class {ds isDeclare isAbstract tps parent pargs implements members} : DeclaresValue name
    (.declaration (.class ds isDeclare isAbstract (some name) tps parent pargs implements members))
  | enum {isDeclare isConst members} : DeclaresValue name (.enum isDeclare isConst name members)

theorem DeclaresValue.leaves {a : Stmt} (declares : DeclaresValue name a) (fuel : Nat) :
    Leaves (isTop depth) name depth (meet (fuel + 3) (.stmt a)) := by
  cases declares with
  | @vars isDeclare kind ds value mem =>
    exact Leaves.vars mem (Leaves.declare_value (by cases kind <;> rfl)) fuel
  | function =>
    change Leaves (isTop depth) name depth (Check.within nested (declare .function name >>= fun _ => _))
    exact ((Leaves.declare_value rfl).bind fun _ => .meet _ _).within
  | «class» =>
    change Leaves (isTop depth) name depth (Check.within nested (declare .classDef name >>= fun _ => _))
    exact ((Leaves.declare_value rfl).bind fun _ => .meet _ _).within
  | @enum isDeclare isConst members =>
    change Leaves (isTop depth) name depth (Check.within nested (declare (if isConst then _ else _) name >>= fun _ => _))
    refine (Leaves.bind (Leaves.declare_value ?_) fun _ => ?_).within
    · cases isConst <;> rfl
    · exact (Follows.each (fun e => .meet _ _) members).bind fun _ => .report _

theorem Leaves.uncommented {fits : List Bool → Prop} {a : Stmt}
    (leaves : ∀ fuel, Leaves fits name depth (meet (fuel + 3) (.stmt a.uncommented))) (fuel : Nat) :
    Leaves fits name depth (meet (fuel + 4) (.stmt a)) := by
  cases a with
  | commented comments a =>
    rw [meet_commented]
    exact leaves fuel
  | _ => exact leaves (fuel + 1)

theorem meet_const_run (bindable : Bindable name) (fuel : Nat) (value : Expr) (place : Place)
    (scope : Scope) (outer : List Scope) :
    meet (fuel + 3) (.stmt (const name value)) ⟨place, scope :: outer⟩ =
      if scope.holds name then .error (redeclared name) ⟨nested place, scope :: outer⟩
      else meet (fuel + 3) (.stmt (.expression (.paren value)))
        ⟨place, scope.declare name .lexical :: outer⟩ := by
  rw [meet_const bindable, within_onTop, ← meet_value]

def behind (comments : List Comment) (a : Stmt) : Stmt :=
  if comments.isEmpty then a else .commented comments a

theorem meet_behind_run (bindable : Bindable name) (comments : List Comment) (fuel : Nat)
    (value : Expr) (place : Place) (scope : Scope) (outer : List Scope) :
    ∃ u, meet (fuel + 4) (.stmt (behind comments (const name value))) ⟨place, scope :: outer⟩ =
      if scope.holds name then .error (redeclared name) u
      else meet (fuel + 4) (.stmt (behind comments (.expression (.paren value))))
        ⟨place, scope.declare name .lexical :: outer⟩ := by
  refine ⟨⟨nested place, scope :: outer⟩, ?_⟩
  unfold behind
  split
  · exact meet_const_run bindable (fuel + 1) value place scope outer
  · rw [meet_commented, meet_commented]
    exact meet_const_run bindable fuel value place scope outer

end Check

open Check

/-- A unit that ends in a block, and a place in that block where a name is bound to a value. -/
structure Bound where
  outer : List Stmt
  before : List Stmt
  comments : List Comment := []
  name : String
  value : Expr
  after : List Stmt

namespace Bound

def block (u : Bound) (a : Stmt) : List Stmt := u.before ++ behind u.comments a :: u.after

def body (u : Bound) : List Stmt := u.outer ++ [.block (u.block (const u.name u.value))]

def rest (u : Bound) : List Stmt := u.block (.expression (.paren u.value))

def unbound (u : Bound) : List Stmt := u.outer ++ [.block u.rest]

/-- Whether the block without the binding has a value of its name already. -/
def isTaken (u : Bound) (depth : Nat) : Bool :=
  match meet depth (.list u.outer) { place := { strict := hasStrictDirective u.outer } } with
  | .ok _ s =>
    match meet (depth - 2) (.list u.rest) ⟨nested s.place, {} :: s.scopes⟩ with
    | .ok _ t => t.scopes.head?.any (·.holds u.name)
    | .error .. => false
  | .error .. => false

variable {u : Bound} {s t : State}

theorem hasStrictDirective_block (outer body : List Stmt) :
    hasStrictDirective (outer ++ [.block body]) = hasStrictDirective outer := by
  have stops : isDirective (.block body) = false := rfl
  unfold hasStrictDirective
  induction outer with
  | nil => rfl
  | cons a outer ih =>
    rw [List.cons_append, List.takeWhile_cons, List.takeWhile_cons]
    split
    · rw [List.any_cons, List.any_cons, ih]
    · rfl

theorem holds_two {name : String} (top bottom : Scope) :
    Check.holds name 1 [top, bottom] = top.holds name := holds_here rfl

/-- Where the check of the block passes without the binding, with it the check depends on whether the
name is taken, and on nothing else. -/
theorem block_run (bindable : Bindable u.name) (fuel : Nat) (two : s.scopes.length = 2)
    (ran : meet (fuel + 5) (.list u.rest) s = .ok () t) :
    complains? (meet (fuel + 5) (.list (u.block (const u.name u.value)))) s =
      if t.scopes.head?.any (·.holds u.name) then some (redeclared u.name) else none := by
  rw [block, meet_append, meet_cons]
  rw [rest, block, meet_append, meet_cons, bind_run] at ran
  cases first : meet (fuel + 5) (.list u.before) s with
  | error message s' =>
    rw [first] at ran
    cases ran
  | ok a s' =>
    rw [first] at ran
    have length : s'.scopes.length = 2 :=
      (meet_length first (List.ne_nil_of_length_eq_add_one two)).trans two
    obtain ⟨place, scopes⟩ := s'
    obtain ⟨top, bottom, rfl⟩ := List.length_eq_two.mp length
    have follows : Follows [u.name] 1 0 (do
        meet (fuel + 4) (.stmt (behind u.comments (.expression (.paren u.value))))
        meet (fuel + 5) (.list u.after)) := (Follows.meet _ _).bind fun _ => Follows.meet _ _
    obtain ⟨keeps, next⟩ := follows ⟨place, [top, bottom]⟩
      ⟨place, [top.declare u.name .lexical, bottom]⟩ (Nat.zero_le _)
      (.here (top.gains_declare u.name) rfl) rfl () t ran
    obtain ⟨top', bottom', split⟩ := List.length_eq_two.mp keeps.length
    obtain ⟨failed, here⟩ := meet_behind_run bindable u.comments fuel u.value place top [bottom]
    simp only [split, List.mem_singleton, forall_eq, exists_eq_left, holds_two] at next
    rw [complains_bind first, complains?, bind_run, here, split, List.head?_cons, Option.any_some]
    cases taken : top.holds u.name with
    | true =>
      have kept : top'.holds u.name = true := by
        rcases next with ⟨-, -, -, -, same⟩ | ⟨-, held⟩
        · rw [same, taken]
        · exact held
      rw [kept]
      rfl
    | false =>
      rw [taken, bind_run] at next
      rcases next with ⟨t', passes, -, -, same⟩ | ⟨⟨t', fails⟩, held⟩
      · rw [same]
        simp [passes]
      · rw [held]
        simp [fails]

/-- The check of a unit is that of its last block, where the statements around it pass. -/
theorem complaint?_block (hashbang : Option String) (outer body : List Stmt) (fuel : Nat) :
    complaint? ⟨hashbang, outer ++ [.block body], fuel + 2⟩ =
      match meet (fuel + 2) (.list outer) { place := { strict := hasStrictDirective outer } } with
      | .ok _ s => complains? (meet fuel (.list body)) ⟨nested s.place, {} :: s.scopes⟩
      | .error message _ => some message := by
  rw [complaint?_eq]
  dsimp only
  rw [hasStrictDirective_block, meet_append]
  cases around : meet (fuel + 2) (.list outer) { place := { strict := hasStrictDirective outer } } with
  | ok a s =>
    rw [complains_bind around, meet_cons, meet_nil, bind_pure, meet_block, complains_within,
      complains_inScope]
  | error message s => rw [complains?, bind_run, around]

theorem unbound_run {hashbang : Option String} {fuel : Nat}
    (free : complaint? ⟨hashbang, u.unbound, fuel + 7⟩ = none) : ∃ s t,
      meet (fuel + 7) (.list u.outer) { place := { strict := hasStrictDirective u.outer } } = .ok () s ∧
      s.scopes.length = 1 ∧
      meet (fuel + 5) (.list u.rest) ⟨nested s.place, {} :: s.scopes⟩ = .ok () t ∧
      u.isTaken (fuel + 7) = t.scopes.head?.any (·.holds u.name) := by
  rw [unbound, complaint?_block] at free
  cases around : meet (fuel + 7) (.list u.outer) { place := { strict := hasStrictDirective u.outer } } with
  | error message s =>
    rw [around] at free
    cases free
  | ok a s =>
    rw [around] at free
    obtain ⟨t, passes⟩ := complains_eq_none.mp free
    refine ⟨s, t, rfl, meet_length around (List.cons_ne_nil _ _), passes, ?_⟩
    simp only [isTaken, around, Nat.add_sub_cancel (fuel + 5) 2, passes]

variable {hashbang : Option String} {depth : Nat}

/-- What the check says of the unit, if it passes without the binding: nothing, unless the name is
taken. -/
theorem complaint?_body (bindable : Bindable u.name) (deep : 7 ≤ depth)
    (free : complaint? ⟨hashbang, u.unbound, depth⟩ = none) :
    complaint? ⟨hashbang, u.body, depth⟩ =
      if u.isTaken depth then some (redeclared u.name) else none := by
  obtain ⟨fuel, rfl⟩ := Nat.exists_eq_add_of_le' deep
  obtain ⟨s, t, around, one, passes, taken⟩ := unbound_run free
  have two : (({} : Scope) :: s.scopes).length = 2 := congrArg Nat.succ one
  rw [taken, ← block_run bindable fuel two passes, Bound.body, complaint?_block, around]

theorem isTaken_of_mem {a : Stmt} (mem : a ∈ u.rest) (declares : DeclaresValue u.name a.uncommented)
    (deep : 7 ≤ depth) (free : complaint? ⟨hashbang, u.unbound, depth⟩ = none) :
    u.isTaken depth = true := by
  obtain ⟨fuel, rfl⟩ := Nat.exists_eq_add_of_le' deep
  obtain ⟨s, t, around, one, passes, taken⟩ := unbound_run free
  have leaves : Leaves (isTop 1) u.name 1 (meet (fuel + 5) (.list u.rest)) :=
    Leaves.each (fun a => Follows.meet (fuel + 4) (.stmt a)) mem (.uncommented declares.leaves fuel)
  have two : (({} : Scope) :: s.scopes).length = 2 := congrArg Nat.succ one
  have fits : isTop 1 (kinds ({} :: s.scopes)) := (List.length_map _).trans two
  obtain ⟨keeps, held⟩ := leaves ⟨_, _⟩ t fits (two ▸ Nat.one_lt_two) passes
  obtain ⟨top, bottom, split⟩ := List.length_eq_two.mp (keeps.length.trans two)
  rw [split, holds_two] at held
  rw [taken, split, List.head?_cons, Option.any_some, held]

end Bound

end PagePreview.Script
