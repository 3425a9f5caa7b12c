import PagePreview.Proofs.EntryBinding

/-!
# What the block of a unit shadows

A unit binds the handle and the usual hooks, and holds its stand-ins and its page in a block of their
own. What `const`, `let`, a function or a class declares there shadows the names outside. A `var`
leaves the block for the function around it, where those names are bound already: such a unit fails to
lower, though its block passes every check on its own.
-/

namespace PagePreview
open Text Script

namespace Script

def Usable (name : String) : Prop := name.toList.all isNameRest = true ∧ name ∉ strictWords

instance (name : String) : Decidable (Usable name) := inferInstanceAs (Decidable (_ ∧ _))

namespace Check

variable {name entry : String} {s t : State}

def Idles (c : Checked Unit) : Prop := ∀ s, s.place.withoutArguments = none → c s = .ok () s

namespace Idles

variable {c d : Checked Unit}

theorem pure : Idles (Pure.pure ()) := fun _ _ => rfl

theorem bind (hc : Idles c) (hd : Idles d) : Idles (c >>= fun _ => d) := fun s outside => by
  rw [bind_run, hc s outside]
  exact hd s outside

theorem nested (h : Idles c) : Idles (within nested c) := fun s outside => by
  rw [within_run, h { s with place := Check.nested s.place } outside]

theorem inScope (h : Idles c) (scope : Scope) : Idles (inScope scope c) := fun s outside => by
  rw [inScope_run, h { s with scopes := scope :: s.scopes } outside]
  rfl

end Idles

def Quiet (task : Task) : Prop := ∀ fuel, Idles (meet fuel task)

namespace Quiet

variable {left right operand callee argument value test : Expr} {a : Stmt} {body : List Stmt}

theorem of_succ {task : Task} (h : ∀ fuel, Idles (meet (fuel + 1) task)) : Quiet task
  | 0 => .pure
  | fuel + 1 => h fuel

theorem identifier (usable : Usable name) : Quiet (.expr (.identifier name)) :=
  of_succ fun fuel s outside => by
    have free : strictWords.contains name = false := by simpa using usable.2
    have word : checkWord name s = .ok () s := by
      change (if s.place.strict && strictWords.contains name then _ else _ : Checked Unit) s = _
      rw [free, Bool.and_false]
      rfl
    change (checkWord name >>= fun _ => if name == "arguments" then _ else _) s = _
    rw [bind_run, word]
    dsimp only
    split
    · rw [bind_run]
      change (match s.place.withoutArguments with | _ => _ : Checked Unit) s = _
      rw [outside]
      rfl
    · rfl

theorem escapeComplaint?_eq_none : ∀ {text : List Char}, '\\' ∉ text → escapeComplaint? text = none
  | [], _ => rfl
  | c :: text, plain => by
    rw [escapeComplaint?]
    · exact escapeComplaint?_eq_none fun mem => plain (.tail _ mem)
    · rintro d rest rfl -
      exact plain (.head _)

theorem string (value : Str) {raw : String} (plain : '\\' ∉ raw.toList) : Quiet (.expr (.string value raw)) :=
  of_succ fun fuel s _ => by
    change (if s.place.strict then report (escapeComplaint? raw.toList) else _ : Checked Unit) s = _
    rw [escapeComplaint?_eq_none plain]
    split <;> rfl

theorem binary (op : BinaryOp) (hl : Quiet (.expr left)) (hr : Quiet (.expr right)) :
    Quiet (.expr (.binary op left right)) := of_succ fun fuel => by
  have parts : meet (fuel + 1) (.expr (.binary op left right)) =
      (meet fuel (.expr left) >>= fun _ => meet fuel (.expr right)) := by
    change below (meet fuel) _ = _
    simp [below_eq, Expr.descend]
  rw [parts]
  exact (hl fuel).bind (hr fuel)

theorem typeOf (h : Quiet (.expr operand)) : Quiet (.expr (.unary .typeOf operand)) := of_succ fun fuel => by
  have parts : meet (fuel + 1) (.expr (.unary .typeOf operand)) = meet fuel (.expr operand) := by
    change below (meet fuel) _ = _
    simp [below_eq, Expr.descend]
  rw [parts]
  exact h fuel

theorem new (isPure : Bool) (hc : Quiet (.expr callee)) (ha : Quiet (.expr argument)) :
    Quiet (.expr (.new callee [] [argument] isPure)) := of_succ fun fuel => by
  have parts : meet (fuel + 1) (.expr (.new callee [] [argument] isPure)) =
      (meet fuel (.expr callee) >>= fun _ => meet fuel (.expr argument)) := by
    change below (meet fuel) _ = _
    simp [below_eq, Expr.descend, Visit.types, Visit.exprs, Visit.list]
  rw [parts]
  exact (hc fuel).bind (ha fuel)

theorem throw (h : Quiet (.expr value)) : Quiet (.stmt (.throw value)) := of_succ fun fuel => by
  have parts : meet (fuel + 1) (.stmt (.throw value)) = within nested (meet fuel (.expr value)) := by
    change within nested ((Stmt.throw value).descend
      { expr := fun e => do meet fuel (.expr e); return e
        stmt := fun s => do meet fuel (.stmt s); return s } >>= fun _ => Pure.pure ()) = _
    simp [Stmt.descend]
  rw [parts]
  exact (h fuel).nested

theorem «return» (h : Quiet (.expr value)) : Quiet (.stmt (.return (some value))) := of_succ fun fuel => by
  have parts : meet (fuel + 1) (.stmt (.return (some value))) = within nested (meet fuel (.expr value)) := by
    change within nested ((Stmt.return (some value)).descend
      { expr := fun e => do meet fuel (.expr e); return e
        stmt := fun s => do meet fuel (.stmt s); return s } >>= fun _ => Pure.pure ()) = _
    simp [Stmt.descend, Visit.expr?, Visit.option]
  rw [parts]
  exact (h fuel).nested

theorem nil : Quiet (.list []) := of_succ fun _ => .pure

theorem cons (ha : Quiet (.stmt a)) (hb : Quiet (.list body)) : Quiet (.list (a :: body)) :=
  of_succ fun fuel => by
    rw [meet_cons]
    exact (ha fuel).bind (hb (fuel + 1))

theorem block (h : Quiet (.list body)) : Quiet (.stmt (.block body)) := of_succ fun fuel => by
  rw [meet_block]
  exact ((h fuel).inScope _).nested

theorem cond (ht : Quiet (.expr test)) (hb : Quiet (.list body)) :
    Quiet (.stmt (.cond test (.block body) none)) := of_succ fun fuel => by
  have parts : meet (fuel + 1) (.stmt (.cond test (.block body) none)) = within nested (do
      meet fuel (.expr test)
      (meet fuel (.stmt (.block body)) >>= fun _ => Pure.pure ()) >>= fun _ => Pure.pure ()) := rfl
  rw [parts]
  exact ((ht fuel).bind ((hb.block fuel).bind .pure |>.bind .pure)).nested

theorem behind (comments : List Comment) (h : Quiet (.stmt a)) : Quiet (.stmt (behind comments a)) := by
  unfold Check.behind
  split
  · exact h
  · exact of_succ fun fuel => by
      rw [meet_commented]
      exact h fuel

end Quiet

end Check

/-- The names that are bound around the block of a unit. -/
def outerNames : List String := runtimeHandle :: boundHooks

def outerStmts : List Stmt := [
  .directive "use strict",
  Check.const runtimeHandle (.identifier runtimeParameter),
  .vars false .const [.declarator
    (.objectPattern (boundHooks.map fun hook => .property (.identifier hook) false true (.identifier hook)))
    (some (.identifier runtimeHandle))]]

/-- The statements that end the block: they return the entry, or complain that it does not exist. -/
def entryStmts (comments : List Comment) (entry : String) : List Stmt :=
  let mark := missingEntryMark ++ entry
  [ Check.behind comments
      (.cond (.binary .same (.unary .typeOf (.identifier entry)) (.string (.plain "undefined") "undefined"))
        (.block [.throw (.new (.identifier "Error") [] [.string (.plain mark) mark] false)]) none),
    .return (some (.identifier entry))]

def hook? : Expr → Option String
  | .property (.identifier name) false true (.identifier renamed) => if name = renamed then some name else none
  | _ => none

def isOuter : List Stmt → Bool
  | [.directive mode, .vars false .const [.declarator (.identifier handle) (some (.identifier parameter))],
      .vars false .const [.declarator (.objectPattern hooks) (some (.identifier handle'))]] =>
    mode = "use strict" && handle = runtimeHandle && parameter = runtimeParameter &&
      hooks.map hook? = boundHooks.map some && handle' = runtimeHandle
  | _ => false

def isEntry (entry : String) : List Stmt → Bool
  | [.cond (.binary .same (.unary .typeOf (.identifier name)) (.string (.plain value) raw))
        (.block [.throw (.new (.identifier error) [] [.string (.plain mark) mark'] false)]) none,
      .return (some (.identifier name'))] =>
    name = entry && value = "undefined" && raw = "undefined" && error = "Error" &&
      mark = missingEntryMark ++ entry && mark' = missingEntryMark ++ entry && name' = entry
  | _ => false

theorem hook?_eq {e : Expr} {name : String} (h : hook? e = some name) :
    e = .property (.identifier name) false true (.identifier name) := by
  unfold hook? at h
  split at h
  · split at h
    · cases h
      subst_vars
      rfl
    · cases h
  · cases h

theorem eq_of_hooks {hooks : List Expr} {names : List String} (h : hooks.map hook? = names.map some) :
    hooks = names.map fun hook => .property (.identifier hook) false true (.identifier hook) := by
  induction hooks generalizing names with
  | nil => rw [List.map_eq_nil_iff.mp h.symm, List.map_nil]
  | cons hook hooks ih =>
    cases names with
    | nil => cases h
    | cons name names =>
      rw [List.map_cons, List.map_cons, List.cons.injEq] at h
      rw [List.map_cons, ih h.2, hook?_eq h.1]

theorem eq_outerStmts {body : List Stmt} (h : isOuter body = true) : body = outerStmts := by
  unfold isOuter at h
  split at h
  · simp only [Bool.and_eq_true, decide_eq_true_eq] at h
    obtain ⟨⟨⟨⟨rfl, rfl⟩, rfl⟩, named⟩, rfl⟩ := h
    rename_i hooks
    rw [eq_of_hooks named]
    rfl
  · cases h

theorem eq_entryStmts {entry : String} {body : List Stmt} (h : isEntry entry body = true) :
    body = entryStmts [] entry := by
  unfold isEntry at h
  split at h
  · simp only [Bool.and_eq_true, decide_eq_true_eq] at h
    obtain ⟨⟨⟨⟨⟨⟨rfl, rfl⟩, rfl⟩, rfl⟩, rfl⟩, rfl⟩, rfl⟩ := h
    rfl
  · cases h

namespace Check

variable {name entry : String} {s t : State}

theorem quiet_entryStmts (usable : Usable entry) (comments : List Comment) :
    Quiet (.list (entryStmts comments entry)) := by
  have mark : '\\' ∉ (missingEntryMark ++ entry).toList := by
    rw [String.toList_append, List.mem_append, not_or]
    refine ⟨by decide, fun mem => ?_⟩
    have rest := List.all_eq_true.mp usable.1 _ mem
    revert rest
    decide
  have undefined : Quiet (.expr (.string (.plain "undefined") "undefined")) := .string _ (by decide)
  have test := (Quiet.identifier usable).typeOf.binary .same undefined
  have error := Quiet.new false (.identifier (by decide : Usable "Error"))
    (.string (.plain (missingEntryMark ++ entry)) mark)
  exact .cons (.behind comments (test.cond (.cons error.throw .nil)))
    (.cons (.return (.identifier usable)) .nil)

def outerScope : Scope :=
  outerNames.reverse.foldr (fun name scope => scope.declare name .lexical) { holdsVars := true }

theorem meet_outerStmts (fuel : Nat) :
    meet (fuel + 7) (.list outerStmts) { place := { strict := true } } =
      .ok () ⟨{ strict := true }, [outerScope]⟩ := rfl

theorem gains_outerScope : Scope.Gains outerNames { holdsVars := true } outerScope := by
  have gains := Scope.gains_foldr { holdsVars := true } outerNames.reverse
  exact ⟨gains.holdsVars, gains.passed, fun n test => by
    rw [outerScope, gains.any_bindingsOf, List.contains_reverse]⟩

/-- The statements, in a block of a strict function body. -/
def wrapped (block : List Stmt) : List Stmt := [.directive "use strict", .block block]

/-- Whether the function body around a block is left with a variable of this name. -/
def isHoisted (depth : Nat) (block : List Stmt) (name : String) : Bool :=
  match meet depth (.list (wrapped block)) { place := { strict := true } } with
  | .ok _ t => holds name 0 t.scopes
  | .error .. => false

variable {block : List Stmt}

theorem meet_wrapped (fuel : Nat) (block : List Stmt) :
    meet (fuel + 7) (.list (wrapped block)) { place := { strict := true } } =
      within nested (inScope {} (meet (fuel + 5) (.list block))) { place := { strict := true } } := by
  have directive : meet (fuel + 6) (.stmt (.directive "use strict")) { place := { strict := true } } =
      .ok () { place := { strict := true } } := rfl
  rw [wrapped, meet_cons, bind_run, directive, meet_cons, meet_nil, bind_pure, meet_block]

/-- The state in which a block of a strict function body is checked, with what its function declares. -/
def inBlock (scope : Scope) : State := ⟨nested { strict := true }, [{}, scope]⟩

/-- The check of a block that passes in a strict function body, up to what it leaves. -/
theorem wrapped_run (fuel : Nat) {hashbang : Option String}
    (free : complaint? ⟨hashbang, wrapped block, fuel + 7⟩ = none) :
    ∃ t, meet (fuel + 5) (.list block) (inBlock { holdsVars := true }) = .ok () t ∧
      ∀ name, isHoisted (fuel + 7) block name = holds name 0 t.scopes := by
  have strict : hasStrictDirective (wrapped block) = true := rfl
  rw [complaint?_eq, complains?] at free
  dsimp only at free
  rw [strict, meet_wrapped, ← complains?, complains_within, complains_inScope, complains_eq_none] at free
  obtain ⟨t, ran⟩ := free
  have two := meet_length ran (List.cons_ne_nil _ _)
  obtain ⟨top, bottom, split⟩ := List.length_eq_two.mp two
  refine ⟨t, ran, fun name => ?_⟩
  rw [isHoisted, meet_wrapped, within_run, inScope_run]
  have inner : holds name 0 [top, bottom] = holds name 0 [bottom] := holds_inside Nat.zero_lt_one
  simp [ran, split, inner]

/-- Around the names that a unit binds, the check of its block goes as in a function of its own, or it
fails at a name that leaves the block. -/
theorem block_run (fuel : Nat) {hashbang : Option String}
    (free : complaint? ⟨hashbang, wrapped block, fuel + 7⟩ = none) :
    (∃ t, meet (fuel + 5) (.list block) (inBlock outerScope) = .ok () t ∧ t.place.withoutArguments = none ∧
        ∀ n ∈ outerNames, isHoisted (fuel + 7) block n = false) ∨
      ∃ n ∈ outerNames, isHoisted (fuel + 7) block n = true ∧
        ∃ u, meet (fuel + 5) (.list block) (inBlock outerScope) = .error (redeclared n) u := by
  obtain ⟨t, ran, left⟩ := wrapped_run fuel free
  have gains : Gains outerNames 0 (inBlock { holdsVars := true }).scopes (inBlock outerScope).scopes :=
    .inside _ (.here gains_outerScope rfl)
  obtain ⟨keeps, ⟨t', ran', -, place, kept⟩ | ⟨n, mem, ⟨u, failed⟩, held⟩⟩ :=
    Follows.meet (fuel + 5) (.list block) _ _ (Nat.zero_le _) gains rfl () t ran
  · refine .inl ⟨t', ran', ?_, fun n mem => ?_⟩
    · rw [place, keeps.place]
      rfl
    · rw [left, kept n mem]
      rfl
  · exact .inr ⟨n, mem, (left n).trans held, u, failed⟩

theorem complaint?_unit {hashbang : Option String} {depth : Nat} (deep : 9 ≤ depth) (usable : Usable entry)
    (comments : List Comment) (free : complaint? ⟨hashbang, wrapped block, depth⟩ = none) :
    let unit : Program := ⟨hashbang, outerStmts ++ [.block (block ++ entryStmts comments entry)], depth⟩
    (complaint? unit = none ∧ ∀ n ∈ outerNames, isHoisted depth block n = false) ∨
      ∃ n ∈ outerNames, isHoisted depth block n = true ∧ complaint? unit = some (redeclared n) := by
  obtain ⟨fuel, rfl⟩ := Nat.exists_eq_add_of_le' deep
  have strict : hasStrictDirective outerStmts = true := rfl
  have checked : complaint? ⟨hashbang, outerStmts ++ [.block (block ++ entryStmts comments entry)], fuel + 9⟩ =
      complains? (meet (fuel + 7) (.list block) >>= fun _ => meet (fuel + 7) (.list (entryStmts comments entry)))
        (inBlock outerScope) := by
    rw [Bound.complaint?_block, strict, meet_outerStmts, meet_append]
    rfl
  dsimp only
  rw [checked]
  rcases block_run (fuel + 2) free with ⟨t, ran, outside, none⟩ | ⟨n, mem, hoisted, u, failed⟩
  · refine .inl ⟨?_, none⟩
    rw [complains_bind ran, complains_eq_none]
    exact ⟨t, quiet_entryStmts usable comments _ t outside⟩
  · refine .inr ⟨n, mem, hoisted, ?_⟩
    rw [complains?, bind_run, failed]

theorem isHoisted_of_mem {hashbang : Option String} {depth : Nat} (deep : 9 ≤ depth)
    (free : complaint? ⟨hashbang, wrapped block, depth⟩ = none) {a : Stmt} (mem : a ∈ block)
    {isDeclare : Bool} {ds : List Expr} {value : Option Expr} (vars : a.uncommented = .vars isDeclare .var ds)
    (bound : Expr.declarator (.identifier name) value ∈ ds) : isHoisted depth block name = true := by
  obtain ⟨fuel, rfl⟩ := Nat.exists_eq_add_of_le' deep
  obtain ⟨t, ran, left⟩ := wrapped_run (fuel + 2) free
  have leaves (fuel : Nat) : Leaves (· = [false, true]) name 0 (meet (fuel + 3) (.stmt a.uncommented)) := by
    rw [vars]
    exact .vars bound (.declare .hoisted) fuel
  have all : Leaves (· = [false, true]) name 0 (meet (fuel + 7) (.list block)) :=
    .each (fun a => .meet _ (.stmt a)) mem (.uncommented leaves (fuel + 2))
  rw [left]
  exact (all (inBlock { holdsVars := true }) t rfl Nat.zero_lt_two ran).2

end Check

end Script

variable {unit : String} {p : Program}

theorem lower_of_read (read : Program.read unitDialect unit.toList = ⟨some p, []⟩) :
    (∀ message, Check.complaint? (ElementCall.program p).1 = some message →
      lower unit = .error (.lowering message)) ∧
    (Check.complaint? (ElementCall.program p).1 = none →
      ∀ failure, lower unit = .error failure → ∃ message ∈ Erasure.complaints, failure = .lowering message) := by
  have read' : Program.read { isModule := false, looseReturn := true } unit.toList = ⟨some p, []⟩ := read
  unfold lower
  rw [read']
  dsimp only
  refine ⟨fun message complaint => by rw [complaint], fun silent => ?_⟩
  rw [silent]
  dsimp only
  intro failure failed
  cases erased : Erasure.program (ElementCall.program p).1 with
  | ok plain => simp [erased] at failed
  | error message =>
    refine ⟨message, Erasure.program_error erased, ?_⟩
    simpa [erased] using failed.symm

/-- Where a unit is read, and its stand-ins and its page pass in a block of a strict function body, the
unit has no early error exactly if none of the names that it binds itself leaves that block. Otherwise
lowering says of such a name that it has already been declared; and every name leaves the block that the
block declares with `var`. -/
theorem lower_shadowed_iff (s : Sanitized) (usable : Usable s.entryName) (p : Program)
    (comments : List Comment) (block : List Stmt)
    (read : Program.read unitDialect s.assemble.toList = ⟨some p, []⟩)
    (shape : (ElementCall.program p).1.body =
      outerStmts ++ [.block (block ++ entryStmts comments s.entryName)])
    (free : Check.complaint? { p with body := Check.wrapped block } = none) :
    (Check.complaint? (ElementCall.program p).1 = none ↔
      ∀ n ∈ outerNames, Check.isHoisted p.depth block n = false) ∧
    ((∀ n ∈ outerNames, Check.isHoisted p.depth block n = false) →
      ∀ failure, lower s.assemble = .error failure → ∃ message ∈ Erasure.complaints, failure = .lowering message) ∧
    ((∃ n ∈ outerNames, Check.isHoisted p.depth block n = true) →
      ∃ n ∈ outerNames, Check.isHoisted p.depth block n = true ∧
        lower s.assemble = .error (.lowering (Check.redeclared n))) ∧
    ∀ a ∈ block, ∀ isDeclare ds name value, a.uncommented = .vars isDeclare .var ds →
      Expr.declarator (.identifier name) value ∈ ds → Check.isHoisted p.depth block name = true := by
  have deep : 9 ≤ p.depth := by
    rw [read_depth read]
    omega
  have lowered : (ElementCall.program p).1 = { p with
      body := outerStmts ++ [.block (block ++ entryStmts comments s.entryName)] } := by
    rw [← shape]
    rfl
  have leaves : ∀ a ∈ block, ∀ isDeclare ds name value, a.uncommented = .vars isDeclare .var ds →
      Expr.declarator (.identifier name) value ∈ ds → Check.isHoisted p.depth block name = true :=
    fun a mem isDeclare ds name value vars bound => Check.isHoisted_of_mem deep free mem vars bound
  obtain ⟨failing, silent⟩ := lower_of_read read
  rw [lowered] at failing silent ⊢
  rcases Check.complaint?_unit deep usable comments free with ⟨passes, kept⟩ | ⟨n, mem, hoisted, fails⟩
  · refine ⟨iff_of_true passes kept, fun _ => silent passes, ?_, leaves⟩
    rintro ⟨n, mem, hoisted⟩
    simp [kept n mem] at hoisted
  · have leaving : ¬∀ n ∈ outerNames, Check.isHoisted p.depth block n = false := fun kept => by
      simp [kept n mem] at hoisted
    exact ⟨iff_of_false (by simp [fails]) leaving, fun kept => absurd kept leaving,
      fun _ => ⟨n, mem, hoisted, failing _ fails⟩, leaves⟩

/-- A unit whose page is two statements: what stands around the block, the page, and what ends the
block. -/
def splitUnit? : List Stmt → Option (List Stmt × List Stmt × List Stmt)
  | [a, b, c, .block (d :: e :: rest)] => some ([a, b, c], [d, e], rest)
  | _ => none

theorem eq_of_splitUnit? {body outer page rest : List Stmt}
    (h : splitUnit? body = some (outer, page, rest)) : body = outer ++ [.block (page ++ rest)] := by
  unfold splitUnit? at h
  split at h
  · cases h
    rfl
  · cases h

theorem lower_shadowed_const :
    ∃ (s : Sanitized) (p : Program) (block : List Stmt),
      Sanitized.ofSource {} "const useRef = 1;\nexport default function Page() \x7b\x7d\n" = .ok s ∧
      Usable s.entryName ∧
      Program.read unitDialect s.assemble.toList = ⟨some p, []⟩ ∧
      (ElementCall.program p).1.body = outerStmts ++ [.block (block ++ entryStmts [] s.entryName)] ∧
      Check.complaint? { p with body := Check.wrapped block } = none ∧
      (Check.complaint? (ElementCall.program p).1 = none ↔
        ∀ n ∈ outerNames, Check.isHoisted p.depth block n = false) := by
  obtain ⟨s, made, usable, free⟩ : ∃ s : Sanitized,
      (Sanitized.ofSource {} "const useRef = 1;\nexport default function Page() \x7b\x7d\n").toOption = some s ∧
      Usable s.entryName ∧
      ((readUnit? s.assemble).bind fun p => (splitUnit? (ElementCall.program p).1.body).map
        fun parts => isOuter parts.1 && isEntry s.entryName parts.2.2 &&
          (Check.complaint? { p with body := Check.wrapped parts.2.1 }).isNone) = some true :=
    ⟨⟨"", "const useRef = 1;\nfunction Page() \x7b\x7d\n", "Page", .defaultFunction, []⟩,
      by decide +kernel, by decide +kernel, by
        rw [readUnit?_eq, Sanitized.assemble_plain (by rw [String.toList_ofList]; rfl)]
        simp only [String.toList_append]
        repeat rw [String.toList_ofList]
        decide +kernel⟩
  have done := Sanitized.ofSource_of_toOption made
  obtain ⟨p, whole, parted⟩ := Option.bind_eq_some_iff.mp free
  obtain ⟨⟨outer, page, rest⟩, parts, free⟩ := Option.map_eq_some_iff.mp parted
  simp only [Bool.and_eq_true, Option.isNone_iff_eq_none] at free
  obtain ⟨⟨around, entry⟩, free⟩ := free
  have read := read_of_readUnit? whole
  have shape : (ElementCall.program p).1.body =
      outerStmts ++ [.block (page ++ entryStmts [] s.entryName)] := by
    rw [eq_of_splitUnit? parts, eq_outerStmts around, eq_entryStmts entry]
  exact ⟨s, p, page, done, usable, read, shape, free,
    (lower_shadowed_iff s usable p [] page read shape free).1⟩

/-- With `var` it may not: the page passes on its own, and its unit fails to lower. -/
theorem lower_hoisted_var :
    ∃ s p, Sanitized.ofSource {} "var useRef = 1;\nexport default function Page() \x7b\x7d\n" = .ok s ∧
      Usable s.entryName ∧
      Program.read unitDialect ("'use strict';\n\x7b\n" ++ s.standIns ++ s.body ++ "\x7d\n").toList =
        ⟨some p, []⟩ ∧
      Check.complaint? (ElementCall.program p).1 = none ∧
      lower s.assemble = .error (.lowering (Check.redeclared "useRef")) := by
  obtain ⟨s, made, usable, free, clash⟩ : ∃ s : Sanitized,
      (Sanitized.ofSource {} "var useRef = 1;\nexport default function Page() \x7b\x7d\n").toOption = some s ∧
      Usable s.entryName ∧
      (readUnit? ("'use strict';\n\x7b\n" ++ s.standIns ++ s.body ++ "\x7d\n")).map
        (fun p => Check.complaint? (ElementCall.program p).1) = some none ∧
      ((readUnit? s.assemble).bind fun p => Check.complaint? (ElementCall.program p).1) =
        some (Check.redeclared "useRef") :=
    ⟨⟨"", "var useRef = 1;\nfunction Page() \x7b\x7d\n", "Page", .defaultFunction, []⟩,
      by decide +kernel, by decide +kernel, by decide +kernel, by
        rw [readUnit?_eq, Sanitized.assemble_plain (by rw [String.toList_ofList]; rfl)]
        simp only [String.toList_append]
        repeat rw [String.toList_ofList]
        decide +kernel⟩
  have done := Sanitized.ofSource_of_toOption made
  obtain ⟨p, whole, passes⟩ := Option.map_eq_some_iff.mp free
  exact ⟨s, p, done, usable, read_of_readUnit? whole, passes, lower_of_clash clash⟩

end PagePreview
