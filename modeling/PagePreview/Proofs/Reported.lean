import PagePreview.Proofs.Machine.Errors
import PagePreview.Proofs.Pipeline
import PagePreview.Proofs.Shadowing
import PagePreview.Proofs.Text.Split
import PagePreview.Sandbox

/-!
# How the errors of a page are reported

What a unit throws, while it is evaluated or rendered, is reported by its message. The check that a
unit makes for its entry reports through the same channel: it throws an error whose message begins
with a mark. So a page's own error is reported as it is unless its message begins with that mark.
-/

namespace PagePreview
open Machine Script Run

variable {α : Type} {s t : Machine.State} {script message raw entry : String} {v : Value} {n : Nat}

namespace Sandbox

/-- Evaluating a unit, or rendering what it returned, ends by throwing a value. -/
inductive Throws (s : Machine.State) (script : String) (v : Value) (t : Machine.State) : Prop
  | evaluating {unit : Value} {r : Machine.State} (made : attempt s (factory script) = (.ok unit, r))
      (callable : r.isCallable unit = true)
      (thrown : entryOf unit (Machine.engine builtins taskDepth) r = .error (.thrown v) t)
  | rendering {unit entry : Value} {r u : Machine.State} (made : attempt s (factory script) = (.ok unit, r))
      (callable : r.isCallable unit = true)
      (returned : attempt r (entryOf unit) = (.ok (.ok entry), u))
      (thrown : markupOf entry (Machine.engine builtins taskDepth) u = .error (.thrown v) t)

/-- Evaluating a unit, or rendering what it returned, ends early with a message. -/
inductive Complains (s : Machine.State) (script message : String) (t : Machine.State) : Prop
  | evaluating {unit : Value} {r : Machine.State} (made : attempt s (factory script) = (.ok unit, r))
      (callable : r.isCallable unit = true)
      (complained : attempt r (entryOf unit) = (.error message, t))
  | rendering {unit entry : Value} {r u : Machine.State} (made : attempt s (factory script) = (.ok unit, r))
      (callable : r.isCallable unit = true)
      (returned : attempt r (entryOf unit) = (.ok (.ok entry), u))
      (complained : attempt u (markupOf entry) = (.error message, t))

theorem attempt_thrown {step : Run α} (standard : StandardErrors t.objects) (error : IsError t.objects v message)
    (nonempty : message ≠ "") (thrown : step (Machine.engine builtins taskDepth) s = .error (.thrown v) t) :
    attempt s step = (.error message, t) := by
  unfold attempt
  dsimp only
  rw [thrown]
  dsimp only
  rw [error.reads_report standard nonempty]

theorem Throws.complains (h : Throws s script v t) (standard : StandardErrors t.objects)
    (error : IsError t.objects v message) (nonempty : message ≠ "") : Complains s script message t := by
  cases h with
  | evaluating made callable thrown =>
    exact .evaluating made callable (attempt_thrown standard error nonempty thrown)
  | rendering made callable returned thrown =>
    exact .rendering made callable returned (attempt_thrown standard error nonempty thrown)

theorem Complains.renderIn_eq (h : Complains s script message t) :
    renderIn s script = (.error (failureOf message), t) := by
  cases h with
  | evaluating made callable complained =>
    unfold renderIn answered
    rw [made]
    dsimp only
    rw [if_pos callable, complained]
  | rendering made callable returned complained =>
    unfold renderIn answered
    rw [made]
    dsimp only
    rw [if_pos callable, returned]
    dsimp only
    rw [complained]

theorem execute_eq {config : Config} (begun : (ofConfig config).state = .ok s) :
    execute config script = (renderIn s script).1 := by
  rw [execute, render, begun]

theorem thrown_ne_missingEntry : Failure.thrown message ≠ .missingEntry entry := by
  unfold Failure.thrown
  split <;> simp

theorem failureOf_marked (entry : String) : failureOf (missingEntryMark ++ entry) = .missingEntry entry := by
  have after : Text.after? missingEntryMark.toList (missingEntryMark ++ entry).toList = some entry.toList :=
    Text.after?_eq_some.mpr String.toList_append
  rw [failureOf, after]
  dsimp only
  rw [String.ofList_toList]

theorem failureOf_unmarked (unmarked : ¬missingEntryMark.toList <+: message.toList) :
    failureOf message = .thrown message := by
  have nothing : Text.after? missingEntryMark.toList message.toList = none := by
    refine Option.eq_none_iff_forall_not_mem.mpr fun rest mem => unmarked ⟨rest, ?_⟩
    exact (Text.after?_eq_some.mp mem).symm
  rw [failureOf, nothing]

theorem eq_of_marked (marked : missingEntryMark.toList <+: message.toList) :
    ∃ entry, message = missingEntryMark ++ entry := by
  obtain ⟨rest, same⟩ := marked
  refine ⟨String.ofList rest, String.toList_inj.mp ?_⟩
  rw [String.toList_append, String.toList_ofList, same]

theorem failureOf_eq_missingEntry : failureOf message = .missingEntry entry ↔ message = missingEntryMark ++ entry := by
  constructor
  · intro missing
    by_cases marked : missingEntryMark.toList <+: message.toList
    · obtain ⟨rest, rfl⟩ := eq_of_marked marked
      rw [failureOf_marked] at missing
      cases missing
      rfl
    · rw [failureOf_unmarked marked] at missing
      exact absurd missing thrown_ne_missingEntry
  · rintro rfl
    exact failureOf_marked entry

theorem ok_of_bind {β : Type} {x : Run α} {f : α → Run β} {e : Engine} {b : β} (h : (x >>= f) e s = .ok b t) :
    ∃ a u, x e s = .ok a u ∧ f a e u = .ok b t := by
  have whole : (x >>= f) e s = EStateM.bind (x e) (fun a => f a e) s := rfl
  rw [whole, EStateM.bind] at h
  cases run : x e s with
  | ok a u =>
    rw [run] at h
    exact ⟨a, u, rfl, h⟩
  | error stop u =>
    rw [run] at h
    cases h

def Overlooks (x : Run (Except Failure α)) : Prop :=
  ∀ e s t entry, x e s ≠ .ok (.error (.missingEntry entry)) t

theorem overlooks_pure {a : Except Failure α} (h : ∀ entry, a ≠ .error (.missingEntry entry)) :
    Overlooks (pure a) := by
  intro e s t entry returned
  cases returned
  exact h entry rfl

theorem Overlooks.bind {β : Type} {x : Run β} {f : β → Run (Except Failure α)} (h : ∀ a, Overlooks (f a)) :
    Overlooks (x >>= f) := by
  intro e s t entry returned
  obtain ⟨a, u, -, rest⟩ := ok_of_bind returned
  exact h a e u t entry rest

theorem overlooks_entryOf (unit : Value) : Overlooks (entryOf unit) := by
  refine .bind fun entry => .bind fun now => ?_
  split
  · exact overlooks_pure fun _ h => by cases h
  · exact overlooks_pure fun _ h => by cases h

theorem overlooks_handleFunction (name : String) : Overlooks (handleFunction name) := by
  refine .bind fun f => .bind fun now => ?_
  split
  · exact overlooks_pure fun _ h => by cases h
  · exact overlooks_pure fun _ h => thrown_ne_missingEntry (Except.error.inj h)

/-- A step over what the handle has overlooks the entry if it does so with the function. -/
theorem Overlooks.handleFunction {name : String} {f : Value → Run (Except Failure α)} (h : ∀ v, Overlooks (f v)) :
    Overlooks (Sandbox.handleFunction name >>= fun found => match found with
      | .error e => pure (.error e)
      | .ok v => f v) := by
  intro e s t entry returned
  obtain ⟨found, u, first, rest⟩ := ok_of_bind returned
  cases found with
  | error complaint =>
    cases rest
    exact overlooks_handleFunction name e s t entry first
  | ok v => exact h v e u t entry rest

theorem overlooks_markupOf (entry : Value) : Overlooks (markupOf entry) := by
  refine Overlooks.handleFunction fun create => Overlooks.handleFunction fun render => .bind fun element => ?_
  refine .bind fun text => ?_
  split
  · exact overlooks_pure fun _ h => by cases h
  · exact overlooks_pure fun _ h => by cases h

theorem attempt_ok {step : Run α} {a : α} (h : attempt s step = (.ok a, t)) :
    step (Machine.engine builtins taskDepth) s = .ok a t := by
  unfold attempt at h
  dsimp only at h
  split at h
  · rename_i run
    cases h
    exact run
  · repeat' split at h
    all_goals cases h

theorem answered_missingEntry {step : Run (Except Failure α)} (overlooks : Overlooks step)
    (h : answered s step = (.error (.missingEntry entry), t)) :
    attempt s step = (.error (missingEntryMark ++ entry), t) := by
  unfold answered at h
  split at h
  · rename_i r u tried
    cases h
    exact absurd (attempt_ok tried) (overlooks _ _ _ _)
  · rename_i message u tried
    rw [Prod.mk.injEq, Except.error.injEq, failureOf_eq_missingEntry] at h
    rw [tried, h.1, h.2]

/-- A missing entry is reported for complaints that begin with the mark, and for no others. -/
theorem renderIn_missingEntry : renderIn s script = (.error (.missingEntry entry), t) ↔
    Complains s script (missingEntryMark ++ entry) t := by
  constructor
  · intro missing
    unfold renderIn at missing
    split at missing
    · cases missing
    · rename_i unit r made
      split at missing
      · rename_i callable
        split at missing
        · rename_i complaint u stopped
          cases missing
          exact .evaluating made callable (answered_missingEntry (overlooks_entryOf unit) stopped)
        · rename_i component u returned
          have ended : attempt r (entryOf unit) = (.ok (.ok component), u) := by
            unfold answered at returned
            split at returned
            · rename_i tried
              rw [tried, (Prod.mk.inj returned).1, (Prod.mk.inj returned).2]
            · cases returned
          exact .rendering made callable ended (answered_missingEntry (overlooks_markupOf component) missing)
      · cases missing
  · intro complains
    rw [complains.renderIn_eq, failureOf_marked]

end Sandbox

section Check

variable {c : Machine.Context} {comments : List Comment} {found : Option Value}

theorem ends_behind {a : Stmt} {Q : Completion → Machine.State → Prop} {R : Value → Machine.State → Prop}
    (h : Ends n (execute c a) s Q R) : Ends (n + 1) (execute c (Check.behind comments a)) s Q R := by
  unfold Check.behind
  split
  · exact h.more (by omega)
  · exact ends_execute h

def typeWord (s : Machine.State) (found : Option Value) : String := (found.map s.typeName).getD "undefined"

theorem typeWord_eq_undefined : typeWord s found = "undefined" ↔ found.getD .undefined = .undefined := by
  cases found with
  | none => simp [typeWord]
  | some v =>
    cases v with
    | object id =>
      simp only [typeWord, Option.map_some, Option.getD_some, State.typeName]
      split <;> simp
    | _ => simp [typeWord, State.typeName]

/-- What stands under a name in a context, if anything does; it is found without running any code. -/
def Resolves (s : Machine.State) (c : Machine.Context) (name : String) (found : Option Value) : Prop :=
  ∀ t, Kept s t → t.objects = s.objects → Reads t (locate name c.scope >>= valueAt? name) found

theorem Resolves.reads_lookUp {name : String} (h : Resolves s c name (some v)) (kept : Kept s t)
    (same : t.objects = s.objects) : Reads t (lookUp name c.scope) v := by
  unfold lookUp
  rw [← bind_assoc]
  exact (h t kept same).bind (reads_pure v)

variable (resolves : Resolves s c entry found)

include resolves

theorem reads_typeOf : Reads s (expression c (.unary .typeOf (.identifier entry))) (.text (typeWord s found)) := by
  unfold expression unaryOperation
  dsimp only
  rw [← bind_assoc]
  refine (resolves s (.refl s) rfl).bind ?_
  cases found with
  | none => exact reads_pure _
  | some v => exact reads_get.bind (reads_pure _)

theorem gives_entryTest : Gives 2
    (evaluate c (.binary .same (.unary .typeOf (.identifier entry)) (.string (.plain "undefined") "undefined"))) s
      fun v os => os = s.objects ∧ v = .bool (typeWord s found == "undefined") := by
  have left : Gives 1 (evaluate c (.unary .typeOf (.identifier entry))) s fun v os =>
      v = .text (typeWord s found) ∧ os = s.objects :=
    gives_evaluate (n := 0) ((reads_typeOf resolves).gives ⟨rfl, rfl⟩)
  refine gives_evaluate (n := 1) (left.bind ?_)
  rintro _ t - ⟨rfl, same⟩
  have right : Gives 1 (evaluateHolding 1 c (.string (.plain "undefined") "undefined")) t fun v os =>
      v = .text "undefined" ∧ os = t.objects :=
    gives_evaluate (n := 0) (Reads.gives (reads_pure _) ⟨rfl, rfl⟩)
  refine right.bind ?_
  rintro _ u - ⟨rfl, same'⟩
  refine gives_pure ⟨same'.trans same, ?_⟩
  simp [Value.same, Value.text]

theorem ends_check_unbound (standard : StandardErrors s.objects)
    (named : Resolves s c "Error" (some Intrinsic.errorConstructor.value))
    (unbound : found.getD .undefined = .undefined) {Q : Completion → Machine.State → Prop} :
    Ends 8 (runList c (entryStmts comments entry) none) s Q fun v t =>
      IsError t.objects v (missingEntryMark ++ entry) ∧ StandardErrors t.objects := by
  refine Ends.bind (Q := fun _ _ => False) ?_ fun _ _ _ none => none.elim
  refine ends_behind (n := 7) (ends_execute (n := 6) ?_)
  refine ((gives_entryTest resolves).more (by omega)).ends_bind ?_
  rintro _ t kept ⟨same, rfl⟩
  rw [typeWord_eq_undefined.mpr unbound]
  have thrown : Ends 5 (execute c (.throw (.new (.identifier "Error") []
      [.string (.plain (missingEntryMark ++ entry)) (missingEntryMark ++ entry)] false))) t (fun _ _ => False) _ :=
    ends_throwError (same ▸ standard) (named.reads_lookUp kept same) _ _ false
  refine Ends.bind (Q := fun _ _ => False) ?_ fun _ _ _ none => none.elim
  refine ends_execute (n := 5) ?_
  exact thrown.bind fun _ _ _ none => none.elim

theorem ends_check_bound (bound : found = some v) (defined : v ≠ .undefined) (other : entry ≠ "undefined")
    {R : Value → Machine.State → Prop} :
    Ends 5 (runList c (entryStmts comments entry) none) s (fun completion _ => completion = .return v) R := by
  subst bound
  refine Ends.bind (Q := fun completion t => completion = .normal (some .undefined) ∧ Kept s t ∧ t.objects = s.objects) ?_ ?_
  · refine ends_behind (n := 4) (ends_execute (n := 3) ?_)
    refine ((gives_entryTest resolves).more (by omega)).ends_bind ?_
    rintro _ t kept ⟨same, rfl⟩
    have word : (typeWord s (some v) == "undefined") = false := by
      have unlike : typeWord s (some v) ≠ "undefined" := mt typeWord_eq_undefined.mp defined
      simpa using unlike
    rw [word]
    exact ends_pure ⟨rfl, kept, same⟩
  · rintro _ t - ⟨rfl, kept, same⟩
    have value : Gives 1 (evaluate c (.identifier entry)) t fun w _ => w = v := by
      refine gives_evaluate (n := 0) ((?_ : Reads t (expression c (.identifier entry)) v).gives rfl)
      rw [expression_identifier other]
      exact resolves.reads_lookUp kept same
    refine Ends.bind (Q := fun completion _ => completion = .return v) ?_ ?_
    · refine ends_execute (n := 4) ?_
      refine (value.more (by omega)).ends_bind ?_
      rintro _ u - rfl
      exact ends_pure rfl
    · rintro _ u - rfl
      exact ends_pure rfl

end Check

section Thrower

variable {c : Machine.Context} {m : String} {e : Engine}

def thrower (message raw : String) : Expr :=
  .function none false false false [] [.param [] {} (.identifier runtimeParameter) none none] none
    (some [.throw (.new (.identifier "Error") [] [.string (.plain message) raw] false)])

def throwerCode (message raw : String) : Machine.Code :=
  .of .plain false false false [.param [] {} (.identifier runtimeParameter) none none]
    [.throw (.new (.identifier "Error") [] [.string (.plain message) raw] false)]

def throwerObject (c : Machine.Context) (m raw : String) : Object where
  proto := some Intrinsic.functionPrototype.id
  properties := .ofList [(.length, .data (.ofNat 1) false false true), (.name, .data (.string .empty) false false true)]
  kind := .closure (throwerCode m raw) c none ⟨#[], #[]⟩

def withThrower (s : Machine.State) (c : Machine.Context) (m raw : String) : Machine.State :=
  { s with
    pinned := s.scopes.size
    objects := ((s.objects.push (throwerObject c m raw)).push {
      proto := some Intrinsic.objectPrototype.id
      properties := .ofList [(.constructor, .unlisted (.object s.objects.size))] }).modify s.objects.size
        (·.store .prototype (.data (.object (s.objects.push (throwerObject c m raw)).size) true false false)) }

theorem withThrower_place : ∃ o, (withThrower s c m raw).objects[s.objects.size]? = some o ∧
    o.kind = .closure (throwerCode m raw) c none ⟨#[], #[]⟩ := by
  refine ⟨_, modify_here (o := throwerObject c m raw) ?_, rfl⟩
  exact extends_push _ _ _ _ (push_last _ _)

theorem withThrower_extends : Extends s.objects (withThrower s c m raw).objects :=
  ((extends_push _ _).trans (extends_push _ _)).modify (Nat.le_refl _)

def behindThrower (s : Machine.State) (m raw : String) : Machine.State :=
  ((withThrower { s with depth := s.depth + 1, loops := 0, scopes := s.scopes.push { outer := some globalScope } }
    ⟨s.scopes.size, globalScope, false⟩ m raw).dropScopes s.scopes.size).leave s.depth s.held s.loops s.scopes.size

theorem factory_thrower (fuel : Nat) (read : readPlain false (Sandbox.wrapped script) = .ok [.expression (thrower m raw)]) :
    Sandbox.factory script (Machine.engine builtins (fuel + 2)) s = .ok (.object s.objects.size) (behindThrower s m raw) := by
  unfold Sandbox.factory evaluateSource
  rw [show readPlain (Option.isSome (none : Option Machine.Context)) (Sandbox.wrapped script) = _ from read]
  rfl

theorem behindThrower_objects : (behindThrower s m raw).objects =
    (withThrower s ⟨s.scopes.size, globalScope, false⟩ m raw).objects := by
  unfold behindThrower
  rw [leave_objects, dropScopes_objects]
  rfl

theorem behindThrower_extends : Extends s.objects (behindThrower s m raw).objects := by
  rw [behindThrower_objects]
  exact withThrower_extends

theorem behindThrower_place (s : Machine.State) (m raw : String) : ∃ o, (behindThrower s m raw).objects[s.objects.size]? = some o ∧
    o.kind = .closure (throwerCode m raw) ⟨s.scopes.size, globalScope, false⟩ none ⟨#[], #[]⟩ := by
  rw [behindThrower_objects]
  exact withThrower_place

theorem behindThrower_scopes : (behindThrower s m raw).scopes = s.scopes.push { outer := some globalScope } := by
  have kept : ¬(s.scopes.push { outer := some globalScope }).size ≤ s.scopes.size := by
    rw [Array.size_push]
    omega
  have dropped (t : Machine.State) (pinned : t.pinned = (s.scopes.push { outer := some globalScope }).size) :
      t.dropScopes s.scopes.size = t := by
    rw [State.dropScopes, pinned, if_neg kept]
  unfold behindThrower
  rw [dropped _ rfl]
  unfold State.leave
  rw [dropped _ rfl]
  rfl

theorem level_behindThrower : Level s (behindThrower s m raw) :=
  ⟨leave_limits.trans dropScopes_limits, rfl, rfl⟩

def throwerScope (c : Machine.Context) (id : Nat) : Machine.Scope where
  vars := #[(runtimeParameter, { value := some Intrinsic.handle.value })]
  outer := some c.scope
  frame := some { this := some Intrinsic.globalValue, function := some id }

theorem throwerVariables : bodyVariables {} (plainVariables [runtimeParameter] #[Intrinsic.handle.value]) =
    #[(runtimeParameter, { value := some Intrinsic.handle.value })] := by
  simp [bodyVariables, plainVariables, findVariable_nil]

/-- A call of the thrower throws, if the name of errors has its meaning where the thrower stands. -/
theorem ends_throwerCall {id : Nat} {o : Object} (standard : StandardErrors s.objects)
    (at_ : s.objects[id]? = some o) (kind : o.kind = .closure (throwerCode m raw) c none ⟨#[], #[]⟩)
    (named : ∀ t, t.objects = s.objects →
      t.scopes = s.scopes.push (throwerScope c id) →
      Reads t (lookUp "Error" s.scopes.size) Intrinsic.errorConstructor.value) {Q : Value → Machine.State → Prop} :
    Ends 10 (Run.call (.object id) .undefined #[Intrinsic.handle.value]) s Q
      fun v t => IsError t.objects v m ∧ StandardErrors t.objects := by
  refine ends_call (n := 9) ((reads_objectAt id).ends_bind ?_)
  rw [object_of_place at_, kind]
  refine Reads.ends_bind (reads_pure Intrinsic.globalValue) ?_
  refine Ends.bind (Q := fun _ _ => False) ?_ fun _ _ _ none => none.elim
  refine ends_counted (n := 5) (k := 3) ?_
  refine Ends.bind (Q := fun inner t => inner = ⟨s.scopes.size, s.scopes.size, false⟩ ∧ t.objects = s.objects ∧
    t.scopes = _) (ends_of_ok (fun _ => rfl) ⟨rfl, rfl, rfl⟩ ⟨rfl, rfl, rfl⟩) ?_
  rintro _ t - ⟨rfl, objects, opened⟩
  have scopes : t.scopes = s.scopes.push (throwerScope c id) := by
    rw [throwerScope, ← throwerVariables]
    exact opened
  refine Ends.bind (Q := fun _ _ => False) ?_ fun _ _ _ none => none.elim
  refine Ends.bind (Q := fun _ _ => False) ?_ fun _ _ _ none => none.elim
  refine (ends_throwError (objects ▸ standard) (named t objects scopes) m raw false).mono (Nat.le_refl _)
    (fun _ _ _ h => h) fun v u both => ?_
  rw [show (State.leave _ _ _ _ u).objects = _ from leave_objects]
  exact both

/-- Errors have their name in a call of the thrower if no scope but that of the globals is around it. -/
theorem reads_errorName {global : Machine.Scope} {id : Nat} (standard : StandardErrors t.objects) (outer : c.scope = 1)
    (free : findVariable global.vars "Error" 0 = none) (object : global.object = none) (last : global.outer = none)
    (scopes : t.scopes = ((#[global]).push { outer := some globalScope }).push (throwerScope c id)) :
    Reads t (lookUp "Error" 2) Intrinsic.errorConstructor.value := by
  refine standard.named.reads_lookUp (reads_locate_global ?_)
  have size : t.scopes.size = 3 := by rw [scopes]; rfl
  have inner : t.scopes[2]? = some (throwerScope c id) := by rw [scopes]; rfl
  have middle : t.scopes[1]? = some { outer := some globalScope } := by rw [scopes]; rfl
  have first : t.scopes[0]? = some global := by rw [scopes]; rfl
  have beyond : (throwerScope c id).outer = some 1 := congrArg some outer
  rw [size, locate_beyond inner (findVariable_other (by decide)) rfl, beyond]
  change t.locate "Error" 2 1 = _
  rw [locate_beyond middle findVariable_nil rfl]
  change t.locate "Error" 1 0 = _
  rw [locate_beyond first free object, last]
  rfl

def thrown? : List Stmt → Option (String × String)
  | [.expression (.function none false false false [] [.param [] modifiers (.identifier parameter) none none] none
      (some [.throw (.new (.identifier callee) [] [.string (.plain message) raw] false)]))] =>
    if modifiers = {} ∧ parameter = runtimeParameter ∧ callee = "Error" then some (message, raw) else none
  | _ => none

theorem eq_thrower {body : List Stmt} (h : thrown? body = some (message, raw)) :
    body = [.expression (thrower message raw)] := by
  unfold thrown? at h
  split at h
  · split at h
    · rename_i parts
      obtain ⟨rfl, rfl, rfl⟩ := parts
      cases h
      rfl
    · cases h
  · cases h

/-- A unit that only throws does so where no scope but that of the globals is around. -/
theorem throws_of_read {global : Machine.Scope} (standard : StandardErrors s.objects) (scopes : s.scopes = #[global])
    (free : findVariable global.vars "Error" 0 = none) (object : global.object = none) (last : global.outer = none)
    (room : Room 10 Sandbox.taskDepth s)
    (read : readPlain false (Sandbox.wrapped script) = .ok [.expression (thrower m raw)]) :
    ∃ v t, Sandbox.Throws s script v t ∧ StandardErrors t.objects ∧ IsError t.objects v m := by
  have standard' : StandardErrors (behindThrower s m raw).objects := standard.extends behindThrower_extends
  obtain ⟨o, at_, kind⟩ := behindThrower_place s m raw
  have called : Ends 10 (Sandbox.entryOf (.object s.objects.size)) (behindThrower s m raw) (fun _ _ => False)
      fun v t => IsError t.objects v m ∧ StandardErrors t.objects := by
    refine Ends.bind (Q := fun _ _ => False) (ends_throwerCall standard' at_ kind ?_) fun _ _ _ none => none.elim
    intro t same opened
    rw [behindThrower_scopes, scopes] at opened ⊢
    exact reads_errorName (same ▸ standard') rfl free object last opened
  rcases called.outcome (level_behindThrower.room.mpr room) with ⟨_, _, _, _, none⟩ | ⟨v, t, thrown, error, standard''⟩
  · exact none.elim
  · have callable : (behindThrower s m raw).isCallable (.object s.objects.size) = true := by
      rw [State.isCallable, object_of_place at_, kind]
    refine ⟨v, t, .evaluating ?_ callable thrown, standard'', error⟩
    have made : Sandbox.factory script (Machine.engine builtins Sandbox.taskDepth) s = _ :=
      factory_thrower 999998 read
    unfold Sandbox.attempt
    dsimp only
    rw [made]

/-- The state in which a sandbox with the usual limits begins. -/
def freshState : Machine.State := .initial { loops := 1000000, calls := 512 }

theorem ofConfig_state : (Sandbox.ofConfig {}).state = .ok freshState := by
  rw [Sandbox.ofConfig, if_neg (by decide)]
  rfl

theorem throws_of_thrown (script message raw : String)
    (read : (readPlain false (Sandbox.wrapped script)).toOption.bind thrown? = some (message, raw)) :
    ∃ v t, Sandbox.Throws freshState script v t ∧ StandardErrors t.objects ∧ IsError t.objects v message := by
  have body : readPlain false (Sandbox.wrapped script) = .ok [.expression (thrower message raw)] := by
    cases parsed : readPlain false (Sandbox.wrapped script) with
    | error complaint =>
      rw [parsed] at read
      cases read
    | ok body =>
      rw [parsed] at read
      rw [eq_thrower read]
  refine throws_of_read (standardErrors_initial _) rfl findVariable_nil rfl rfl ⟨by decide, ?_, ?_⟩ body
  · change 0 + 10 ≤ 512
    decide
  · change 0 + 10 ≤ 1024
    decide

def withUnbound (entry : String) (s : Machine.State) : Machine.State :=
  { s with scopes := s.scopes.push { vars := #[(entry, { value := some .undefined })], outer := some globalScope } }

theorem withUnbound_objects : (withUnbound entry s).objects = s.objects := rfl

theorem resolves_unbound (one : s.scopes.size = 1) :
    Resolves (withUnbound entry s) ⟨1, globalScope, true⟩ entry (some .undefined) := by
  rintro t kept -
  have at_ : t.scopes[1]? = some { vars := #[(entry, { value := some .undefined })], outer := some globalScope } := by
    rw [kept.scopes, ← one]
    exact Array.getElem?_push_size
  have located : t.locate entry t.scopes.size 1 = .variable 1 0 := by
    have size : t.scopes.size = 1 + 1 := by
      rw [kept.scopes, withUnbound, Array.size_push, one]
    rw [size, State.locate, at_]
    dsimp only
    rw [findVariable_here]
  have place : Reads t (locate entry 1) (.variable 1 0) := by
    refine reads_get.bind ?_
    rw [located]
    exact reads_pure _
  refine place.bind (reads_get.bind ?_)
  rw [State.variableAt?, at_]
  exact reads_pure _

theorem resolves_error {global : Machine.Scope} (standard : StandardErrors s.objects) (scopes : s.scopes = #[global])
    (free : findVariable global.vars "Error" 0 = none) (object : global.object = none) (last : global.outer = none)
    (other : entry ≠ "Error") :
    Resolves (withUnbound entry s) ⟨1, globalScope, true⟩ "Error" (some Intrinsic.errorConstructor.value) := by
  intro t kept same
  have around : t.scopes = #[global].push { vars := #[(entry, { value := some .undefined })], outer := some globalScope } := by
    rw [kept.scopes, withUnbound, scopes]
  have inner : t.scopes[1]? = some { vars := #[(entry, { value := some .undefined })], outer := some globalScope } := by
    rw [around]
    rfl
  have first : t.scopes[0]? = some global := by
    rw [around]
    rfl
  have size : t.scopes.size = 2 := by
    rw [around]
    rfl
  have located : t.locate "Error" t.scopes.size 1 = .global := by
    rw [size, locate_beyond inner (findVariable_other other) rfl]
    change t.locate "Error" 1 0 = _
    rw [locate_beyond first free object, last]
    rfl
  have standard' : StandardErrors t.objects := same ▸ standard
  obtain ⟨o, w, e, c, at_, own⟩ := standard'.named
  refine (reads_locate_global located).bind (reads_get.bind ?_)
  rw [show t.find _ t.objects.size _ = _ from at_.finds own]
  exact reads_pure _

end Thrower

theorem Pipeline.run_failed {engines : Engines} {p : Pipeline} {source : String} {u : Sanitized} {e : Failure}
    (sound : SoundMemo p.config p.memo) (sanitized : Sanitized.ofSource p.config (engines.format source).text = .ok u)
    (lowered : engines.lower u.assemble = .ok script) (failed : engines.execute p.config script = .error e) :
    (p.run engines source).1 = (PageState.formatting.applyFormatted (engines.format source)).fail e := by
  have result : compiled engines p.config (engines.format source).text = .error e := by
    unfold compiled
    rw [sanitized]
    change finish engines p.config u = _
    unfold finish
    rw [lowered]
    change (engines.execute p.config script >>= _) = _
    rw [failed]
    rfl
  rw [run_state engines sound]
  change PageState.applyCompiled _ (compiled engines p.config (engines.format source).text) = _
  rw [result]
  rfl

/-- The failure of a run as it shows, for a page's error with a message that is not blank. -/
theorem message_failureOf_eq (unblank : (Text.trim message.toList).isEmpty = false) :
    (Sandbox.failureOf message).stage = .execution ∧
      ((Sandbox.failureOf message).message = message ↔ ¬missingEntryMark.toList <+: message.toList) := by
  by_cases marked : missingEntryMark.toList <+: message.toList
  · obtain ⟨rest, rfl⟩ := Sandbox.eq_of_marked marked
    rw [Sandbox.failureOf_marked]
    refine ⟨rfl, iff_of_false (fun same => ?_) (not_not_intro marked)⟩
    have first : (Failure.missingEntry rest).message.toList.head? = some 'n' := by
      have words : "no default component was found to render (expected `".toList.head? = some 'n' := by decide +kernel
      change ("no default component was found to render (expected `" ++ rest ++ "`)").toList.head? = _
      simp only [String.toList_append, List.head?_append, words, Option.some_or]
    have other : (missingEntryMark ++ rest).toList.head? = some '_' := by
      have words : missingEntryMark.toList.head? = some '_' := by decide +kernel
      simp only [String.toList_append, List.head?_append, words, Option.some_or]
    rw [same, other] at first
    cases first
  · rw [Sandbox.failureOf_unmarked marked, Failure.thrown, unblank, if_neg Bool.false_ne_true]
    exact ⟨rfl, iff_of_true rfl marked⟩

/-- An error of a page is reported by its own message, unless that begins with the mark of a missing
entry. A missing entry is reported for complaints with the mark only, and a unit's check makes such a
complaint if its entry is unknown or undefined; any other entry is returned. -/
theorem errors_reported (s : Machine.State) (script : String) :
    (∀ (t : Machine.State) (message : String) (v : Value), Sandbox.Throws s script v t →
      StandardErrors t.objects → IsError t.objects v message → (Text.trim message.toList).isEmpty = false →
      ((Sandbox.renderIn s script).1 = .error (.runtime message) ↔ ¬missingEntryMark.toList <+: message.toList) ∧
      ∀ (engines : Engines) (p : Pipeline) (source : String) (u : Sanitized),
        Pipeline.SoundMemo p.config p.memo → (Sandbox.ofConfig p.config).state = .ok s →
        Sanitized.ofSource p.config (engines.format source).text = .ok u → engines.lower u.assemble = .ok script →
        engines.execute = Sandbox.execute →
        let page := (p.run engines source).1
        page.status = .error ∧ page.failureStage = some .execution ∧ page.resolvedUnit = none ∧
          (page.runtimeError = some message ↔ ¬missingEntryMark.toList <+: message.toList)) ∧
    (∀ (t : Machine.State) (entry : String), Sandbox.renderIn s script = (.error (.missingEntry entry), t) ↔
      Sandbox.Complains s script (missingEntryMark ++ entry) t) ∧
    ∀ (c : Machine.Context) (comments : List Comment) (entry : String) (found : Option Value),
      StandardErrors s.objects → Resolves s c "Error" (some Intrinsic.errorConstructor.value) →
      Resolves s c entry found → entry ≠ "undefined" →
      (found.getD .undefined = .undefined → Ends 8 (runList c (entryStmts comments entry) none) s (fun _ _ => False)
        fun v t => IsError t.objects v (missingEntryMark ++ entry)) ∧
      ∀ v, found = some v → v ≠ .undefined → Ends 5 (runList c (entryStmts comments entry) none) s
        (fun completion _ => completion = .return v) fun _ _ => False := by
  refine ⟨?_, fun t entry => Sandbox.renderIn_missingEntry, ?_⟩
  · intro t message v throws standard error unblank
    have nonempty : message ≠ "" := by
      rintro rfl
      cases unblank
    have rendered : Sandbox.renderIn s script = (.error (Sandbox.failureOf message), t) :=
      (throws.complains standard error nonempty).renderIn_eq
    refine ⟨?_, ?_⟩
    · rw [rendered]
      constructor
      · intro same
        refine (message_failureOf_eq unblank).2.mp ?_
        rw [Except.error.inj same]
        rfl
      · intro unmarked
        rw [Sandbox.failureOf_unmarked unmarked, Failure.thrown, unblank, if_neg Bool.false_ne_true]
    · intro engines p source u sound begun sanitized lowered same
      have executed : engines.execute p.config script = .error (Sandbox.failureOf message) := by
        rw [same, Sandbox.execute_eq begun, rendered]
      obtain ⟨stage, shown⟩ := message_failureOf_eq unblank
      intro page
      have ended : page = _ := Pipeline.run_failed sound sanitized lowered executed
      rw [ended]
      refine ⟨rfl, congrArg some stage, rfl, ?_⟩
      rw [← shown]
      exact Option.some_inj
  · intro c comments entry found standard named resolves other
    refine ⟨fun unbound => ?_, fun v bound defined => ends_check_bound resolves bound defined other⟩
    exact (ends_check_unbound resolves standard named unbound).mono (Nat.le_refl _) (fun _ _ _ h => h) fun _ _ h => h.1

theorem errors_reported_plain :
    (Sandbox.renderIn freshState "throw new Error('no');").1 = .error (.runtime "no") ∧
    (let engines : Engines := {
      format := fun source => ⟨source, none⟩
      lower := fun _ => .ok "throw new Error('no');"
      execute := Sandbox.execute }
    ((Pipeline.new {}).run engines "export default () => null;\n").1.runtimeError = some "no") ∧
    Ends 8 (runList ⟨1, globalScope, true⟩ (entryStmts [] "Page") none) (withUnbound "Page" freshState)
      (fun _ _ => False) fun v t => IsError t.objects v (missingEntryMark ++ "Page") := by
  obtain ⟨v, t, throws, standard, error⟩ :=
    throws_of_thrown "throw new Error('no');" "no" "no" (by decide +kernel)
  obtain ⟨own, -⟩ := errors_reported freshState "throw new Error('no');"
  obtain ⟨-, -, check⟩ := errors_reported (withUnbound "Page" freshState) ""
  have unmarked : ¬missingEntryMark.toList <+: "no".toList := by decide +kernel
  obtain ⟨rendered, run⟩ := own t "no" v throws standard error (by decide +kernel)
  refine ⟨rendered.mpr unmarked, ?_, ?_⟩
  · intro engines
    have sanitizes : (Sanitized.ofSource {} "export default () => null;\n").toOption.isSome = true := by decide +kernel
    cases sanitized : Sanitized.ofSource {} "export default () => null;\n" with
    | error e =>
      rw [sanitized] at sanitizes
      cases sanitizes
    | ok u =>
      obtain ⟨-, -, -, shown⟩ := run engines (.new {}) "export default () => null;\n" u (Pipeline.new_sound _)
        ofConfig_state sanitized rfl rfl
      exact shown.mpr unmarked
  · have standard' : StandardErrors freshState.objects := standardErrors_initial _
    exact (check ⟨1, globalScope, true⟩ [] "Page" (some .undefined)
      (withUnbound_objects.symm ▸ standard') (resolves_error standard' rfl findVariable_nil rfl rfl (by decide))
      (resolves_unbound rfl) (by decide)).1 rfl

/-- An error of a page whose message begins with the mark is taken for a missing entry. -/
theorem errors_unreported_marked : ∃ v t,
    Sandbox.Throws freshState "throw new Error('__missing_entry__:Page');" v t ∧
    IsError t.objects v "__missing_entry__:Page" ∧
    (Text.trim "__missing_entry__:Page".toList).isEmpty = false ∧
    Sandbox.renderIn freshState "throw new Error('__missing_entry__:Page');" = (.error (.missingEntry "Page"), t) ∧
    Sandbox.execute {} "throw new Error('__missing_entry__:Page');" = .error (.missingEntry "Page") := by
  obtain ⟨v, t, throws, standard, error⟩ :=
    throws_of_thrown "throw new Error('__missing_entry__:Page');" "__missing_entry__:Page" "__missing_entry__:Page"
      (by decide +kernel)
  have rendered := (throws.complains standard error (by decide)).renderIn_eq
  have failure : Sandbox.failureOf "__missing_entry__:Page" = .missingEntry "Page" := by decide +kernel
  rw [failure] at rendered
  refine ⟨v, t, throws, error, by decide +kernel, rendered, ?_⟩
  exact (Sandbox.execute_eq ofConfig_state).trans (congrArg Prod.fst rendered)

end PagePreview
