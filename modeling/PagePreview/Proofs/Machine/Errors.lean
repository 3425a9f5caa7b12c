import PagePreview.Machine.Display
import PagePreview.Proofs.Machine.Evaluate
import PagePreview.Proofs.Machine.Outcome
import PagePreview.Proofs.Machine.Realm

/-!
# Errors that a page throws

An error that `new Error(message)` made is reported by that message, and by its class if the message
is empty. This rests on the constructor of errors and its prototype, which a page may redefine.
-/

namespace PagePreview.Machine
open Script Run Builtin

variable {s t : State} {os os' : Array Object} {n fuel : Nat} {id p : Nat} {o o' o'' : Object} {k : Key}
  {v : Value} {message : String} {α : Type}

/-- The constructor of errors and its prototype are those of the machine, and errors have no cause that
they do not own. -/
structure StandardErrors (os : Array Object) : Prop where
  bare : Bare os
  named : Owns os Intrinsic.globalObject.id (.named "Error") Intrinsic.errorConstructor.value
  causeless : Lacks os Intrinsic.errorPrototype.id ["cause"]
  made : Owns os Intrinsic.errorPrototype.id .constructor Intrinsic.errorConstructor.value
  prototype : Owns os Intrinsic.errorConstructor.id .prototype Intrinsic.errorPrototype.value
  native : ∃ o captured, os[Intrinsic.errorConstructor.id]? = some o ∧
    o.kind = .native ⟨.error, "Error", captured, true⟩

theorem StandardErrors.extends (h : StandardErrors os) (more : Extends os os') : StandardErrors os' where
  bare := h.bare.extends more
  named := h.named.extends more
  causeless := h.causeless.extends more
  made := h.made.extends more
  prototype := h.prototype.extends more
  native := by
    obtain ⟨o, captured, at_, kind⟩ := h.native
    exact ⟨o, captured, more _ o at_, kind⟩

def IsError (os : Array Object) (v : Value) (message : String) : Prop :=
  ∃ id o, v = .object id ∧ os[id]? = some o ∧ o.kind = .error ∧
    o.proto = some Intrinsic.errorPrototype.id ∧
    o.ownProperty? .message = some (.unlisted (.string (.plain message))) ∧
    o.ownProperty? .constructor = none ∧ o.ownProperty? (.named "cause") = none

theorem Finds.reads_has {q : Property} (h : Finds s id k (.property q)) : Reads s (hasProperty id k) true := by
  rw [hasProperty, standInDepth, hasWithin]
  refine reads_get.bind ?_
  rw [show s.find k s.objects.size id = _ from h]
  exact reads_pure true

theorem Ordinary.finds_nothing_further {q : Nat} (h : Ordinary s.objects id o) (own : o.ownProperty? k = none)
    (proto : o.proto = some p) (h' : Ordinary s.objects p o') (own' : o'.ownProperty? k = none)
    (proto' : o'.proto = some q) (h'' : Ordinary s.objects q o'') (own'' : o''.ownProperty? k = none)
    (last : o''.proto = none) : Finds s id k .missing := by
  obtain ⟨n, size⟩ : ∃ n, s.objects.size = n + 1 := ⟨s.objects.size - 1, by have := size_of_place h.place; omega⟩
  rw [Finds, size, find_behind h own proto]
  cases n with
  | zero => rfl
  | succ n =>
    rw [find_behind h' own' proto']
    exact find_nowhere h'' own'' last

theorem StandardErrors.isConstructor (h : StandardErrors s.objects) :
    s.isConstructor Intrinsic.errorConstructor.value = true := by
  obtain ⟨o, captured, at_, kind⟩ := h.native
  obtain ⟨n, size⟩ : ∃ n, s.objects.size = n + 1 := ⟨s.objects.size - 1, by have := size_of_place at_; omega⟩
  rw [State.isConstructor, size, Intrinsic.value, State.isConstructorFrom, object_of_place at_, kind]

theorem IsError.reads_messageOf? (standard : StandardErrors s.objects) (h : IsError s.objects (.object id) message) :
    Reads s (messageOf? id) (some message) := by
  obtain ⟨_, o, same, at_, kind, proto, own, unmade, uncaused⟩ := h
  cases same
  have here : Ordinary s.objects id o := ⟨at_, by rw [kind]; rfl⟩
  obtain ⟨o', there, proto', lacks⟩ := standard.causeless
  obtain ⟨o'', last, first, free⟩ := standard.bare
  obtain ⟨o₁, w, e, c, there', owns⟩ := standard.made
  have other : Intrinsic.errorPrototype.id ≠ id := by
    rintro rfl
    rw [there'.place] at at_
    cases at_
    rw [unmade] at owns
    cases owns
  have message_found : Finds s id .message _ := here.finds own
  have cause_missing : Finds s id (.named "cause") .missing :=
    here.finds_nothing_further uncaused proto there (lacks "cause" (by simp)) proto' last
      (free "cause" (by decide)) first
  have maker_found : Finds s id .constructor (.property (.data Intrinsic.errorConstructor.value w e c)) :=
    here.finds_behind unmade proto other there' owns
  unfold messageOf?
  refine Reads.guarded ?_
  refine message_found.reads_has.bind ?_
  refine Reads.bind (a := .string (.plain message)) (show Reads s (getFrom id .message _) _ from message_found.reads) ?_
  refine cause_missing.reads_undefined.bind ?_
  refine maker_found.reads.bind ?_
  refine reads_get.bind ?_
  rw [standard.isConstructor]
  exact reads_pure _

theorem IsError.reads_report (standard : StandardErrors s.objects) (h : IsError s.objects v message)
    (nonempty : message ≠ "") : Reads s (report v) message := by
  obtain ⟨id, o, rfl, at_, kind, rest⟩ := h
  have read : Reads s (messageOf? id) (some message) :=
    IsError.reads_messageOf? standard ⟨id, o, rfl, at_, kind, rest⟩
  unfold report
  dsimp only
  refine (reads_objectAt id).bind ?_
  rw [object_of_place at_, kind]
  dsimp only
  refine read.bind ?_
  split
  · rename_i same
    exact absurd (Option.some.inj same) nonempty
  · rename_i same
    cases same
    exact reads_pure _
  · rename_i same
    cases same

theorem own_of_table {o : Object} (kind : o.kind = .error) : o.ownProperty? k = o.properties.get? k := by
  unfold Object.ownProperty?
  rw [kind]

theorem gives_makeError (standard : StandardErrors s.objects) (message : String) :
    Gives n (makeError "Error" #[.string (.plain message)] (some Intrinsic.errorConstructor.id)) s
      fun v os => IsError os v message ∧ Extends s.objects os := by
  have proto : Reads s (madeFor (some Intrinsic.errorConstructor.id) .errorPrototype) Intrinsic.errorPrototype.id := by
    refine standard.prototype.reads.bind ?_
    exact reads_pure _
  unfold makeError
  dsimp only
  refine proto.gives_bind ?_
  refine (gives_allocate (P := fun id os => id = s.objects.size ∧
    os = s.objects.push { proto := some Intrinsic.errorPrototype.id, kind := .error }) ⟨rfl, rfl⟩).bind ?_
  rintro id t - ⟨rfl, objects⟩
  have single : ("Error" == "AggregateError") = false := by decide
  simp only [single, Bool.false_eq_true, if_false]
  have written : Reads t (toText (.string (.plain message))) (.plain message) := reads_pure _
  refine written.gives_bind ((gives_update (P := fun _ os => ∃ o, os[s.objects.size]? = some o ∧
    o.kind = .error ∧ o.proto = some Intrinsic.errorPrototype.id ∧ Extends s.objects os ∧
    o.properties = Properties.insert {} .message (.unlisted (.string (.plain message)))) ?_).bind ?_)
  · refine ⟨_, modify_here (objects ▸ push_last _ _), rfl, rfl, ?_, rfl⟩
    exact (objects ▸ extends_push _ _ : Extends s.objects t.objects).modify (Nat.le_refl _)
  · rintro - u - ⟨o, at_, kind, proto, more, properties⟩
    refine gives_pure ⟨⟨_, o, rfl, at_, kind, proto, ?_⟩, more⟩
    have table (k : Key) : o.ownProperty? k =
        if k = .message then some (.unlisted (.string (.plain message))) else ({} : Properties).get? k := by
      rw [own_of_table kind, properties]
      exact Properties.Sound.empty.get?_insert _ _ _
    rw [table, table, table]
    exact ⟨if_pos rfl, (if_neg (by decide)).trans (Properties.Sound.empty.get?_eq _),
      (if_neg (by decide)).trans (Properties.Sound.empty.get?_eq _)⟩

theorem gives_construct {g : Native} {args : Array Value} {P : Value → Array Object → Prop}
    (native : (s.object id).kind = .native g) (h : Gives n (builtins g .undefined args (some id)) s P) :
    Gives (n + 1) (construct id args id) s P := by
  have made : Gives n (constructValue builtins id args id) s P := by
    refine (reads_objectAt id).gives_bind ?_
    rw [native]
    exact h
  exact Gives.map (g := valueOf) (gives_perform (Gives.map (g := fun v => Completion.normal (some v)) made))

section Throwing

variable {c : Context} (standard : StandardErrors s.objects)
  (named : Reads s (lookUp "Error" c.scope) Intrinsic.errorConstructor.value)

include standard named

theorem gives_newError (message raw : String) (isPure : Bool) :
    Gives 4 (evaluate c (.new (.identifier "Error") [] [.string (.plain message) raw] isPure)) s fun v os =>
      IsError os v message ∧ Extends s.objects os := by
  have callee : Gives 1 (evaluate c (.identifier "Error")) s fun v os =>
      v = Intrinsic.errorConstructor.value ∧ os = s.objects :=
    gives_evaluate (n := 0) (Reads.gives (show Reads s (lookUp "Error" c.scope) _ from named) ⟨rfl, rfl⟩)
  have args (t : State) : Gives 3 (argumentsFrom c 1 [.string (.plain message) raw]) t fun out os =>
      out = #[.string (.plain message)] ∧ Extends t.objects os := by
    refine (gives_argumentsFrom (k := 1) (.cons (yields_string (.plain message) raw) .nil)).mono (Nat.le_refl _) ?_
    rintro out os ⟨all, more⟩
    refine ⟨?_, more⟩
    generalize values : out.toList = vs at all
    obtain _ | ⟨rfl, _ | _⟩ := all
    exact Array.toList_inj.mp values
  refine gives_evaluate (n := 3) ((callee.more (by omega)).bind ?_)
  rintro _ t - ⟨rfl, same⟩
  refine (args t).bind ?_
  rintro _ u - ⟨rfl, more⟩
  have standard' : StandardErrors u.objects := (same ▸ standard).extends more
  refine reads_get.gives_bind ?_
  obtain ⟨o, captured, at_, kind⟩ := standard'.native
  rw [standard'.isConstructor]
  refine (gives_construct (n := 1) (by rw [object_of_place at_, kind]) ?_).more (by omega)
  refine gives_checkLimits.bind ?_
  intro _ w _ same'
  refine ((gives_makeError (same' ▸ standard') message).mono (Nat.zero_le 1) ?_)
  rintro v os ⟨made, more'⟩
  exact ⟨made, (same ▸ more).trans (same' ▸ more')⟩

theorem ends_throwError (message raw : String) (isPure : Bool) {Q : Completion → State → Prop} :
    Ends 5 (execute c (.throw (.new (.identifier "Error") [] [.string (.plain message) raw] isPure))) s Q
      fun v t => IsError t.objects v message ∧ StandardErrors t.objects := by
  refine ends_execute ((gives_newError standard named message raw isPure).ends_bind ?_)
  rintro v t - ⟨made, more⟩
  exact ends_throw ⟨made, standard.extends more⟩

end Throwing

namespace Realm

def isConstructor : Kind → Bool
  | .native f => f.isConstructor
  | _ => false

def reportsErrors (p : Plan) : Bool :=
  sharesWithin p.size p.acts && isBare p &&
  givesSame p .globalObject "Error" Intrinsic.errorConstructor.value &&
  leavesOut p .errorPrototype ["cause"] &&
  givesSame p .errorPrototype "constructor" Intrinsic.errorConstructor.value &&
  givesSame p .errorConstructor "prototype" Intrinsic.errorPrototype.value &&
  (Intrinsic.errorConstructor.id < p.size &&
    isNative .error "Error" (blueprint Intrinsic.errorConstructor.id p.acts).kind &&
    isConstructor (blueprint Intrinsic.errorConstructor.id p.acts).kind)

theorem plan_reportsErrors : reportsErrors plan = true := by decide +kernel

theorem standardErrors_of_reportsErrors {p : Plan} (checked : reportsErrors p = true) :
    StandardErrors p.objects := by
  simp only [reportsErrors, Bool.and_eq_true] at checked
  obtain ⟨⟨⟨⟨⟨⟨shares, bare⟩, named⟩, causeless⟩, made⟩, prototype⟩, ⟨bound, native⟩, constructs⟩ := checked
  refine ⟨bare_of_isBare shares bare, owns_of_givesSame shares named, lacks_of_leavesOut shares causeless,
    owns_of_givesSame shares made, owns_of_givesSame shares prototype, ?_⟩
  obtain ⟨o, at_, left⟩ := left_object shares (of_decide_eq_true bound)
  obtain ⟨id, o', captured, constructor, same, at', kind⟩ := isFunction_of_isNative shares (of_decide_eq_true bound) native
  cases same
  obtain rfl : o' = o := Option.some.inj (at'.symm.trans at_)
  rw [← left.kind, kind] at constructs
  exact ⟨_, captured, at_, kind.trans (by rw [show constructor = true from constructs])⟩

end Realm

theorem standardErrors_initial (limits : Limits) : StandardErrors (State.initial limits).objects := by
  dsimp only [State.initial]
  exact Realm.standardErrors_of_reportsErrors Realm.plan_reportsErrors

end PagePreview.Machine
