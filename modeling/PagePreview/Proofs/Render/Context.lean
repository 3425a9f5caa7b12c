import PagePreview.Proofs.Machine.Unharmed
import PagePreview.Proofs.Render.Props

/-!
# Contexts and what they hold

A context is an object with a current value and a list of the values from before. Below the providers
around a place of a page, its current value is that of the nearest one, or the default. A provider
pushes the value from before, and takes it back however the step it surrounds ends.
-/

namespace PagePreview.Contexts
open Script Machine Run Builtin Render

variable {s t u : State} {os os' : Array Object} {n id : Nat} {v x : Value} {vs around : List Value}

theorem pushElement_listOf : (listOf vs).pushElement v = listOf (vs ++ [v]) := by
  simp [listOf, Object.pushElement]

theorem gives_setAt (at_ : s.objects[id]? = some (listOf vs)) : Gives n (setAt id vs.length v) s fun _ os =>
    os = s.objects.modify id (·.pushElement v) := by
  have free : (s.element? id vs.length).isSome = false := by
    rw [State.element?, object_of_place at_]
    simp [listOf]
  have room : s.canPush id vs.length = true := by
    rw [State.canPush, object_of_place at_]
    simp [listOf]
  refine reads_get.gives_bind ?_
  rw [free, room]
  exact gives_update rfl

theorem gives_listPush (at_ : s.objects[id]? = some (listOf vs)) :
    Gives n (listChange "push" id #[v]) s fun _ os => os = s.objects.modify id (·.pushElement v) := by
  refine (reads_lengthOf at_).gives_bind ?_
  refine Gives.bind (P := fun _ os => os = s.objects.modify id (·.pushElement v)) ?_ ?_
  · rw [List.forIn_toArray, List.forIn_cons]
    refine (Gives.bind (gives_setAt at_) fun _ t _ objects => gives_pure ⟨rfl, objects⟩ : Gives n _ s
      fun r os => r = ForInStep.yield (vs.length + 1) ∧ os = s.objects.modify id (·.pushElement v)).bind ?_
    rintro _ t - ⟨rfl, objects⟩
    exact gives_pure objects
  · rintro _ t - objects
    refine (reads_objectAt id).gives_bind ?_
    rw [object_of_place (objects ▸ modify_here at_), pushElement_listOf]
    exact gives_pure objects

theorem gives_listPop (at_ : s.objects[id]? = some (listOf (vs ++ [v]))) :
    Gives n (listChange "pop" id #[]) s fun w os => w = v ∧ ∃ g : Object → Object,
      os = s.objects.modify id g ∧ g (listOf (vs ++ [v])) = listOf vs := by
  have last : (vs ++ [v]).length - 1 < (vs ++ [v]).length := by simp
  have value : (vs ++ [v])[(vs ++ [v]).length - 1] = v := by simp
  refine (reads_lengthOf at_).gives_bind ?_
  have some_there : ((vs ++ [v]).length == 0) = false := by simp
  change Gives n (if ((vs ++ [v]).length == 0) = true then _ else _) s _
  rw [some_there, if_neg Bool.false_ne_true]
  refine (reads_getAt at_ last).gives_bind ?_
  have plain : s.isPlainList id = true := by
    rw [State.isPlainList, object_of_place at_]
    simp [listOf]
  have elements : Reads s (plainElements? id) (some ((vs ++ [v]).toArray.map some)) := by
    refine reads_get.bind ?_
    rw [plain, object_of_place at_]
    exact reads_pure _
  refine elements.gives_bind ?_
  refine (gives_update (P := fun _ os => ∃ g : Object → Object, os = s.objects.modify id g ∧
    g (listOf (vs ++ [v])) = listOf vs)
    ⟨_, rfl, ?_⟩).bind fun _ t _ changed => gives_pure ⟨value, changed⟩
  simp [listOf]

theorem gives_listCall {f : Value} {name : String} {args : Array Value} {P : Value → Array Object → Prop}
    (function : IsFunction s.objects f .array name)
    (opened : ∀ captured isConstructor, builtins ⟨.array, name, captured, isConstructor⟩ (.object id) args none = (do
      checkLimits
      listChange name id args))
    (h : ∀ t, t.objects = s.objects → Gives n (listChange name id args) t P) :
    Gives (n + 2) (Run.call f (.object id) args) s P := by
  obtain ⟨f, o, captured, isConstructor, rfl, place, kind⟩ := function
  refine gives_call (n := n + 1) (by rw [object_of_place place, kind]) ?_
  rw [opened]
  exact (gives_checkLimits.more (by omega)).bind fun _ t _ same => (h t same).more (by omega)

theorem gives_push {f : Value} (function : IsFunction s.objects f .array "push")
    (at_ : s.objects[id]? = some (listOf vs)) : Gives 2 (Run.call f (.object id) #[v]) s fun _ os =>
      os = s.objects.modify id (·.pushElement v) := by
  refine gives_listCall (n := 0) function (fun captured isConstructor => ?_) fun t same => ?_
  · unfold builtins
    rfl
  · rw [← same]
    exact gives_listPush (same ▸ at_)

theorem gives_pop {f : Value} (function : IsFunction s.objects f .array "pop")
    (at_ : s.objects[id]? = some (listOf (vs ++ [v]))) : Gives 2 (Run.call f (.object id) #[]) s fun w os =>
      w = v ∧ ∃ g : Object → Object, os = s.objects.modify id g ∧ g (listOf (vs ++ [v])) = listOf vs := by
  refine gives_listCall (n := 0) function (fun captured isConstructor => ?_) fun t same => ?_
  · unfold builtins
    rfl
  · rw [← same]
    exact gives_listPop (same ▸ at_)

/-- A context by the places of its object and of its list, with its default. -/
structure PageContext where
  place : Nat
  stack : Nat
  default : Value

namespace PageContext

/-- The value of a context inside some providers, of which the nearest comes first. -/
def nearest (c : PageContext) (around : List Value) : Value := around.headD c.default

def saved (c : PageContext) (around : List Value) : List Value := (around ++ [c.default]).tail.reverse

variable {c : PageContext}

theorem saved_cons (c : PageContext) (x : Value) (around : List Value) :
    c.saved (x :: around) = c.saved around ++ [c.nearest around] := by
  cases around with
  | nil => rfl
  | cons y around => simp [saved, nearest]

end PageContext

/-- Which values the providers around a place give to the context at each place, the nearest first. -/
abbrev Surroundings := Nat → List Value

structure Stands (os : Array Object) (c : PageContext) (around : List Value) : Prop where
  context : ∃ o f, os[c.place]? = some o ∧ Holds o f ∧
    f (.named "_currentValue") = some (c.nearest around) ∧ f (.named "_stack") = some (.object c.stack)
  stack : os[c.stack]? = some (listOf (c.saved around))

theorem Stands.extends {c : PageContext} (h : Stands os c around) (more : Extends os os') : Stands os' c around where
  context := by
    obtain ⟨o, f, at_, rest⟩ := h.context
    exact ⟨o, f, more _ o at_, rest⟩
  stack := more _ _ h.stack

theorem Stands.reads_current {c : PageContext} (h : Stands s.objects c around) :
    Reads s (renderHost.prop (.object c.place) "_currentValue") (c.nearest around) := by
  obtain ⟨o, f, at_, holds, current, -⟩ := h.context
  exact holds.reads at_ current _

/-- The contexts of a page, and the store behind which they were made; what rendering and providers rest
on is there the machine's own. -/
structure Page where
  base : Array Object
  contexts : List PageContext
  standard : Standard base
  assignable : Assignable base
  push : Answers base .arrayPrototype "push" .array "push"
  pop : Answers base .arrayPrototype "pop" .array "pop"
  samePlace : ∀ c ∈ contexts, ∀ d ∈ contexts, c.place = d.place → c = d
  sameStack : ∀ c ∈ contexts, ∀ d ∈ contexts, c.stack = d.stack → c = d
  behind : ∀ c ∈ contexts, base.size ≤ c.place ∧ base.size ≤ c.stack

namespace Page

variable {p : Page} {env : Surroundings} {c d : PageContext}

/-- The places that change while a page is rendered. -/
def moving (p : Page) : List Nat := p.contexts.flatMap fun c => [c.place, c.stack]

theorem place_mem (mem : c ∈ p.contexts) : c.place ∈ p.moving := by
  exact List.mem_flatMap.mpr ⟨c, mem, by simp⟩

theorem stack_mem (mem : c ∈ p.contexts) : c.stack ∈ p.moving := by
  exact List.mem_flatMap.mpr ⟨c, mem, by simp⟩

/-- A state inside of providers: each context is as they make it, and rendering rests on the machine's
own objects. -/
structure Within (p : Page) (env : Surroundings) (s : State) : Prop where
  base : Extends p.base s.objects
  contexts : ∀ c ∈ p.contexts, Stands s.objects c (env c.place)
  globals : ∀ name ∈ ["Object", "Array", "String"], Unshadowed s.scopes name
  joining : ∀ id ∈ s.joining, id < s.objects.size

namespace Within

theorem ready (h : p.Within env s) : Ready s := ⟨p.standard.extends h.base, h.globals, h.joining⟩

theorem assignable (h : p.Within env s) : Assignable s.objects := p.assignable.extends h.base

theorem unharmed (h : p.Within env s) (unharmed : Unharmed s t) : p.Within env t where
  base := h.base.trans unharmed.objects
  contexts c mem := (h.contexts c mem).extends unharmed.objects
  globals := (unharmed.ready h.ready).globals
  joining := (unharmed.ready h.ready).joining

theorem entered (h : p.Within env s) (k : Nat) : p.Within env (s.entered k) :=
  ⟨h.base, h.contexts, h.globals, h.joining⟩

theorem apart (h : p.Within env s) (mem : c ∈ p.contexts) (mem' : d ∈ p.contexts) : c.place ≠ d.stack := by
  intro same
  obtain ⟨o, f, at_, holds, -⟩ := (h.contexts c mem).context
  have list := (h.contexts d mem').stack
  rw [← same, at_] at list
  have kind := holds.kind
  rw [Option.some.inj list] at kind
  cases kind

end Within

/-- Wherever all objects of the state still are, a context that is asked for has the value of the nearest
provider around, or its default. -/
def Reading (p : Page) (env : Surroundings) (s : State) : Prop :=
  ∀ c ∈ p.contexts, ∀ t : State, Extends s.objects t.objects → ∀ (f this : Value) (args : Array Value),
    IsFunction t.objects f .page "useContext" → argument args 0 = .object c.place →
      Gives (args.size + 4) (Run.call f this args) t fun v os => v = c.nearest (env c.place) ∧ os = t.objects

theorem Reading.extends (h : p.Reading env s) (more : Extends s.objects t.objects) : p.Reading env t :=
  fun c mem u more' => h c mem u (more.trans more')

theorem pageResult_useContext (captured : List Value) (isConstructor : Bool) (this : Value) (args : Array Value) :
    pageResult ⟨.page, "useContext", captured, isConstructor⟩ this args =
      Hook.useContext renderHost (argument args 0) := by
  unfold pageResult
  rfl

theorem Within.reading (h : p.Within env s) : p.Reading env s := by
  intro c mem t more f this args function first
  have inside : Stands (t.entered (args.size + 2)).objects c (env c.place) := (h.contexts c mem).extends more
  refine (gives_pageCall (n := 0) function (by decide) fun captured isConstructor => ?_).more (by omega)
  rw [pageResult_useContext, first]
  exact inside.reads_current.gives ⟨rfl, rfl⟩

def provided (os : Array Object) (c : PageContext) (current x : Value) : Array Object :=
  (os.modify c.stack (·.pushElement current)).modify c.place (·.store (.named "_currentValue") (.plain x))

theorem provided_besides (mem : c ∈ p.contexts) (current x : Value) :
    Besides p.moving os (provided os c current x) :=
  (besides_modify (stack_mem mem)).trans (besides_modify (place_mem mem))

theorem base_modify {g : Object → Object} (h : Extends p.base os) (mem : id ∈ p.moving) :
    Extends p.base (os.modify id g) := by
  obtain ⟨c, mem, here⟩ := List.mem_flatMap.mp mem
  have behind := p.behind c mem
  simp only [List.mem_cons, List.not_mem_nil, or_false] at here
  rcases here with rfl | rfl
  · exact h.modify behind.1
  · exact h.modify behind.2

theorem Within.provided (h : p.Within env s) (mem : c ∈ p.contexts) (x : Value) (around : Around s t)
    (objects : t.objects = Page.provided s.objects c (c.nearest (env c.place)) x) :
    p.Within (Function.update env c.place (x :: env c.place)) t where
  base := by
    rw [objects]
    exact base_modify (base_modify h.base (stack_mem mem)) (place_mem mem)
  contexts d mem' := by
    have apart := h.apart mem mem
    obtain ⟨o, f, at_, holds, current, stack⟩ := (h.contexts d mem').context
    have list := (h.contexts d mem').stack
    rw [objects]
    by_cases same : d.place = c.place
    · obtain rfl := p.samePlace d mem' c mem same
      rw [Function.update_self]
      refine ⟨⟨_, _, modify_here (modify_there (Ne.symm apart) at_), holds.store _ x, ?_, ?_⟩, ?_⟩
      · exact Function.update_self ..
      · rw [Function.update_of_ne (by decide)]
        exact stack
      · rw [PageContext.saved_cons, ← pushElement_listOf]
        exact modify_there apart (modify_here list)
    · have other : c.stack ≠ d.stack := fun same' => same (congrArg _ (p.sameStack d mem' c mem same'.symm))
      rw [Function.update_of_ne same]
      refine ⟨⟨o, f, ?_, holds, current, stack⟩, ?_⟩
      · exact modify_there (Ne.symm same) (modify_there (Ne.symm (h.apart mem' mem)) at_)
      · exact modify_there (h.apart mem mem') (modify_there other list)
  globals := by
    rw [around.scopes]
    exact h.globals
  joining id here := by
    rw [around.joining] at here
    rw [objects, Page.provided, Array.size_modify, Array.size_modify]
    exact h.joining id here

theorem Within.restored (h : p.Within env s) (mem : c ∈ p.contexts) {g : Object → Object}
    (inside : Extends (Page.provided s.objects c (c.nearest (env c.place)) x) os)
    (popped : g (listOf (c.saved (env c.place) ++ [c.nearest (env c.place)])) = listOf (c.saved (env c.place))) :
    Extends s.objects ((os.modify c.stack g).modify c.place
      (·.store (.named "_currentValue") (.plain (c.nearest (env c.place))))) := by
  have apart := h.apart mem mem
  obtain ⟨o, f, at_, holds, current, -⟩ := (h.contexts c mem).context
  have list := (h.contexts c mem).stack
  intro id o' there
  by_cases here : id = c.place
  · subst here
    obtain rfl := Option.some.inj (at_.symm.trans there)
    have changed := inside _ _ (modify_here (modify_there (Ne.symm apart) at_))
    rw [modify_here (modify_there (Ne.symm apart) changed), holds.store_back current]
  by_cases here' : id = c.stack
  · subst here'
    obtain rfl := Option.some.inj (list.symm.trans there)
    have changed := inside _ _ (modify_there apart (modify_here list))
    rw [pushElement_listOf] at changed
    rw [modify_there apart (modify_here changed), popped]
  have kept := inside _ _ (modify_there (Ne.symm here) (modify_there (Ne.symm here') there))
  exact modify_there (Ne.symm here) (modify_there (Ne.symm here') kept)

/-- What a provider does at the end: the context and its list are again what they were. -/
theorem Within.gives_restored (h : p.Within env s) (mem : c ∈ p.contexts)
    (inside : Extends (Page.provided s.objects c (c.nearest (env c.place)) x) t.objects)
    (within : p.Within (Function.update env c.place (x :: env c.place)) t) :
    Gives 2 (do
      let stack ← renderHost.prop (.object c.place) "_stack"
      let before ← renderHost.invoke stack "pop" []
      renderHost.setProp (.object c.place) "_currentValue" before) t fun _ os =>
        Extends s.objects os ∧ Besides p.moving t.objects os := by
  have stands := within.contexts c mem
  rw [Function.update_self] at stands
  obtain ⟨o, f, at_, holds, -, stack⟩ := stands.context
  have list := stands.stack
  rw [PageContext.saved_cons] at list
  obtain ⟨pop, owns, function⟩ := p.pop.extends within.base
  refine (holds.reads at_ stack _).gives_bind ?_
  have method : Reads t (renderHost.prop (.object c.stack) "pop") pop :=
    reads_listMethod list owns (by decide) (by decide)
  have popped : Gives 2 (renderHost.invoke (.object c.stack) "pop" []) t fun w os => w = c.nearest (env c.place) ∧
      ∃ g : Object → Object, os = t.objects.modify c.stack g ∧
        g (listOf (c.saved (env c.place) ++ [c.nearest (env c.place)])) = listOf (c.saved (env c.place)) :=
    method.gives_bind (gives_pop function list)
  refine popped.bind ?_
  rintro _ u kept ⟨rfl, g, objects, taken⟩
  have free : Assignable u.objects := by
    rw [objects]
    exact p.assignable.extends (base_modify within.base (stack_mem mem))
  have place : u.objects[c.place]? = some o := by
    rw [objects]
    exact modify_there (Ne.symm (within.apart mem mem)) at_
  refine gives_assign holds place free (by decide) ?_
  rw [objects]
  exact ⟨h.restored mem inside taken, (besides_modify (stack_mem mem)).trans (besides_modify (place_mem mem))⟩

/-- A step that a provider surrounds is run with the value provided; however it ends, nothing is harmed. -/
theorem Within.comesTo_providing {α : Type} {value : Run Value} {step : Run α} {out : Outcome p.moving α}
    (h : p.Within env s) (mem : c ∈ p.contexts)
    (given : ∀ t, Later p.moving s t → Ready t → Reads t value x)
    (inner : ∀ t, Later p.moving s t → p.Within (Function.update env c.place (x :: env c.place)) t →
      ComesTo n step t out) : ComesTo (n + 2) (providing renderHost (.object c.place) value step) s out := by
  obtain ⟨o, f, at_, holds, current, stack⟩ := (h.contexts c mem).context
  have list := (h.contexts c mem).stack
  have apart := h.apart mem mem
  obtain ⟨push, owns, function⟩ := p.push.extends h.base
  have method : Reads s (renderHost.prop (.object c.stack) "push") push :=
    reads_listMethod list owns (by decide) (by decide)
  unfold providing
  refine (holds.reads at_ stack _).ends_bind (method.ends_bind ((h.contexts c mem).reads_current.ends_bind ?_))
  refine ((gives_push function list).more (by omega)).ends_bind ?_
  rintro _ t kept objects
  have base : Extends p.base t.objects := by
    rw [objects]
    exact base_modify h.base (stack_mem mem)
  have pushed : Later p.moving s t := by
    refine ⟨?_, kept.scopes ▸ fun _ _ there => there⟩
    rw [objects]
    exact besides_modify (stack_mem mem)
  have ready : Ready t := by
    refine ⟨p.standard.extends base, kept.scopes ▸ h.globals, ?_⟩
    rw [kept.joining, objects, Array.size_modify]
    exact h.joining
  refine (given t pushed ready).ends_bind ?_
  have place : t.objects[c.place]? = some o := by
    rw [objects]
    exact modify_there (Ne.symm apart) at_
  refine (gives_assign (P := fun _ os => os = Page.provided s.objects c (c.nearest (env c.place)) x) holds place
    (p.assignable.extends base) (by decide) (by rw [objects]; rfl)).ends_bind ?_
  rintro _ u kept' objects'
  have around : Around s u := kept.around.trans kept'.around
  have later : Later p.moving s u := by
    refine ⟨?_, around.scopes ▸ fun _ _ there => there⟩
    rw [objects']
    exact provided_besides mem _ _
  have within := h.provided mem x around objects'
  have level : Level s u := (kept.trans kept').level
  have back (w r : State) (unharmed : Unharmed u w) (kept'' : Kept w r) (more : Extends s.objects r.objects) :
      Unharmed s r := {
    toLevel := (level.trans unharmed.toLevel).trans kept''.level
    objects := more
    scopes i sc there := kept''.scopes ▸ unharmed.scopes i sc (around.scopes ▸ there)
    joining := (kept''.joining.trans unharmed.joining).trans around.joining }
  have restoring (w : State) (unharmed : Unharmed u w) :=
    (h.gives_restored mem (objects' ▸ unharmed.objects) (within.unharmed unharmed)).more (Nat.le_add_left 2 n)
  refine ends_always (Ends.more (inner u later within) (Nat.le_add_right n 2)) (fun v w ended => ended.1.toLevel) ?_ ?_
  · rintro a w ⟨unharmed, same⟩
    refine (restoring w unharmed).ends_well.mono (Nat.le_refl _) ?_ fun _ _ none => none
    rintro _ r - ⟨kept'', more, -⟩
    exact ⟨back w r unharmed kept'' more, same⟩
  · rintro v w ⟨unharmed, thrown⟩
    refine (restoring w unharmed).ends_well.mono (Nat.le_refl _) ?_ fun _ _ none => none
    rintro _ r - ⟨kept'', more, later'⟩
    exact ⟨back w r unharmed kept'' more, thrown.besides later'⟩

end Page

end PagePreview.Contexts
