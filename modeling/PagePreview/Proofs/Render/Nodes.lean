import PagePreview.Proofs.Render.Context
import PagePreview.Proofs.Render.Rendered

/-!
# Nodes inside of providers

What rendering a node comes to, from what its parts come to: the calls of the renderer, the nodes of a
list up to the first that throws, the parts of an element.

`Shows` says of a value what rendering it comes to inside some providers, read off the page as it is
written: a provider puts its value around its children, a consumer and a component are given what is
nearest around them. Rendering with values that are pushed and popped comes to the same, and leaves
every context as it was, whatever is thrown on the way. The induction is on how the value shows.
-/

namespace PagePreview.Contexts
open Script Machine Run Builtin Render

section Parts

variable {α β : Type} {s t u : State} {os os' : Array Object} {n m id : Nat} {v type : Value} {o : Object}
  {vs : List Value} {moving : List Nat} {again : Value → Run Str} {props : Key → Option Value}

section Calls

variable {out : Outcome moving Str}

theorem comesTo_pageCall {f this : Value} {args : Array Value} {name : String} {out : Outcome moving Value}
    (function : IsFunction s.objects f .page name) (known : (name == "get [Symbol.species]") = false)
    (h : ∀ captured isConstructor,
      ComesTo n (pageResult ⟨.page, name, captured, isConstructor⟩ this args) (s.entered (args.size + 2)) out) :
    ComesTo (n + args.size + 4) (Run.call f this args) s out := by
  obtain ⟨id, o, captured, isConstructor, rfl, place, kind⟩ := function
  refine ends_call (n := n + args.size + 3) ((reads_objectAt id).ends_bind ?_)
  rw [object_of_place place, kind]
  dsimp only
  rw [builtins_page known]
  refine (reads_pure this).ends_bind ?_
  refine (Ends.more (comesTo_counted (h captured isConstructor)) (by omega)).bind ?_
  exact fun w t _ ended => ends_pure ended

def RendersTo (n : Nat) (v : Value) (s : State) (out : Outcome moving Str) : Prop :=
  ComesTo n (Run.call Intrinsic.pageRenderNode.value .undefined #[v]) s (Value.string <$> out)

theorem RendersTo.more (h : RendersTo m v s out) (le : m ≤ n) : RendersTo n v s out := ComesTo.more h le

theorem rendersTo_of_markup (ready : Ready s) (h : ComesTo n (nodeMarkup renderHost renderAgain v) (s.entered 3) out) :
    RendersTo (n + 5) v s out := by
  refine (comesTo_pageCall (n := n) ready.standard.renderNode (by decide) fun captured isConstructor => ?_).more
    (Nat.le_refl _)
  rw [pageResult_renderNode, bind_pure_comp]
  exact h.map

theorem RendersTo.comesTo (h : RendersTo n v s out) : ComesTo n (renderAgain v) s out := by
  refine Ends.bind (Ends.mono h (Nat.le_refl _) (fun _ _ _ ended => ended) ?_) ?_
  · rintro w t ⟨unharmed, thrown⟩
    exact ⟨unharmed, thrown.of_map⟩
  · rintro w t - ⟨unharmed, same⟩
    obtain ⟨text, rfl, rfl⟩ := Outcome.ok_of_map same
    exact ends_pure ⟨unharmed, rfl⟩

end Calls

theorem foldlM_push {ι : Type} (outs : ι → Outcome moving α) (g : α → β) (l : List ι) (c : List β) :
    l.foldlM (fun out i => (fun a => out.push (g a)) <$> outs i) c.toArray =
      (fun as => (c ++ as.map g).toArray) <$> l.mapM outs := by
  induction l generalizing c with
  | nil => simp
  | cons i l ih =>
    rw [List.foldlM_cons, List.mapM_cons]
    cases first : outs i with
    | error known => rfl
    | ok a =>
      change l.foldlM _ (c.toArray.push (g a)) = _
      rw [List.push_toArray, ih]
      cases rest : l.mapM outs with
      | error known => rfl
      | ok as =>
        change Except.ok _ = Except.ok _
        simp

theorem ends_mapNodes {outs : Nat → Outcome moving Str} (ready : Ready s) (at_ : s.objects[id]? = some (listOf vs))
    (each : ∀ i (hi : i < vs.length) t, Unharmed s t → ComesTo n (again vs[i]) (t.entered 5) (outs i)) :
    Ends (n + 6) (renderHost.mapNodes (.object id) again) s
      (fun w t => Unharmed s t ∧ ∃ new texts, w = .object new ∧ t.objects[new]? = some (listOf (texts.map .string)) ∧
        s.objects.size ≤ new ∧ (List.range vs.length).mapM outs = .ok texts)
      (fun w t => Unharmed s t ∧ Outcome.Throws ((List.range vs.length).mapM outs) w t.objects) := by
  obtain ⟨f, owns, function⟩ := ready.standard.map
  have method := reads_listMethod at_ owns (by decide) (by decide)
  refine method.ends_bind (function.reads.ends_bind ?_)
  refine (reads_pure id).ends_bind ((reads_lengthOf at_).ends_bind ?_)
  have loop : ComesTo (n + 6) (forIn [:vs.length] (#[] : Array (Option Value)) fun i out => do
      if ← hasAt id i then
        pure (ForInStep.yield (out.push (some (← Value.string <$> counted 5 (again (← getAt id i))))))
      else pure (ForInStep.yield (out.push none))) s _ :=
    comesTo_forIn_range (g := fun out i => (fun text => out.push (some (Value.string text))) <$> outs i) ?round
  case round =>
    intro i hi out t unharmed
    have list : t.objects[id]? = some (listOf vs) := unharmed.objects _ _ at_
    have pushed : ForInStep.yield <$> (fun text => out.push (some (Value.string text))) <$> outs i =
        (fun w => ForInStep.yield (out.push (some w))) <$> Value.string <$> outs i := by
      cases outs i <;> rfl
    refine (reads_hasAt list hi).comesTo_bind ?_
    rw [if_pos rfl, pushed]
    refine (reads_getAt list hi).comesTo_bind ?_
    rw [bind_pure_comp]
    exact ((comesTo_counted (each i hi t unharmed)).map (g := Value.string)).map
  -- The loop gathers in a row what the rounds give; as an outcome that is the list of all of it.
  have gathered := foldlM_push outs (fun text => some (Value.string text)) (List.range vs.length) []
  rw [show (List.range vs.length).foldlM _ _ = _ from gathered] at loop
  refine Ends.bind (Ends.mono loop (Nat.le_refl _) (fun _ _ _ ended => ended) ?_) ?_
  · rintro w t ⟨unharmed, thrown⟩
    exact ⟨unharmed, thrown.of_map⟩
  · rintro out t - ⟨unharmed, same⟩
    obtain ⟨texts, all, rfl⟩ := Outcome.ok_of_map same
    refine ((gives_allocate (P := fun new os => new = t.objects.size ∧
      os = t.objects.push (listOf (texts.map .string))) ⟨rfl, ?_⟩).more (Nat.zero_le _)).ends_bind ?_
    · simp [listOf, Function.comp_def]
    · rintro new u kept ⟨rfl, objects⟩
      have more : Extends t.objects u.objects := objects ▸ extends_push _ _
      exact ends_pure ⟨unharmed.trans (kept.unharmed more), _, texts, rfl, objects ▸ push_last _ _,
        unharmed.objects.size_le, all⟩

/-- The nodes of a list are rendered one after the other, up to the first that throws. -/
theorem comesTo_nodes {outs : Nat → Outcome moving Str} (ready : Ready s) (at_ : s.objects[id]? = some (listOf vs))
    (each : ∀ i (hi : i < vs.length) t, Unharmed s t → ComesTo n (again vs[i]) (t.entered 5) (outs i)) :
    ComesTo (n + 6) (do renderHost.joined (← renderHost.mapNodes (.object id) again) (.plain "")) s
      (Str.concat <$> (List.range vs.length).mapM outs) := by
  refine Ends.bind (Ends.mono (ends_mapNodes ready at_ each) (Nat.le_refl _) (fun _ _ _ ended => ended) ?_) ?_
  · rintro w t ⟨unharmed, thrown⟩
    exact ⟨unharmed, thrown.map⟩
  · rintro w t - ⟨unharmed, new, texts, rfl, there, fresh, all⟩
    have ready' := unharmed.ready ready
    have unjoined : new ∉ t.joining := by
      rw [unharmed.joining]
      exact fun mem => Nat.lt_irrefl _ (Nat.lt_of_lt_of_le (ready.joining new mem) fresh)
    refine ((gives_joined ready' there unjoined).more (by omega)).ends_well.mono (Nat.le_refl _) ?_ fun _ _ none => none
    rintro text u - ⟨kept, rfl, same⟩
    refine ⟨unharmed.trans (kept.unharmed (same ▸ .refl _)), ?_⟩
    rw [all]
    rfl

def given (props : Key → Option Value) (name : String) : Value := (props (.named name)).getD .undefined

theorem reads_given {name : String} (ready : Ready s) (at_ : s.objects[id]? = some o) (holds : Holds o props)
    (other : name ∉ inbornNames) : Reads s (renderHost.prop (.object id) name) (given props name) := by
  have place := holds.ordinary at_
  unfold given
  cases there : props (.named name) with
  | some v => exact holds.reads at_ there _
  | none =>
    have own : o.ownProperty? (.named name) = none := by rw [holds.own, there]; rfl
    obtain ⟨first, at', last, free⟩ := ready.standard.bare
    exact (place.finds_nothing_behind own holds.proto at' (free name other) last).reads_undefined

/-- The value is an element of a type, with its properties at a place; no provider changes them. -/
structure IsNode (moving : List Nat) (os : Array Object) (v type : Value) (place : Nat) (props : Key → Option Value) :
    Prop where
  element : ∃ id o f, v = .object id ∧ Steady moving os id o ∧ Holds o f ∧
    f (.named "$$typeof") = some (markSymbol .element) ∧ f (.named "type") = some type ∧
      f (.named "props") = some (.object place)
  properties : ∃ o, Steady moving os place o ∧ Holds o props

theorem IsNode.reads_given {place : Nat} (name : String) (h : IsNode moving s.objects v type place props)
    (later : Later moving s t) (ready : Ready t) (other : name ∉ inbornNames) :
    Reads t (renderHost.prop (.object place) name) (given props name) := by
  obtain ⟨o, steady, holds⟩ := h.properties
  exact Contexts.reads_given ready (steady.later later) holds other

theorem rendersTo_element {place : Nat} {out : Outcome moving Str} (node : IsNode moving s.objects v type place props)
    (later : Later moving s t) (ready : Ready t)
    (h : ∀ u, Unharmed (t.entered 3) u →
      ComesTo (n + 4) (typeMarkup renderHost renderAgain type (.object place)) u out) : RendersTo (n + 9) v t out := by
  obtain ⟨id, o, f, rfl, steady, holds, mark, type_there, props_there⟩ := node.element
  have at_ := steady.later later
  have inside : Ready (t.entered 3) := ready.step (around_entered 3 t) (.refl _)
  refine (rendersTo_of_markup (n := n + 4) ready ?_).more (by omega)
  have object : Reads (t.entered 3) (renderHost.shape (.object id)) .object :=
    reads_shapeOf_object at_ (.inl holds.kind)
  have no_list : Reads (t.entered 3) (renderHost.isList (.object id)) false :=
    reads_isList inside at_ (by rw [holds.kind])
  refine object.comesTo_bind (no_list.comesTo_bind ?_)
  have is_element : Gives 4 (renderHost.framed 1 (isElement renderHost (.object id))) (t.entered 3)
      fun answer os => answer = true ∧ os = t.objects := by
    have object : Reads ((t.entered 3).entered 3) (renderHost.shape (.object id)) .object :=
      reads_shapeOf_object at_ (.inl holds.kind)
    have there : ((t.entered 3).entered 3).objects[id]? = some o := at_
    have marked : Reads ((t.entered 3).entered 3) (renderHost.prop (.object id) "$$typeof") (markSymbol .element) :=
      holds.reads there mark _
    have inner : Reads ((t.entered 3).entered 3) (isElement renderHost (.object id)) true :=
      object.bind (marked.bind (reads_pure _))
    exact gives_counted (n := 0) (k := 3) (inner.gives ⟨rfl, rfl⟩)
  refine (is_element.more (by omega)).comesTo_bind (fun _ _ ended => ended.2 ▸ .refl _) ?_
  rintro _ u kept ⟨rfl, same⟩
  have there : u.objects[id]? = some o := same ▸ at_
  refine Reads.comesTo_bind (holds.reads there type_there _) (Reads.comesTo_bind (holds.reads there props_there _) ?_)
  exact h u (kept.unharmed (same ▸ .refl _))

theorem comesTo_marked {k : Mark} {w : Value} {place : Nat} {out : Outcome moving Str}
    (mem : k ∈ [Mark.fragment, .suspense, .strictMode])
    (children : Reads s (renderHost.prop (.object place) "children") w) (h : ComesTo n (renderAgain w) s out) :
    ComesTo n (typeMarkup renderHost renderAgain (markSymbol k) (.object place)) s out := by
  unfold typeMarkup
  simp only [List.mem_cons, List.not_mem_nil, or_false] at mem
  rcases mem with rfl | rfl | rfl
  · exact children.comesTo_bind h
  · exact children.comesTo_bind h
  · exact children.comesTo_bind h

def voidMarkup (tag attributes : Str) : Str := Str.plain "<" ++ tag ++ attributes ++ "/>"

def tagMarkup (tag attributes content : Str) : Str :=
  Str.plain "<" ++ tag ++ attributes ++ ">" ++ content ++ "</" ++ tag ++ ">"

section Tags

variable {tag : Str} {properties w : Value} {attributes content out : Outcome moving Str}

theorem comesTo_text (ready : Ready s) (h : ComesTo n (elementMarkup renderHost renderAgain tag properties) s out) :
    ComesTo n (typeMarkup renderHost renderAgain (.string tag) properties) s out := by
  have unmarked (k : Mark) := JsxTree.reads_noMark ready (.text tag) k
  unfold typeMarkup
  refine (reads_pure (Shape.text tag)).comesTo_bind ?_
  exact (unmarked .provider).comesTo_bind ((unmarked .consumer).comesTo_bind h)

theorem comesTo_void (shown : ComesTo n (renderHost.framed 1 (attributesMarkup renderHost properties)) s attributes)
    (void : ∀ t, Unharmed s t → ComesTo n (isListed renderHost voidElements tag) t (.ok true : Outcome moving Bool)) :
    ComesTo n (elementMarkup renderHost renderAgain tag properties) s (voidMarkup tag <$> attributes) := by
  unfold elementMarkup
  rw [map_eq_pure_bind]
  refine shown.bind fun text t unharmed _ => ?_
  exact (void t unharmed).bind_ok fun u _ => comesTo_pure _

theorem comesTo_filled (shown : ComesTo n (renderHost.framed 1 (attributesMarkup renderHost properties)) s attributes)
    (void : ∀ t, Unharmed s t → ComesTo n (isListed renderHost voidElements tag) t (.ok false : Outcome moving Bool))
    (filled : ∀ t, Unharmed s t → ComesTo n (contentMarkup renderHost renderAgain tag properties) t content) :
    ComesTo n (elementMarkup renderHost renderAgain tag properties) s
      (do return tagMarkup tag (← attributes) (← content)) := by
  unfold elementMarkup
  refine shown.bind fun text t unharmed _ => ?_
  refine (void t unharmed).bind_ok fun u unharmed' => ?_
  refine (filled u (unharmed.trans unharmed')).bind fun inner w _ _ => comesTo_pure _

/-- An element that brings no markup of its own and no text in place of its children shows these. -/
theorem comesTo_content {inner : Value} (raw : Reads s (renderHost.prop properties "dangerouslySetInnerHTML") inner)
    (unraw : inner.isTrue = true → ∃ html, html.isNullish = true ∧ Reads s (renderHost.prop inner "__html") html)
    (unfilled : tag = .plain "textarea" →
      ∃ text, text.isNullish = true ∧ Reads s (renderHost.prop properties "value") text)
    (children : Reads s (renderHost.prop properties "children") w) (h : ComesTo n (renderAgain w) s out) :
    ComesTo n (contentMarkup renderHost renderAgain tag properties) s out := by
  have plain : ComesTo n (do
      let isFilled ←
        if tag == .plain "textarea" then pure !(← renderHost.isNullish (← renderHost.prop properties "value"))
        else pure false
      if isFilled then escapedText renderHost (← renderHost.prop properties "value")
      else renderAgain (← renderHost.prop properties "children")) s out := by
    by_cases area : tag = .plain "textarea"
    · obtain ⟨text, nullish, read⟩ := unfilled area
      have none_given := reads_isNullish (s := s) text
      rw [nullish] at none_given
      dsimp only
      rw [if_pos (beq_iff_eq.mpr area)]
      exact read.comesTo_bind (none_given.comesTo_bind (children.comesTo_bind h))
    · dsimp only
      rw [if_neg (mt beq_iff_eq.mp area)]
      exact children.comesTo_bind h
  unfold contentMarkup
  refine raw.comesTo_bind ?_
  cases truth : inner.isTrue with
  | false =>
    rw [show renderHost.isTrue inner = false from truth]
    exact plain
  | true =>
    obtain ⟨html, nullish, read⟩ := unraw truth
    have none_given := reads_isNullish (s := s) html
    rw [nullish] at none_given
    rw [show renderHost.isTrue inner = true from truth]
    exact raw.comesTo_bind (read.comesTo_bind (none_given.comesTo_bind plain))

end Tags

/-- The step harms nothing and gives a node as in `P`, or it throws as the outcome tells. -/
def Leads (n : Nat) (x : Run Value) (s : State) (P : Value → State → Prop) (out : Outcome moving Str) : Prop :=
  Ends n x s (fun v t => Unharmed s t ∧ P v t) fun v t => Unharmed s t ∧ out.Throws v t.objects

variable {out : Outcome moving Str} {P : Value → State → Prop}

theorem Leads.comesTo {x : Run Value} (h : Leads n x s P out)
    (shown : ∀ v t, Unharmed s t → P v t → ComesTo n (renderAgain v) t out) :
    ComesTo n (x >>= renderAgain) s out :=
  Ends.bind h fun v t _ made => (shown v t made.1 made.2).behind made.1

theorem reads_shapeOf_callable (callable : s.isCallable v = true) : Reads s (shapeOf v) .function := by
  cases v with
  | object id =>
    refine reads_get.bind ?_
    rw [callable]
    exact reads_pure _
  | _ => cases callable

theorem reads_shapeOf_other (callable : s.isCallable v = false) :
    ∃ shape, Reads s (shapeOf v) shape ∧ shape.isFunction = false := by
  cases v with
  | object id =>
    refine ⟨.object, reads_get.bind ?_, rfl⟩
    rw [callable]
    exact reads_pure _
  | _ => exact ⟨_, reads_pure _, rfl⟩

theorem comesTo_component {properties : Value} (callable : s.isCallable type = true)
    (made : Leads n (renderHost.framed 2 (renderComponent renderHost type properties)) s P out)
    (shown : ∀ v t, Unharmed s t → P v t → ComesTo n (renderAgain v) t out) :
    ComesTo n (typeMarkup renderHost renderAgain type properties) s out := by
  have shape := reads_shapeOf_callable callable
  cases type with
  | object id =>
    unfold typeMarkup
    exact shape.comesTo_bind (made.comesTo shown)
  | _ => cases callable

/-- The value is what provides or consumes a context, as its mark tells; no provider changes it. -/
def IsEnd (moving : List Nat) (os : Array Object) (type : Value) (k : Mark) (c : PageContext) : Prop :=
  ∃ id o f, type = .object id ∧ Steady moving os id o ∧ Holds o f ∧ f (.named "$$typeof") = some (markSymbol k) ∧
    f (.named "_context") = some (.object c.place)

section Ends

variable {p : Page} {env : Surroundings} {c : PageContext} {place : Nat} {x w : Value} {out : Outcome p.moving Str}

theorem comesTo_provider (within : p.Within env t) (mem : c ∈ p.contexts)
    (provider : IsEnd p.moving s.objects type .provider c) (later : Later p.moving s t)
    (value : ∀ u, Later p.moving s u → Ready u → Reads u (renderHost.prop (.object place) "value") x)
    (inner : ∀ u, Later p.moving s u → p.Within (Function.update env c.place (x :: env c.place)) u →
      ComesTo n (do renderAgain (← renderHost.prop (.object place) "children")) u out) :
    ComesTo (n + 2) (typeMarkup renderHost renderAgain type (.object place)) t out := by
  obtain ⟨id, o, f, rfl, steady, holds, mark, context⟩ := provider
  have at_ := steady.later later
  have object : Reads t (renderHost.shape (.object id)) .object := reads_shapeOf_object at_ (.inl holds.kind)
  have marked : Reads t (renderHost.prop (.object id) "$$typeof") (markSymbol .provider) := holds.reads at_ mark _
  have provides : Reads t (renderHost.prop (.object id) "_context") (.object c.place) := holds.reads at_ context _
  unfold typeMarkup
  refine object.comesTo_bind (Reads.comesTo_bind (marked.bind (reads_pure _)) (provides.comesTo_bind ?_))
  exact within.comesTo_providing mem (fun u later' => value u (later.trans later'))
    fun u later' => inner u (later.trans later')

/-- The function of a consumer is called with the value of the nearest provider around it. -/
theorem comesTo_consumer (within : p.Within env t) (mem : c ∈ p.contexts)
    (consumer : IsEnd p.moving s.objects type .consumer c) (later : Later p.moving s t)
    (children : Reads t (renderHost.prop (.object place) "children") w) (callable : t.isCallable w = true)
    (made : Leads n (Run.call w (.object place) #[c.nearest (env c.place)]) t P out)
    (shown : ∀ v u, Unharmed t u → P v u → ComesTo n (renderAgain v) u out) :
    ComesTo n (typeMarkup renderHost renderAgain type (.object place)) t out := by
  obtain ⟨id, o, f, rfl, steady, holds, mark, context⟩ := consumer
  have at_ := steady.later later
  have object : Reads t (renderHost.shape (.object id)) .object := reads_shapeOf_object at_ (.inl holds.kind)
  have marked : Reads t (renderHost.prop (.object id) "$$typeof") (markSymbol .consumer) := holds.reads at_ mark _
  have consumes : Reads t (renderHost.prop (.object id) "_context") (.object c.place) := holds.reads at_ context _
  have current := (within.contexts c mem).reads_current
  unfold typeMarkup
  refine object.comesTo_bind (Reads.comesTo_bind (marked.bind (reads_pure _))
    (Reads.comesTo_bind (marked.bind (reads_pure _)) ?_))
  refine children.comesTo_bind ((reads_shapeOf_callable callable).comesTo_bind ?_)
  exact children.comesTo_bind (consumes.comesTo_bind (current.comesTo_bind (made.comesTo shown)))

theorem comesTo_silent (consumer : IsEnd p.moving s.objects type .consumer c) (later : Later p.moving s t)
    (children : Reads t (renderHost.prop (.object place) "children") w) (callable : t.isCallable w = false) :
    ComesTo n (typeMarkup renderHost renderAgain type (.object place)) t (.ok .empty : Outcome p.moving Str) := by
  obtain ⟨id, o, f, rfl, steady, holds, mark, -⟩ := consumer
  have at_ := steady.later later
  have object : Reads t (renderHost.shape (.object id)) .object := reads_shapeOf_object at_ (.inl holds.kind)
  have marked : Reads t (renderHost.prop (.object id) "$$typeof") (markSymbol .consumer) := holds.reads at_ mark _
  obtain ⟨shape, other, no_function⟩ := reads_shapeOf_other callable
  unfold typeMarkup
  refine object.comesTo_bind (Reads.comesTo_bind (marked.bind (reads_pure _))
    (Reads.comesTo_bind (marked.bind (reads_pure _)) ?_))
  refine children.comesTo_bind (other.comesTo_bind ?_)
  rw [no_function]
  exact comesTo_pure _

end Ends

end Parts

def isBlank : Value → Bool
  | .undefined | .null | .bool _ => true
  | _ => false

def isText : Value → Bool
  | .string _ | .number _ | .bigint _ => true
  | _ => false

/-- In every later state inside of the same providers, where contexts are read as these ask. -/
def Page.Always (p : Page) (env : Surroundings) (s : State) (X : State → Prop) : Prop :=
  ∀ t, Later p.moving s t → p.Within env t → p.Reading env t → X t

/-- The value comes to the markup, or to what is thrown, inside of the providers; the state is one in which
it has been made, and rendering it takes no more room than `n`. -/
inductive Shows (p : Page) : Surroundings → State → Nat → Value → Outcome p.moving Str → Prop
  | blank {env : Surroundings} {s : State} {n : Nat} {v : Value} (nothing : isBlank v = true) (room : 5 ≤ n) :
      Shows p env s n v (.ok .empty)
  | text {env : Surroundings} {s : State} {m n : Nat} {v : Value} {out : Outcome p.moving Str}
      (words : isText v = true) (written : p.Always env s fun t => ComesTo m (escapedText renderHost v) t out)
      (room : m + 5 ≤ n) : Shows p env s n v out
  | list {env : Surroundings} {s : State} {m n id : Nat} {vs : List Value} {outs : Nat → Outcome p.moving Str}
      (list : Steady p.moving s.objects id (listOf vs))
      (each : ∀ (i : Nat) (hi : i < vs.length), Shows p env s m vs[i] (outs i)) (room : m + 11 ≤ n) :
      Shows p env s n (.object id) (Str.concat <$> (List.range vs.length).mapM outs)
  | marked {env : Surroundings} {s : State} {m n place : Nat} {v : Value} {k : Mark} {props : Key → Option Value}
      {out : Outcome p.moving Str} (mem : k ∈ [Mark.fragment, .suspense, .strictMode])
      (node : IsNode p.moving s.objects v (markSymbol k) place props)
      (children : Shows p env s m (given props "children") out) (room : m + 9 ≤ n) : Shows p env s n v out
  | void {env : Surroundings} {s : State} {m n place : Nat} {v : Value} {tag : Str} {props : Key → Option Value}
      {attributes : Outcome p.moving Str} (node : IsNode p.moving s.objects v (.string tag) place props)
      (shown : p.Always env s fun t =>
        ComesTo m (renderHost.framed 1 (attributesMarkup renderHost (.object place))) t attributes)
      (empty : p.Always env s fun t =>
        ComesTo m (isListed renderHost voidElements tag) t (.ok true : Outcome p.moving Bool))
      (room : m + 9 ≤ n) : Shows p env s n v (voidMarkup tag <$> attributes)
  | tag {env : Surroundings} {s : State} {m n place : Nat} {v : Value} {tag : Str} {props : Key → Option Value}
      {attributes content : Outcome p.moving Str} (node : IsNode p.moving s.objects v (.string tag) place props)
      (shown : p.Always env s fun t =>
        ComesTo m (renderHost.framed 1 (attributesMarkup renderHost (.object place))) t attributes)
      (filled : p.Always env s fun t =>
        ComesTo m (isListed renderHost voidElements tag) t (.ok false : Outcome p.moving Bool))
      (unraw : (given props "dangerouslySetInnerHTML").isTrue = true → ∃ html, html.isNullish = true ∧
        p.Always env s fun t => Reads t (renderHost.prop (given props "dangerouslySetInnerHTML") "__html") html)
      (unwritten : tag = .plain "textarea" → (given props "value").isNullish = true)
      (children : Shows p env s m (given props "children") content) (room : m + 9 ≤ n) :
      Shows p env s n v (do return tagMarkup tag (← attributes) (← content))
  /-- The content of such an element is its own: it is the same whatever renders nodes further in. -/
  | sealed {env : Surroundings} {s : State} {m n place : Nat} {v : Value} {tag : Str} {props : Key → Option Value}
      {attributes content : Outcome p.moving Str} (node : IsNode p.moving s.objects v (.string tag) place props)
      (shown : p.Always env s fun t =>
        ComesTo m (renderHost.framed 1 (attributesMarkup renderHost (.object place))) t attributes)
      (filled : p.Always env s fun t =>
        ComesTo m (isListed renderHost voidElements tag) t (.ok false : Outcome p.moving Bool))
      (own : ∀ again : Value → Run Str, p.Always env s fun t =>
        ComesTo m (contentMarkup renderHost again tag (.object place)) t content)
      (room : m + 9 ≤ n) : Shows p env s n v (do return tagMarkup tag (← attributes) (← content))
  | component {env : Surroundings} {s : State} {m n place : Nat} {v type : Value} {props : Key → Option Value}
      {out : Outcome p.moving Str} {P : Value → State → Prop}
      (node : IsNode p.moving s.objects v type place props)
      (callable : p.Always env s fun t => t.isCallable type = true)
      (made : p.Always env s fun t =>
        Leads m (renderHost.framed 2 (renderComponent renderHost type (.object place))) t P out)
      (shown : ∀ w u, P w u → Shows p env u m w out) (room : m + 9 ≤ n) : Shows p env s n v out
  | provider {env : Surroundings} {s : State} {m n place : Nat} {v type : Value} {props : Key → Option Value}
      {c : PageContext} {out : Outcome p.moving Str} (mem : c ∈ p.contexts)
      (node : IsNode p.moving s.objects v type place props) (provider : IsEnd p.moving s.objects type .provider c)
      (children : Shows p (Function.update env c.place (given props "value" :: env c.place)) s m
        (given props "children") out) (room : m + 9 ≤ n) : Shows p env s n v out
  | consumer {env : Surroundings} {s : State} {m n place : Nat} {v type : Value} {props : Key → Option Value}
      {c : PageContext} {out : Outcome p.moving Str} {P : Value → State → Prop} (mem : c ∈ p.contexts)
      (node : IsNode p.moving s.objects v type place props) (consumer : IsEnd p.moving s.objects type .consumer c)
      (callable : p.Always env s fun t => t.isCallable (given props "children") = true)
      (made : p.Always env s fun t =>
        Leads m (Run.call (given props "children") (.object place) #[c.nearest (env c.place)]) t P out)
      (shown : ∀ w u, P w u → Shows p env u m w out) (room : m + 9 ≤ n) : Shows p env s n v out
  | silent {env : Surroundings} {s : State} {n place : Nat} {v type : Value} {props : Key → Option Value}
      {c : PageContext} (node : IsNode p.moving s.objects v type place props)
      (consumer : IsEnd p.moving s.objects type .consumer c)
      (callable : p.Always env s fun t => t.isCallable (given props "children") = false) (room : 9 ≤ n) :
      Shows p env s n v (.ok .empty)

variable {s t : State} {n : Nat} {v : Value} {env : Surroundings} {p : Page} {out : Outcome p.moving Str}

theorem Shows.more {m : Nat} (h : Shows p env s m v out) (le : m ≤ n) : Shows p env s n v out := by
  cases h with
  | blank nothing room => exact .blank nothing (by omega)
  | text words written room => exact .text words written (by omega)
  | list list each room => exact .list list each (by omega)
  | marked mem node children room => exact .marked mem node children (by omega)
  | void node shown empty room => exact .void node shown empty (by omega)
  | tag node shown filled unraw unwritten children room =>
    exact .tag node shown filled unraw unwritten children (by omega)
  | sealed node shown filled own room => exact .sealed node shown filled own (by omega)
  | component node callable made shown room => exact .component node callable made shown (by omega)
  | provider mem node provider children room => exact .provider mem node provider children (by omega)
  | consumer mem node consumer callable made shown room =>
    exact .consumer mem node consumer callable made shown (by omega)
  | silent node consumer callable room => exact .silent node consumer callable (by omega)

theorem Page.Always.apply {X : State → Prop} (h : p.Always env s X) (later : Later p.moving s t)
    (within : p.Within env t) : X t := h t later within within.reading

theorem IsNode.rendersTo {type : Value} {place : Nat} {props : Key → Option Value}
    (node : IsNode p.moving s.objects v type place props) (later : Later p.moving s t) (within : p.Within env t)
    (h : ∀ u, Later p.moving s u → p.Within env u →
      ComesTo (n + 4) (typeMarkup renderHost renderAgain type (.object place)) u out) : RendersTo (n + 9) v t out :=
  rendersTo_element node later within.ready fun u unharmed =>
    h u ((later.entered 3).trans unharmed.later) ((within.entered 3).unharmed unharmed)

/-- Rendering comes to what the value shows inside of the providers, wherever these are around. -/
theorem Shows.rendersTo (h : Shows p env s n v out) (later : Later p.moving s t) (within : p.Within env t) :
    RendersTo n v t out := by
  -- The state is general, since contexts stand otherwise inside of a provider than where the page was made.
  induction h generalizing t with
  | @blank env s n v nothing room =>
    refine (rendersTo_of_markup (n := 0) within.ready ?_).more (by omega)
    cases v with
    | undefined => exact (reads_pure Shape.undefined).comesTo_bind (comesTo_pure _)
    | null => exact (reads_pure Shape.null).comesTo_bind (comesTo_pure _)
    | bool b => exact (reads_pure (Shape.bool b)).comesTo_bind (comesTo_pure _)
    | _ => cases nothing
  | @text env s m n v out words written room =>
    refine (rendersTo_of_markup (n := m) within.ready ?_).more room
    have inner := written.apply (later.entered 3) (within.entered 3)
    cases v with
    | string text => exact (reads_pure (Shape.text text)).comesTo_bind inner
    | number x => exact (reads_pure (Shape.number (x == 0))).comesTo_bind inner
    | bigint x => exact (reads_pure Shape.bigint).comesTo_bind inner
    | _ => cases words
  | @list env s m n id vs outs list each room ih =>
    refine (rendersTo_of_markup (n := m + 6) within.ready ?_).more (by omega)
    have inside := within.entered 3
    have at_ : (t.entered 3).objects[id]? = some (listOf vs) := list.later (later.entered 3)
    have object : Reads (t.entered 3) (renderHost.shape (.object id)) .object :=
      reads_shapeOf_object at_ (.inr ⟨_, _, _, rfl⟩)
    have isList : Reads (t.entered 3) (renderHost.isList (.object id)) true := reads_isList inside.ready at_ rfl
    refine object.comesTo_bind (isList.comesTo_bind (comesTo_nodes inside.ready at_ fun i hi u unharmed => ?_))
    exact (ih i hi ((later.entered 3).trans (unharmed.later.entered 5)) ((inside.unharmed unharmed).entered 5)).comesTo
  | marked mem node children room ih =>
    refine (node.rendersTo later within fun u later' within' => ?_).more room
    have child := node.reads_given "children" later' within'.ready (by decide)
    exact comesTo_marked mem child ((ih later' within').comesTo.more (by omega))
  | void node shown empty room =>
    refine (node.rendersTo later within fun u later' within' => ?_).more room
    refine comesTo_text within'.ready (ComesTo.more (comesTo_void (shown.apply later' within') fun w unharmed' => ?_)
      (Nat.le_add_right _ 4))
    exact empty.apply (later'.trans unharmed'.later) (within'.unharmed unharmed')
  | tag node shown filled unraw unwritten children room ih =>
    refine (node.rendersTo later within fun u later' within' => ?_).more room
    refine comesTo_text within'.ready (ComesTo.more (comesTo_filled (shown.apply later' within') (fun w unharmed' => ?_)
      fun w unharmed' => ?_) (Nat.le_add_right _ 4))
    · exact filled.apply (later'.trans unharmed'.later) (within'.unharmed unharmed')
    · have last := later'.trans unharmed'.later
      have inside := within'.unharmed unharmed'
      have raw := node.reads_given "dangerouslySetInnerHTML" last inside.ready (by decide)
      have value := node.reads_given "value" last inside.ready (by decide)
      have child := node.reads_given "children" last inside.ready (by decide)
      refine comesTo_content raw (fun truth => ?_) (fun area => ⟨_, unwritten area, value⟩) child
        (ih last inside).comesTo
      obtain ⟨html, nullish, read⟩ := unraw truth
      exact ⟨html, nullish, read.apply last inside⟩
  | sealed node shown filled own room =>
    refine (node.rendersTo later within fun u later' within' => ?_).more room
    refine comesTo_text within'.ready (ComesTo.more (comesTo_filled (shown.apply later' within') (fun w unharmed' => ?_)
      fun w unharmed' => ?_) (Nat.le_add_right _ 4))
    · exact filled.apply (later'.trans unharmed'.later) (within'.unharmed unharmed')
    · exact (own renderAgain).apply (later'.trans unharmed'.later) (within'.unharmed unharmed')
  | component node callable made shown room ih =>
    refine (node.rendersTo later within fun u later' within' => ?_).more room
    refine ComesTo.more (comesTo_component (callable.apply later' within') (made.apply later' within')
      fun w x unharmed' there => ?_) (Nat.le_add_right _ 4)
    exact (ih w x there (.refl x) (within'.unharmed unharmed')).comesTo
  | @provider env s m n place v type props c out mem node provider children room ih =>
    refine (node.rendersTo later within fun u later' within' => ?_).more room
    refine ComesTo.more (comesTo_provider (x := given props "value") within' mem provider later'
      (fun w last ready => ?_) fun w last inside => ?_) (Nat.add_le_add_left (show 2 ≤ 4 by decide) _)
    · exact node.reads_given "value" last ready (by decide)
    · have child := node.reads_given "children" last inside.ready (by decide)
      exact child.comesTo_bind (ih last inside).comesTo
  | consumer mem node consumer callable made shown room ih =>
    refine (node.rendersTo later within fun u later' within' => ?_).more room
    have child := node.reads_given "children" later' within'.ready (by decide)
    refine ComesTo.more (comesTo_consumer within' mem consumer later' child (callable.apply later' within')
      (made.apply later' within') fun w x unharmed' there => ?_) (Nat.le_add_right _ 4)
    exact (ih w x there (.refl x) (within'.unharmed unharmed')).comesTo
  | silent node consumer callable room =>
    refine (node.rendersTo (n := 0) later within fun u later' within' => ?_).more (by omega)
    have child := node.reads_given "children" later' within'.ready (by decide)
    exact comesTo_silent consumer later' child (callable.apply later' within')

theorem shows_string (text : Str) (room : 9 ≤ n) : Shows p env s n (.string text) (.ok (escape text)) := by
  refine .text (m := 4) rfl (fun t _ within _ => Gives.comesTo ?_) room
  refine (gives_escapedText within.ready text).mono (Nat.le_refl _) ?_
  rintro _ os ⟨rfl, same⟩
  exact ⟨rfl, same ▸ .refl _⟩

theorem comesTo_isListed {name : String} {moving : List Nat} (ready : Ready s) (other : name ∉ inbornNames)
    (names : List String) : ComesTo n (isListed renderHost names (.plain name)) s
      (.ok (names.contains name) : Outcome moving Bool) :=
  Gives.comesTo ((reads_isListed ready other names).gives ⟨rfl, .refl _⟩)

theorem comesTo_noAttributes {id : Nat} {o : Object} {props : Key → Option Value} {moving : List Nat} (ready : Ready s)
    (at_ : s.objects[id]? = some o) (holds : Holds o props)
    (bare : ∀ k, (props k).isSome = true → k = .named "children") :
    ComesTo 14 (renderHost.framed 1 (attributesMarkup renderHost (.object id))) s
      (.ok .empty : Outcome moving Str) := by
  have inside : Ready (s.entered 3) := ready.step (around_entered 3 s) (.refl _)
  refine Gives.comesTo (gives_counted (n := 10) (k := 3) ?_)
  let keys := listOf (o.names.map Value.string)
  refine (gives_foldListed (n := 4) (I := fun _ text os => text = .empty ∧ Extends s.objects os ∧
    os[s.objects.size]? = some keys) (fun t same => holds.reads_listedNames (same ▸ at_)) inside
    (fun _ _ _ reached => reached.2.2) ⟨rfl, extends_push _ _, push_last _ _⟩ ?_).mono (Nat.le_refl _) ?_
  · rintro i hi _ t around ⟨rfl, grown, list⟩
    have there : (props (.text o.names[i])).isSome = true := (holds.mem_names _).mp (List.getElem_mem hi)
    have child : o.names[i] = .plain "children" := Key.text.inj (bare _ there)
    have skipped : Reads t (isListed renderHost skippedProperties (.plain "children")) true :=
      reads_isListed (inside.step around grown) (by decide) skippedProperties
    rw [child]
    exact skipped.gives_bind (gives_pure ⟨rfl, grown, list⟩)
  · rintro _ os ⟨rfl, grown, -⟩
    exact ⟨rfl, grown⟩

theorem shows_tag {name : String} {m place : Nat} {props : Key → Option Value}
    (node : IsNode p.moving s.objects v (.string (.plain name)) place props)
    (bare : ∀ k, (props k).isSome = true → k = .named "children") (other : name ∉ inbornNames)
    (filled : voidElements.contains name = false) (unwritten : name ≠ "textarea")
    (children : Shows p env s m (given props "children") out) (room : m + 23 ≤ n) :
    Shows p env s n v (do return tagMarkup (.plain name) .empty (← out)) := by
  have unraw : given props "dangerouslySetInnerHTML" = .undefined := by
    unfold given
    cases there : props (.named "dangerouslySetInnerHTML") with
    | none => rfl
    | some w =>
      have absurd_key := bare _ (Option.isSome_iff_exists.mpr ⟨w, there⟩)
      exact absurd absurd_key (by decide)
  have none : p.Always env s fun t => ComesTo (m + 14) (renderHost.framed 1 (attributesMarkup renderHost
      (.object place))) t (.ok .empty : Outcome p.moving Str) := by
    intro t later within _
    obtain ⟨o, steady, holds⟩ := node.properties
    exact (comesTo_noAttributes within.ready (steady.later later) holds bare).more (Nat.le_add_left _ _)
  refine .tag node none ?_ ?_ ?_ (children.more (Nat.le_add_right _ _)) (by omega)
  · intro t _ within _
    exact filled ▸ comesTo_isListed within.ready other voidElements
  · rw [unraw]
    exact fun truth => nomatch truth
  · intro area
    exact absurd (by simpa using area) unwritten

end PagePreview.Contexts
