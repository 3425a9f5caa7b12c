import PagePreview.Proofs.Machine.Standard
import PagePreview.Proofs.Script.Str

/-!
# The machine as a renderer's host

What the machine does for a renderer while no page has redefined what rendering rests on: texts are
escaped, names and lists are gone through in order, and nothing that was there is changed.
-/

namespace PagePreview.Render
open Script Machine Builtin

variable {s : State} {n id : Nat} {vs : List Value} {v : Value} {o : Object}

theorem reads_shapeOf_object (at_ : s.objects[id]? = some o) (inert : o.kind = .plain ∨ ∃ es l b, o.kind = .array es l b) :
    Reads s (shapeOf (.object id)) .object := by
  refine reads_get.bind ?_
  have uncallable : s.isCallable (.object id) = false := by
    rw [State.isCallable, object_of_place at_]
    obtain plain | ⟨es, l, b, list⟩ := inert
    · rw [plain]
    · rw [list]
  rw [uncallable]
  exact reads_pure _

theorem reads_isInborn {name : String} (ready : Ready s) (other : name ∉ inbornNames) :
    Reads s (renderHost.isInborn (.plain name)) false := by
  have nothing : Reads s (getFrom Intrinsic.objectPrototype.id (.named name) Intrinsic.handle.value) .undefined :=
    (ready.standard.bare.finds_nothing other).reads_undefined
  exact nothing.bind (reads_pure _)

theorem reads_isListed {name : String} (ready : Ready s) (other : name ∉ inbornNames) (names : List String) :
    Reads s (isListed renderHost names (.plain name)) (names.contains name) := by
  have same : (names.any fun n => Str.plain name == .plain n) = names.contains name := by
    rw [List.contains_eq_any_beq]
    congr 1
    funext n
    by_cases here : name = n <;> simp [here]
  unfold isListed
  rw [same]
  cases names.contains name
  · exact reads_isInborn ready other
  · exact reads_pure _

theorem reads_escaped (ready : Ready s) (text : Str) : Reads s (renderHost.escaped text) (escape text) := by
  obtain ⟨f, owns, function⟩ := ready.standard.replace
  have method : Reads s (getOf Intrinsic.stringPrototype.id (.named "replace")) f := owns.reads
  exact method.bind (function.reads.bind (reads_pure _))

theorem reads_text (ready : Ready s) (text : Str) : Reads s (renderHost.text (.string text)) text := by
  obtain ⟨f, owns, function⟩ := ready.standard.texts
  have constructor := owns.reads_global (ready.globals "String" (by simp))
  exact constructor.bind (function.reads.bind (reads_pure _))

theorem gives_escapedText (ready : Ready s) (text : Str) :
    Gives 4 (escapedText renderHost (.string text)) s fun t os => t = escape text ∧ os = s.objects := by
  refine gives_counted (n := 0) (k := 3) ?_
  have inside : Ready (s.entered 3) := ready.step (around_entered 3 s) (.refl _)
  exact ((reads_text inside text).bind (reads_escaped inside text)).gives ⟨rfl, rfl⟩

theorem reads_listMethod {name : String} {f : Value} (at_ : s.objects[id]? = some (listOf vs))
    (owns : Owns s.objects Intrinsic.arrayPrototype.id (.named name) f)
    (unnumbered : (Key.named name).index? = none) (other : (Key.named name == Key.length) = false) :
    Reads s (getValue (.object id) (.named name)) f := by
  obtain ⟨o, w, e, c, method, own⟩ := owns
  have nothing : (listOf vs).ownProperty? (.named name) = none := listOf_own unnumbered other
  have list : Ordinary s.objects id (listOf vs) := ⟨at_, rfl⟩
  have apart : Intrinsic.arrayPrototype.id ≠ id := by
    rintro rfl
    have same : o = listOf vs := Option.some.inj (method.place.symm.trans at_)
    rw [same, nothing] at own
    cases own
  exact (list.finds_behind nothing rfl apart method own).reads

theorem reads_isList (ready : Ready s) (at_ : s.objects[id]? = some o) {answer : Bool}
    (kind : match o.kind with
      | .array .. => answer = true
      | .plain => answer = false
      | _ => False) : Reads s (renderHost.isList (.object id)) answer := by
  obtain ⟨f, owns, function⟩ := ready.standard.isArray
  have member := reads_globalMember (ready.globals "Array" (by simp)) ready.standard.lists owns
  refine member.bind (function.reads.bind ?_)
  refine (reads_objectAt id).bind ?_
  rw [object_of_place at_]
  cases found : o.kind with
  | array es l b =>
    rw [found] at kind
    exact kind ▸ reads_pure _
  | plain =>
    rw [found] at kind
    exact kind ▸ reads_pure _
  | _ =>
    rw [found] at kind
    cases kind

/-- The values of a list one after the other; `I` says what has been reached behind each. -/
theorem gives_foldList {σ : Type} {start : σ} {step : σ → Nat → Value → Run σ}
    {I : Nat → σ → Array Object → Prop} (ready : Ready s) (at_ : s.objects[id]? = some (listOf vs))
    (there : ∀ i c os, I i c os → os[id]? = some (listOf vs)) (begun : I 0 start s.objects)
    (h : ∀ i (hi : i < vs.length) c t, Around s t → I i c t.objects →
      Gives n (step c i vs[i]) t (I (i + 1))) :
    Gives (n + 6) (foldList (.object id) start step) s (I vs.length) := by
  obtain ⟨f, owns, function⟩ := ready.standard.forEach
  have method := reads_listMethod at_ owns (by decide) (by decide)
  refine method.gives_bind (function.reads.gives_bind ?_)
  refine (reads_pure id).gives_bind ((reads_lengthOf at_).gives_bind ?_)
  refine (gives_forIn_range (I := I) (fun i hi c t kept reached => ?_) begun).bind fun c t _ all => gives_pure all
  have list := there i c _ reached
  refine (reads_hasAt list hi).gives_bind ((reads_getAt list hi).gives_bind ?_)
  have around : Around s (t.entered 5) := kept.around.trans (around_entered 5 t)
  have inner : Gives n (step c i vs[i]) (t.entered 5) (I (i + 1)) := h i hi c _ around reached
  exact (gives_counted inner).bind fun d u _ reached' => gives_pure ⟨d, rfl, reached'⟩

section Listed

variable {names : List Str}
  (listed : ∀ t : State, t.objects = s.objects → Reads t (listedNames id) (names.map Key.text).toArray)

include listed

theorem gives_keys {holder keys : Value} (function : IsFunction s.objects keys .object "keys") :
    Gives 2 (Run.call keys holder #[.object id]) s fun v os =>
      v = .object s.objects.size ∧ os = s.objects.push (listOf (names.map Value.string)) := by
  obtain ⟨f, o, captured, isConstructor, rfl, place, kind⟩ := function
  refine gives_call (by rw [object_of_place place, kind]) ?_
  have opened : builtins ⟨.object, "keys", captured, isConstructor⟩ holder #[.object id] none = (do
      checkLimits
      let names ← listedNames (← toObject (.object id))
      newListValue (names.map keyValue)) := by
    unfold builtins
    rfl
  rw [opened]
  refine gives_checkLimits.bind fun _ t _ same => ?_
  refine (reads_pure id).gives_bind ((listed t same).gives_bind ?_)
  have values : (names.map Key.text).toArray.map keyValue = (names.map Value.string).toArray := by
    simp [Function.comp_def, keyValue]
  rw [values, ← same]
  refine (gives_allocate (P := fun new os => new = t.objects.size ∧ os = t.objects.push _) ⟨rfl, rfl⟩).bind ?_
  rintro new u _ ⟨rfl, there⟩
  exact gives_pure ⟨rfl, there⟩

/-- The names of an object one after the other. The list of the names is made first, behind all
objects, and stays as it is while they are gone through. -/
theorem gives_foldListed {σ : Type} {start : σ} {step : σ → Str → Run σ}
    {I : Nat → σ → Array Object → Prop} (ready : Ready s) (there : ∀ i c os, I i c os → os[s.objects.size]? = some (listOf (names.map Value.string)))
    (begun : I 0 start (s.objects.push (listOf (names.map Value.string))))
    (h : ∀ i (hi : i < names.length) c t, Around s t → I i c t.objects →
      Gives n (step c names[i]) t (I (i + 1))) :
    Gives (n + 6) (Builtin.foldNames (.object id) start step) s (I names.length) := by
  obtain ⟨f, owns, function⟩ := ready.standard.keys
  have member := reads_globalMember (ready.globals "Object" (by simp)) ready.standard.objects owns
  refine member.gives_bind (((gives_keys listed function).more (by omega)).bind ?_)
  rintro list t kept ⟨rfl, objects⟩
  have grown : Extends s.objects t.objects := objects ▸ extends_push _ _
  have ready' : Ready t := ready.step kept.around grown
  have loop : Gives (n + 6) (foldList (.object s.objects.size) start fun state _ name => do
      step state (← toText name)) t (I (names.map Value.string).length) :=
    gives_foldList ready' (objects ▸ push_last _ _) there (objects ▸ begun) fun i hi c u around reached => by
      have bound : i < names.length := by simpa using hi
      have name : (names.map Value.string)[i] = .string names[i] := by simp
      rw [name]
      exact (reads_pure names[i]).gives_bind (h i bound c u (kept.around.trans around) reached)
  simpa using loop

end Listed

section Names

variable {entries : List (String × Value)} (distinct : (entries.map Prod.fst).Nodup)
  (unnumbered : ∀ name ∈ entries.map Prod.fst, (Key.named name).index? = none)

include distinct unnumbered

theorem reads_listedNames (at_ : s.objects[id]? = some (record entries)) :
    Reads s (listedNames id) ((entries.map Prod.fst).map Key.named).toArray := by
  have place : Ordinary s.objects id (record entries) := ⟨at_, rfl⟩
  unfold listedNames
  refine place.reads_keys.bind ?_
  rw [record_keys distinct unnumbered]
  refine (reads_forIn (l := (entries.map Prod.fst).map Key.named)
    (g := fun i => (((entries.map Prod.fst).map Key.named).take i).toArray) fun i hi => ?_).bind ?_
  · have bound : i < entries.length := by simpa using hi
    have key : ((entries.map Prod.fst).map Key.named)[i] = .named entries[i].1 := by simp
    have found : entries.lookup entries[i].1 = some entries[i].2 := lookup_getElem distinct bound
    have own : (record entries).ownProperty? (.named entries[i].1) = some (.plain entries[i].2) := by
      rw [record_own distinct, found]
      rfl
    rw [key]
    refine place.reads_own.bind ?_
    rw [← List.take_append_getElem hi, key, ← List.push_toArray]
    rw [own]
    exact reads_pure _
  · rw [List.take_length]
    exact reads_pure _

theorem gives_foldNames {σ : Type} {start : σ} {step : σ → Str → Run σ}
    {I : Nat → σ → Array Object → Prop} (ready : Ready s) (at_ : s.objects[id]? = some (record entries))
    (there : ∀ i c os, I i c os →
      os[s.objects.size]? = some (listOf ((entries.map Prod.fst).map Value.text)))
    (begun : I 0 start (s.objects.push (listOf ((entries.map Prod.fst).map Value.text))))
    (h : ∀ i (hi : i < entries.length) c t, Around s t → I i c t.objects →
      Gives n (step c (.plain entries[i].1)) t (I (i + 1))) :
    Gives (n + 6) (Builtin.foldNames (.object id) start step) s (I entries.length) := by
  have values : ((entries.map Prod.fst).map Str.plain).map Value.string = (entries.map Prod.fst).map Value.text := by
    simp [Function.comp_def, Value.text]
  have keys : ((entries.map Prod.fst).map Str.plain).map Key.text = (entries.map Prod.fst).map Key.named := by
    simp [Function.comp_def, Key.named]
  have count : ((entries.map Prod.fst).map Str.plain).length = entries.length := by simp
  have loop : Gives (n + 6) (Builtin.foldNames (.object id) start step) s
      (I ((entries.map Prod.fst).map Str.plain).length) := gives_foldListed
    (fun t same => keys ▸ reads_listedNames distinct unnumbered (same ▸ at_)) ready (values ▸ there) (values ▸ begun)
    fun i hi c t around reached => by
      have name : ((entries.map Prod.fst).map Str.plain)[i] = .plain entries[i].1 := by simp
      rw [name]
      exact h i (count ▸ hi) c t around reached
  rwa [count] at loop

end Names

theorem gives_mapNodes {again : Value → Run Str} {texts : List Str} (ready : Ready s)
    (at_ : s.objects[id]? = some (listOf vs)) (count : texts.length = vs.length)
    (h : ∀ i (hi : i < vs.length) t, Around s t → Extends s.objects t.objects →
      Gives n (again vs[i]) t fun text os => texts[i]? = some text ∧ Extends t.objects os) :
    Gives (n + 6) (renderHost.mapNodes (.object id) again) s fun v os => ∃ new, v = .object new ∧
      os[new]? = some (listOf (texts.map .string)) ∧ s.objects.size ≤ new ∧ Extends s.objects os := by
  obtain ⟨f, owns, function⟩ := ready.standard.map
  have method := reads_listMethod at_ owns (by decide) (by decide)
  refine method.gives_bind (function.reads.gives_bind ?_)
  refine (reads_pure id).gives_bind ((reads_lengthOf at_).gives_bind ?_)
  refine Gives.bind (P := fun out os => out = ((texts.map Value.string).map some).toArray ∧ Extends s.objects os)
    (Gives.mono (gives_forIn_range (I := fun i out os =>
      out = (((texts.map Value.string).map some).take i).toArray ∧ Extends s.objects os) ?step ?begun)
      (Nat.le_refl _) ?all) ?behind
  case begun => exact ⟨by simp, .refl _⟩
  case step =>
    rintro i hi out t kept ⟨rfl, grown⟩
    have list : t.objects[id]? = some (listOf vs) := grown id _ at_
    refine (reads_hasAt list hi).gives_bind ((reads_getAt list hi).gives_bind ?_)
    have around : Around s (t.entered 5) := kept.around.trans (around_entered 5 t)
    have mapped : Gives (n + 6) (Value.string <$> counted 5 (again vs[i])) t fun w os =>
        ((texts.map Value.string).map some)[i]? = some (some w) ∧ Extends s.objects os := by
      refine Gives.map ((gives_counted (k := 5) (h i hi (t.entered 5) around grown)).mono (Nat.le_refl _) ?_)
      rintro text os ⟨found, more⟩
      exact ⟨by simp [found], grown.trans more⟩
    refine mapped.bind ?_
    rintro w u _ ⟨found, more⟩
    refine gives_pure ⟨_, rfl, ?_, more⟩
    rw [List.push_toArray, List.take_add_one, found]
    rfl
  case all =>
    rintro out os ⟨rfl, grown⟩
    refine ⟨?_, grown⟩
    rw [List.take_of_length_le (by simp [count])]
  case behind =>
    rintro out t kept ⟨rfl, grown⟩
    refine (gives_allocate (P := fun new os => new = t.objects.size ∧
      os = t.objects.push (listOf (texts.map .string))) ⟨rfl, ?_⟩).bind ?_
    · simp [listOf]
    rintro new u _ ⟨rfl, objects⟩
    refine gives_pure ⟨_, rfl, ?_, grown.size_le, ?_⟩
    · rw [objects]
      exact push_last _ _
    · rw [objects]
      exact grown.trans (extends_push _ _)

theorem reads_joinList {texts : List Str} (at_ : s.objects[id]? = some (listOf (texts.map .string)))
    (fresh : id ∉ s.joining) : Reads s (joinList id texts.length (.plain "")) (Str.concat texts) := by
  intro e
  have other : s.joining.contains id = false := by simpa using fresh
  have noted : (modify fun s => { s with joining := id :: s.joining } : Run Unit) e s =
      .ok () { s with joining := id :: s.joining } := rfl
  unfold joinList
  rw [run_bind (reads_get e), other]
  dsimp only
  rw [if_neg Bool.false_ne_true, run_bind noted]
  refine (run_bind (a := Str.concat texts) (t := { s with joining := id :: s.joining })
    (Reads.guarded ?loop e)).trans rfl
  case loop =>
    refine Reads.bind (a := Str.concat texts) ?_ (reads_pure _)
    have all : Str.concat (texts.take texts.length) = Str.concat texts := by rw [List.take_length]
    rw [← all]
    refine reads_forIn_range (g := fun i => Str.concat (texts.take i)) fun i hi => ?_
    have bound : i < (texts.map Value.string).length := by simpa using hi
    have next : Str.concat (texts.take (i + 1)) = Str.concat (texts.take i) ++ texts[i] := by
      rw [Str.concat_append, List.take_append_getElem]
    have spaced : Str.concat (texts.take i) ++ Str.plain "" = Str.concat (texts.take i) := by
      have blank := Str.concat_empty (texts.take i) []
      rw [List.append_nil] at blank
      rw [Str.concat_append]
      exact blank
    have there : ({ s with joining := id :: s.joining } : State).objects[id]? =
        some (listOf (texts.map .string)) := at_
    refine (reads_getAt there bound).bind ?_
    rw [List.getElem_map, spaced, next]
    split
    · exact reads_pure _
    · exact reads_pure _

theorem gives_joined {texts : List Str} (ready : Ready s) (at_ : s.objects[id]? = some (listOf (texts.map .string)))
    (fresh : id ∉ s.joining) :
    Gives 2 (renderHost.joined (.object id) (.plain "")) s fun text os =>
      text = Str.concat texts ∧ os = s.objects := by
  obtain ⟨f, owns, function⟩ := ready.standard.join
  have method := reads_listMethod at_ owns (by decide) (by decide)
  obtain ⟨f, o, captured, isConstructor, rfl, place, kind⟩ := function
  have opened : builtins ⟨.array, "join", captured, isConstructor⟩ (.object id) #[.text ""] none = (do
      checkLimits
      let id ← toObject (.object id)
      let n ← lengthOf id
      return .string (← joinList id n (.plain ""))) := by
    unfold builtins
    rfl
  have joined : Gives 2 (Run.call (.object f) (.object id) #[.text ""]) s fun v os =>
      v = .string (Str.concat texts) ∧ os = s.objects := by
    refine gives_call (by rw [object_of_place place, kind]) ?_
    rw [opened]
    refine gives_checkLimits.bind fun _ t kept same => ?_
    have there : t.objects[id]? = some (listOf (texts.map .string)) := same ▸ at_
    have length := reads_lengthOf there
    rw [List.length_map] at length
    refine (reads_pure id).gives_bind (length.gives_bind ?_)
    have text := reads_joinList there (kept.joining ▸ fresh)
    exact text.gives_bind (gives_pure ⟨rfl, same⟩)
  have invoked : Gives 2 (invoke (.object id) "join" #[.text ""]) s fun v os =>
      v = .string (Str.concat texts) ∧ os = s.objects := method.gives_bind joined
  refine invoked.bind ?_
  rintro _ t _ ⟨rfl, same⟩
  exact (reads_pure (Str.concat texts)).gives ⟨rfl, same⟩

theorem builtins_page {name : String} {captured : List Value} {isConstructor : Bool} {this : Value} {args : Array Value}
    (known : (name == "get [Symbol.species]") = false) :
    builtins ⟨.page, name, captured, isConstructor⟩ this args none =
      pageFunction ⟨.page, name, captured, isConstructor⟩ this args none := by
  unfold builtins builtinOf
  dsimp only
  rw [known]
  rfl

/-- A function of the handle counts as a call that puts by its arguments and two values more. -/
theorem gives_pageCall {f this : Value} {args : Array Value} {name : String} {P : Value → Array Object → Prop}
    (function : IsFunction s.objects f .page name) (known : (name == "get [Symbol.species]") = false)
    (h : ∀ captured isConstructor,
      Gives n (pageResult ⟨.page, name, captured, isConstructor⟩ this args) (s.entered (args.size + 2)) P) :
    Gives (n + args.size + 4) (Run.call f this args) s P := by
  obtain ⟨id, o, captured, isConstructor, rfl, place, kind⟩ := function
  refine gives_call (n := n + args.size + 3) (by rw [object_of_place place, kind]) ?_
  rw [builtins_page known]
  refine (reads_pure this).gives_bind ?_
  have inner := gives_counted (h captured isConstructor)
  exact (inner.more (by omega)).bind fun v t _ hv => gives_pure hv

theorem pageResult_renderNode (captured : List Value) (isConstructor : Bool) (this v : Value) :
    pageResult ⟨.page, "renderNode", captured, isConstructor⟩ this #[v] =
      (do return .string (← nodeMarkup renderHost renderAgain v)) := by
  unfold pageResult
  rfl

theorem gives_renderAgain {P : Str → Array Object → Prop} (ready : Ready s)
    (h : Gives n (nodeMarkup renderHost renderAgain v) (s.entered 3) P) :
    Gives (n + 5) (renderAgain v) s P := by
  have called : Gives (n + 5) (Run.call Intrinsic.pageRenderNode.value .undefined #[v]) s fun w os =>
      ∃ text, w = .string text ∧ P text os := by
    refine (gives_pageCall (n := n) ready.standard.renderNode (by decide) fun captured isConstructor => ?_).more
      (Nat.le_refl _)
    rw [pageResult_renderNode]
    exact h.bind fun text t _ there => gives_pure ⟨text, rfl, there⟩
  refine called.bind ?_
  rintro _ t _ ⟨text, rfl, there⟩
  exact gives_pure there

end PagePreview.Render
