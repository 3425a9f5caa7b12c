import PagePreview.Proofs.Render.Element
import PagePreview.Proofs.Render.Markup

/-!
# Elements are rendered as they show

`Shows` says of a value what markup it stands for, as far down as its children go; rendering the
value gives that markup. The induction is on how deep the children stand.
-/

namespace PagePreview.JsxTree
open Script Machine Builtin Render Text

variable {s t : State} {os os' : Array Object} {n m id : Nat} {v : Value} {name : String} {text : Str}

theorem notMem_of_isAttributeName {l : List String} (all : (l.all fun n => !isAttributeName n) = true)
    (small : isAttributeName name = true) : name ∉ l := by
  intro mem
  have not_small := List.all_eq_true.mp all name mem
  rw [small] at not_small
  cases not_small

theorem exists_smallLetter (small : isAttributeName name = true) : ∃ c ∈ name.toList, isSmallLetter c = true := by
  rw [isAttributeName, Bool.or_eq_true] at small
  cases letters : name.toList with
  | nil => simp [isSmallName, isDataName, letters, startsWith, after?] at small
  | cons c rest =>
    refine ⟨c, List.mem_cons_self, ?_⟩
    rw [isSmallName, isDataName, letters] at small
    obtain small | data := small
    · rw [Bool.and_eq_true] at small
      simpa using small.1
    · simp only [startsWith, Bool.or_eq_true] at data
      obtain data | data := data
      · by_cases first : 'd' = c
        · rw [← first]
          rfl
        · simp [after?, first] at data
      · by_cases first : 'a' = c
        · rw [← first]
          rfl
        · simp [after?, first] at data

theorem unnumbered_of_isAttributeName (small : isAttributeName name = true) :
    (Key.named name).index? = none := by
  obtain ⟨c, mem, letter⟩ := exists_smallLetter small
  refine index?_named mem ?_
  have above : ¬c ≤ '9' := by
    intro low
    simp only [isSmallLetter, Bool.or_eq_true, Bool.and_eq_true, decide_eq_true_eq] at letter
    obtain ⟨letter, -⟩ | letter := letter
    · exact absurd (Char.le_trans letter low) (by decide)
    · exact absurd (Char.le_trans letter low) (by decide)
  simp [above]

theorem uncommon_of_isAttributeName (small : isAttributeName name = true) (other : name ≠ "constructor") :
    name ∉ inbornNames := by
  have rest : name ∉ inbornNames.tail := notMem_of_isAttributeName (by decide) small
  intro mem
  rcases List.mem_cons.mp mem with first | later
  · exact other first
  · exact rest later

theorem isAttributeName_of_isSmallName (small : isSmallName name = true) : isAttributeName name = true := by
  rw [isAttributeName, small, Bool.true_or]

theorem Tag.uncommon (tag : Tag) : tag.name.text ∉ inbornNames :=
  uncommon_of_isAttributeName (isAttributeName_of_isSmallName tag.small) fun same =>
    tag.intrinsic (by simp [same])

theorem Attribute.uncommon (a : Attribute) : a.name.text ∉ inbornNames :=
  uncommon_of_isAttributeName a.small fun same => a.free (by simp [same])

theorem Attribute.isPropertyName (a : Attribute) : IsPropertyName a.name.text where
  unnumbered := unnumbered_of_isAttributeName a.small
  uncommon := a.uncommon
  other := ⟨fun same => a.free (by simp [same]), fun same => a.free (by simp [same]),
    fun same => a.free (by simp [same])⟩

theorem Attribute.unskipped (a : Attribute) : skippedProperties.contains a.name.text = false := by
  have named : a.name.text ∉ ["dangerouslySetInnerHTML", "suppressHydrationWarning",
      "suppressContentEditableWarning", "defaultValue", "defaultChecked"] :=
    notMem_of_isAttributeName (by decide) a.small
  have free := a.free
  rw [← Bool.not_eq_true, List.contains_iff_mem]
  intro mem
  simp only [skippedProperties, List.mem_cons, List.not_mem_nil, or_false, not_or] at mem named free
  tauto

theorem Attribute.no_handler (a : Attribute) : holdsOf isHandlerName (.plain a.name.text) = false := by
  have small := a.small
  rw [isAttributeName, Bool.or_eq_true] at small
  change isHandlerName a.name.text.toList = false
  rw [← Bool.not_eq_true]
  intro handler
  unfold isHandlerName at handler
  split at handler
  · rename_i c rest letters
    obtain small | data := small
    · rw [isSmallName, letters] at small
      simp [handler] at small
    · rw [isDataName, letters] at data
      simp [startsWith, after?] at data
  · cases handler

theorem attributeName_of_isAttributeName (small : isAttributeName name = true) :
    Render.attributeName (.plain name) = .plain name := by
  have aliases : attributeAliases.lookup name = none :=
    Properties.lookup_eq_none (notMem_of_isAttributeName (by decide) small)
  have capitals : smallAttributes.contains name = false := by
    rw [← Bool.not_eq_true, List.contains_iff_mem]
    exact notMem_of_isAttributeName (by decide) small
  have written : attributeChars name.toList = name.toList := by
    unfold attributeChars
    dsimp only
    rw [String.ofList_toList, aliases, capitals]
    rw [isAttributeName, Bool.or_eq_true] at small
    by_cases data : isDataName name.toList = true
    · simp [data]
    · obtain small | data' := small
      · rw [isSmallName, Bool.and_eq_true, Bool.not_eq_true'] at small
        simp [data, small.2]
      · exact absurd data' data
  rw [Render.attributeName, named, written, String.ofList_toList]

def Attribute.held (a : Attribute) : Value :=
  match a.value with
  | some raw => .string (.plain (String.ofList (JsxText.decode raw.toList)))
  | none => .bool true

def Attributes.entries (attributes : Attributes) : List (String × Value) :=
  attributes.list.map fun a => (a.name.text, a.held)

theorem Attributes.arePlain (attributes : Attributes) : ArePlain attributes.entries where
  distinct := by simpa [entries, Function.comp_def] using attributes.distinct
  names name mem := by
    simp only [entries, List.map_map, List.mem_map, Function.comp_apply] at mem
    obtain ⟨a, -, rfl⟩ := mem
    exact a.isPropertyName

theorem quotedAttribute_eq (name : String) (value : Str) : quotedAttribute (.plain name) value =
    Str.concat [.plain " ", .plain name, .plain "=\"", value, .plain "\""] := by
  have first := Str.append_eq_concat (.plain " ") (.plain name)
  unfold quotedAttribute
  rw [first]
  simp only [Str.concat_append]
  rfl

theorem Attribute.exists_shape (a : Attribute) (ready : Ready s) :
    ∃ shape, Reads s (renderHost.shape a.held) shape ∧
      Gives 4 (attributeMarkup renderHost (.plain a.name.text) a.held shape) s
        fun text os => text = a.markup ∧ os = s.objects := by
  have unstyled : (Str.plain a.name.text == .plain "style") = false := by
    have other : a.name.text ≠ "style" := fun same => a.free (by simp [same])
    simpa using other
  have named : Gives 4 (renderHost.framed 1 (return Render.attributeName (.plain a.name.text))) s
      fun name os => name = .plain a.name.text ∧ os = s.objects :=
    gives_counted (n := 0) (k := 3) (gives_pure ⟨attributeName_of_isAttributeName a.small, rfl⟩)
  cases given : a.value with
  | none =>
    have held : a.held = .bool true := by rw [Attribute.held, given]
    rw [held]
    refine ⟨.bool true, reads_pure _, ?_⟩
    unfold attributeMarkup
    dsimp only
    rw [a.no_handler, unstyled]
    refine named.bind ?_
    rintro _ t _ ⟨rfl, same⟩
    refine gives_pure ⟨?_, same⟩
    have shown : a.shown = .plain (if isDataName a.name.text.toList then "true" else "") := by
      rw [Attribute.shown, given]
    rw [Attribute.markup, shown, ← quotedAttribute_eq]
    change quotedAttribute _ (if isDataName a.name.text.toList = true then "true" else "") = _
    split <;> rfl
  | some raw =>
    have held : a.held = .string (.plain (String.ofList (JsxText.decode raw.toList))) := by
      rw [Attribute.held, given]
    rw [held]
    refine ⟨.text _, reads_pure _, ?_⟩
    unfold attributeMarkup
    dsimp only
    rw [a.no_handler, unstyled]
    refine named.bind ?_
    rintro _ t kept ⟨rfl, same⟩
    have ready' : Ready t := ready.step kept.around (same ▸ .refl _)
    refine (gives_escapedText ready' _).bind ?_
    rintro _ u _ ⟨rfl, same'⟩
    refine gives_pure ⟨?_, same'.trans same⟩
    rw [quotedAttribute_eq, escape_eq, Attribute.markup, Attribute.shown, given]

theorem Attributes.gives_markup (attributes : Attributes) {extra : List (String × Value)} (ready : Ready s)
    (at_ : s.objects[id]? = some (record (attributes.entries ++ extra)))
    (entry : extra = [] ∨ ∃ v, extra = [("children", v)]) :
    Gives 14 (renderHost.framed 1 (attributesMarkup renderHost (.object id))) s fun text os =>
      text = Str.concat (attributes.list.map Attribute.markup) ∧ Extends s.objects os := by
  have plain := attributes.arePlain
  have distinct := distinct_properties plain entry
  have inside : Ready (s.entered 3) := ready.step (around_entered 3 s) (.refl _)
  refine gives_counted (n := 10) (k := 3) ?_
  let keys := listOf (((attributes.entries ++ extra).map Prod.fst).map Value.text)
  refine (gives_foldNames (n := 4) (I := fun i out os =>
    out = Str.concat ((attributes.list.map Attribute.markup).take i) ∧ Extends s.objects os ∧
      os[s.objects.size]? = some keys) distinct (unnumbered_properties plain entry) inside at_
    (fun i c os reached => reached.2.2) ⟨rfl, extends_push _ _, push_last _ _⟩ ?_).mono (Nat.le_refl _) ?_
  · rintro i hi _ t around ⟨rfl, grown, list⟩
    have ready' : Ready t := inside.step around grown
    have at' : t.objects[id]? = some (record (attributes.entries ++ extra)) := grown id _ at_
    by_cases more : i < attributes.list.length
    · have bound : i < attributes.entries.length := by simpa [Attributes.entries] using more
      have here : (attributes.entries ++ extra)[i] = (attributes.list[i].name.text, attributes.list[i].held) := by
        rw [List.getElem_append_left bound]
        simp [Attributes.entries]
      obtain ⟨shape, look, shown⟩ := attributes.list[i].exists_shape ready'
      have value := reads_record at' distinct hi
      rw [here] at value ⊢
      have listed := reads_isListed ready' attributes.list[i].uncommon skippedProperties
      rw [attributes.list[i].unskipped] at listed
      refine listed.gives_bind (value.gives_bind (look.gives_bind (shown.bind ?_)))
      rintro _ u _ ⟨rfl, same⟩
      refine gives_pure ⟨?_, same ▸ grown, same ▸ list⟩
      have next : i < (attributes.list.map Attribute.markup).length := by simpa using more
      rw [Str.concat_append, ← List.take_append_getElem next, List.getElem_map]
    · have rest : (attributes.list.map Attribute.markup).take (i + 1) =
          (attributes.list.map Attribute.markup).take i := by
        rw [List.take_of_length_le (by simp; omega), List.take_of_length_le (by simp; omega)]
      have here : (attributes.entries ++ extra)[i].1 = "children" := by
        obtain rfl | ⟨v, rfl⟩ := entry
        · simp [Attributes.entries, more] at hi
        · rw [List.getElem_append_right (by simp [Attributes.entries]; omega)]
          simp
      have listed : Reads t (isListed renderHost skippedProperties (.plain "children")) true :=
        reads_isListed ready' (by decide) skippedProperties
      rw [here]
      refine listed.gives_bind (gives_pure ⟨?_, grown, list⟩)
      rw [rest]
  · rintro _ os ⟨rfl, grown, -⟩
    refine ⟨?_, grown⟩
    rw [List.take_of_length_le (by simp [Attributes.entries])]

/-- The value stands for the markup, in a store, and rendering it takes no more room than `n`. -/
inductive Shows (os : Array Object) : Nat → Value → Str → Prop
  | text {n : Nat} (s : Str) (room : 9 ≤ n) : Shows os n (.string s) (escaped s)
  | null {n : Nat} (room : 9 ≤ n) : Shows os n .null .empty
  | bool {n : Nat} (b : Bool) (room : 9 ≤ n) : Shows os n (.bool b) .empty
  | element {n m : Nat} {v : Value} {vs : List Value} {texts : List Str} (tag : Tag) (attributes : Attributes)
      (made : IsMade os v (.string (.plain tag.name.text)) attributes.entries vs)
      (count : texts.length = vs.length)
      (each : ∀ (i : Nat) (w : Value) (text : Str), vs[i]? = some w → texts[i]? = some text → Shows os n w text)
      (room : n + 20 ≤ m) : Shows os m v (elementText tag attributes (Str.concat texts))
  | fragment {n m : Nat} {v : Value} {vs : List Value} {texts : List Str}
      (made : IsMade os v (markSymbol .fragment) [] vs) (count : texts.length = vs.length)
      (each : ∀ (i : Nat) (w : Value) (text : Str), vs[i]? = some w → texts[i]? = some text → Shows os n w text)
      (room : n + 20 ≤ m) : Shows os m v (Str.concat texts)

theorem Shows.more (h : Shows os n v text) (le : n ≤ m) : Shows os m v text := by
  cases h with
  | text s room => exact .text s (by omega)
  | null room => exact .null (by omega)
  | bool b room => exact .bool b (by omega)
  | element tag attributes made count each room => exact .element tag attributes made count each (by omega)
  | fragment made count each room => exact .fragment made count each (by omega)

theorem Shows.extends (h : Shows os n v text) (more : Extends os os') : Shows os' n v text := by
  induction h with
  | text s room => exact .text s room
  | null room => exact .null room
  | bool b room => exact .bool b room
  | element tag attributes made count each room ih =>
    exact .element tag attributes (made.extends more) count ih room
  | fragment made count each room ih => exact .fragment (made.extends more) count ih room

theorem Shows.isProper (h : Shows os n v text) : text.IsProper := by
  cases h with
  | text s room => exact isProper_escaped s
  | null room => exact Str.isProper_plain ""
  | bool b room => exact Str.isProper_plain ""
  | element tag attributes made count each room => exact Str.isProper_concat _
  | fragment made count each room => exact Str.isProper_concat _

structure Renders (n : Nat) (s : State) (vs : List Value) (texts : List Str) : Prop where
  count : texts.length = vs.length
  proper : ∀ text ∈ texts, text.IsProper
  each : ∀ i (hi : i < vs.length) t, Around s t → Extends s.objects t.objects →
    Gives n (renderAgain vs[i]) t fun text os => texts[i]? = some text ∧ Extends t.objects os

variable {vs : List Value} {texts : List Str} {entries extra : List (String × Value)}

theorem Renders.step (h : Renders n s vs texts) (around : Around s t) (grown : Extends s.objects t.objects) :
    Renders n t vs texts where
  count := h.count
  proper := h.proper
  each i hi u around' grown' := h.each i hi u (around.trans around') (grown.trans grown')

/-- The children of an element, whatever their number, are rendered one after the other. -/
theorem gives_children (ready : Ready s) (plain : ArePlain entries)
    (at_ : s.objects[id]? = some (record (entries ++ extra))) (holds : HoldsChildren s.objects vs extra)
    (renders : Renders n s vs texts) :
    Gives (n + 11) (do renderAgain (← renderHost.prop (.object id) "children")) s fun text os =>
      text = Str.concat texts ∧ Extends s.objects os := by
  have distinct := distinct_properties plain holds.entry
  have inside : Ready (s.entered 3) := ready.step (around_entered 3 s) (.refl _)
  match vs, holds with
  | [], none_there =>
    have empty : texts = [] := List.eq_nil_of_length_eq_zero renders.count
    rw [none_there, List.append_nil] at at_
    have nothing := (finds_absent ready.standard.bare plain.distinct at_ plain.no_children (by decide)).reads_undefined
      (r := .object id)
    refine nothing.gives_bind ((gives_renderAgain (n := 0) ready ?_).more (by omega))
    refine (reads_pure Shape.undefined).gives_bind (gives_pure ⟨?_, .refl _⟩)
    rw [empty]
    rfl
  | [child], one_there =>
    subst one_there
    refine (reads_last at_ distinct).gives_bind ?_
    refine (renders.each 0 (by simp) s (.refl s) (.refl _)).mono (by omega) ?_
    rintro text os ⟨found, more⟩
    have whole : texts = [text] := by
      obtain ⟨only, rfl⟩ := List.length_eq_one_iff.mp renders.count
      rw [Option.some.inj found]
    refine ⟨?_, more⟩
    rw [whole, Str.concat_singleton (renders.proper text (whole ▸ List.mem_singleton_self _))]
  | first :: second :: rest, ⟨list, some_there, list_at⟩ =>
    subst some_there
    refine (reads_last at_ distinct).gives_bind ?_
    refine (gives_renderAgain (n := n + 6) ready ?_).more (by omega)
    have object : Reads (s.entered 3) (renderHost.shape (.object list)) .object :=
      reads_shapeOf_object list_at (.inr ⟨_, _, _, rfl⟩)
    have isList : Reads (s.entered 3) (renderHost.isList (.object list)) true :=
      reads_isList inside list_at rfl
    refine object.gives_bind (isList.gives_bind ?_)
    have inner : Renders n (s.entered 3) (first :: second :: rest) texts :=
      renders.step (around_entered 3 s) (.refl _)
    refine (gives_mapNodes inside list_at inner.count inner.each).bind ?_
    rintro _ t kept ⟨new, rfl, there, fresh, grown⟩
    have ready' : Ready t := inside.step kept.around grown
    have unjoined : new ∉ t.joining := by
      rw [kept.joining]
      exact fun mem => Nat.lt_irrefl _ (Nat.lt_of_lt_of_le (ready.joining new mem) fresh)
    refine (gives_joined ready' there unjoined).mono (by omega) ?_
    rintro text os ⟨rfl, same⟩
    exact ⟨rfl, same ▸ grown⟩

section Element

variable (tag : Tag) (attributes : Attributes) (ready : Ready s)
  (at_ : s.objects[id]? = some (record (attributes.entries ++ extra)))
  (holds : HoldsChildren s.objects vs extra) (renders : Renders n s vs texts)

include ready at_ holds renders

theorem gives_contentMarkup :
    Gives (n + 11) (contentMarkup renderHost renderAgain (.plain tag.name.text) (.object id)) s
      fun text os => text = Str.concat texts ∧ Extends s.objects os := by
  have raw : "dangerouslySetInnerHTML" ∉ (attributes.entries ++ extra).map Prod.fst := by
    rw [List.map_append, List.mem_append]
    rintro (mem | mem)
    · simp only [Attributes.entries, List.map_map, List.mem_map, Function.comp_apply] at mem
      obtain ⟨a, -, same⟩ := mem
      exact notMem_of_isAttributeName (l := ["dangerouslySetInnerHTML"]) (by decide) a.small (by simp [same])
    · obtain rfl | ⟨v, rfl⟩ := holds.entry
      · cases mem
      · simp at mem
  have distinct := distinct_properties attributes.arePlain holds.entry
  have nothing := (finds_absent ready.standard.bare distinct at_ raw (by decide)).reads_undefined
    (r := .object id)
  have unfilled : (Str.plain tag.name.text == .plain "textarea") = false := by
    have other : tag.name.text ≠ "textarea" := fun same => tag.intrinsic (by simp [same])
    simpa using other
  unfold contentMarkup
  refine nothing.gives_bind ?_
  refine (reads_pure false).gives_bind ?_
  rw [unfilled]
  refine (reads_pure false).gives_bind ?_
  exact gives_children ready attributes.arePlain at_ holds renders

theorem gives_elementMarkup :
    Gives (n + 14) (elementMarkup renderHost renderAgain (.plain tag.name.text) (.object id)) s
      fun text os => text = elementText tag attributes (Str.concat texts) ∧ Extends s.objects os := by
  unfold elementMarkup
  refine ((attributes.gives_markup ready at_ holds.entry).more (by omega)).bind ?_
  rintro _ t kept ⟨rfl, grown⟩
  have start : Str.plain "<" ++ Str.plain tag.name.text ++ Str.concat (attributes.list.map Attribute.markup) =
      Str.concat ([.plain "<", .plain tag.name.text] ++ attributes.list.map Attribute.markup) := by
    rw [Str.append_eq_concat (.plain "<"), Str.concat_append, Str.concat_flatten, List.append_nil]
  have ready' : Ready t := ready.step kept.around grown
  have void := reads_isListed ready' tag.uncommon voidElements
  refine void.gives_bind ?_
  rw [start, elementText]
  split
  · exact gives_pure ⟨Str.concat_append _ _, grown⟩
  · have content := gives_contentMarkup tag attributes ready' (grown id _ at_) (holds.extends grown)
      (renders.step kept.around grown)
    refine (content.more (by omega)).bind ?_
    rintro _ u _ ⟨rfl, grown'⟩
    refine gives_pure ⟨?_, grown.trans grown'⟩
    simp [Str.concat_append]

end Element

theorem reads_noMark {type : Value} (ready : Ready s) (simple : IsSimple type) (k : Mark) :
    Reads s (do if renderHost.isTrue type then
      return renderHost.same (← renderHost.prop type "$$typeof") (renderHost.ofMark k) else return false) false := by
  have nothing : Reads s (renderHost.prop type "$$typeof") .undefined :=
    reads_simpleType ready simple (by simp)
  split
  · exact nothing.bind (reads_pure _)
  · exact reads_pure _

section Parts

variable {type props : Value} (at_ : s.objects[id]? = some (elementObject type props))

include at_

theorem reads_part {i : Nat} {part : String} {v : Value}
    (here : [("$$typeof", markSymbol .element), ("type", type), ("key", .null), ("ref", .null),
      ("props", props)][i]? = some (part, v)) : Reads s (renderHost.prop (.object id) part) v := by
  obtain ⟨hi, same⟩ := List.getElem?_eq_some_iff.mp here
  have distinct : ((["$$typeof", "type", "key", "ref", "props"] : List String)).Nodup := by decide
  have value := reads_record at_ distinct hi
  rw [same] at value
  exact value

theorem reads_isElement : Reads s (isElement renderHost (.object id)) true := by
  have object : Reads s (renderHost.shape (.object id)) .object := reads_shapeOf_object at_ (.inl rfl)
  have mark : Reads s (renderHost.prop (.object id) "$$typeof") (markSymbol .element) :=
    reads_part at_ (i := 0) rfl
  exact object.bind (mark.bind (reads_pure _))

end Parts

theorem gives_node {type : Value} {P : Str → Array Object → Prop} (ready : Ready s)
    (made : IsMade s.objects v type entries vs)
    (h : ∀ t pid extra, Ready t → Around s t → t.objects = s.objects →
      t.objects[pid]? = some (record (entries ++ extra)) → HoldsChildren t.objects vs extra →
      Gives (n + 4) (typeMarkup renderHost renderAgain type (.object pid)) t P) :
    Gives (n + 9) (renderAgain v) s P := by
  obtain ⟨id, pid, extra, rfl, at_, props, children⟩ := made
  have around := around_entered 3 s
  have inside : Ready (s.entered 3) := ready.step around (.refl _)
  refine (gives_renderAgain (n := n + 4) ready ?_).more (by omega)
  have object : Reads (s.entered 3) (renderHost.shape (.object id)) .object :=
    reads_shapeOf_object at_ (.inl rfl)
  have noList : Reads (s.entered 3) (renderHost.isList (.object id)) false := reads_isList inside at_ rfl
  refine object.gives_bind (noList.gives_bind ?_)
  have is_element : Gives 4 (renderHost.framed 1 (isElement renderHost (.object id))) (s.entered 3)
      fun answer os => answer = true ∧ os = s.objects := by
    have inner : Reads ((s.entered 3).entered 3) (isElement renderHost (.object id)) true := reads_isElement at_
    exact gives_counted (n := 0) (k := 3) (inner.gives ⟨rfl, rfl⟩)
  refine (is_element.more (by omega)).bind ?_
  rintro _ t kept ⟨rfl, same⟩
  have there : t.objects[id]? = some (elementObject type (.object pid)) := same ▸ at_
  have type_there : Reads t (renderHost.prop (.object id) "type") type := reads_part there (i := 1) rfl
  have props_there : Reads t (renderHost.prop (.object id) "props") (.object pid) := reads_part there (i := 4) rfl
  have grown : Extends s.objects t.objects := same ▸ .refl _
  refine type_there.gives_bind (props_there.gives_bind ?_)
  exact h t pid extra (inside.step kept.around grown) (around.trans kept.around) same (grown pid _ props)
    (children.extends grown)

theorem gives_element (tag : Tag) (attributes : Attributes) (ready : Ready s)
    (made : IsMade s.objects v (.string (.plain tag.name.text)) attributes.entries vs)
    (renders : Renders n s vs texts) :
    Gives (n + 20) (renderAgain v) s fun text os =>
      text = elementText tag attributes (Str.concat texts) ∧ Extends s.objects os := by
  refine (gives_node (n := n + 10) ready made fun t pid extra ready' around same props children => ?_).more
    (by omega)
  have unmarked (k : Mark) := reads_noMark ready' (.text (.plain tag.name.text)) k
  unfold typeMarkup
  refine (reads_pure (Shape.text (.plain tag.name.text))).gives_bind ?_
  refine (unmarked .provider).gives_bind ((unmarked .consumer).gives_bind ?_)
  have grown : Extends s.objects t.objects := same ▸ .refl _
  exact same ▸ gives_elementMarkup tag attributes ready' props children (renders.step around grown)

theorem gives_fragment (ready : Ready s) (made : IsMade s.objects v (markSymbol .fragment) [] vs)
    (renders : Renders n s vs texts) :
    Gives (n + 20) (renderAgain v) s fun text os => text = Str.concat texts ∧ Extends s.objects os := by
  refine (gives_node (n := n + 7) ready made fun t pid extra ready' around same props children => ?_).more
    (by omega)
  have grown : Extends s.objects t.objects := same ▸ .refl _
  have plain : ArePlain [] := ⟨List.nodup_nil, fun _ mem => by cases mem⟩
  exact same ▸ gives_children ready' plain props children (renders.step around grown)

theorem renders_of_shows (ready : Ready s) (grown : Extends os s.objects) (count : texts.length = vs.length)
    (each : ∀ (i : Nat) (w : Value) (text : Str), vs[i]? = some w → texts[i]? = some text → Shows os n w text)
    (ih : ∀ (i : Nat) (w : Value) (text : Str), vs[i]? = some w → texts[i]? = some text → ∀ {t : State}, Ready t →
      Extends os t.objects → Gives n (renderAgain w) t fun u os' => u = text ∧ Extends t.objects os') :
    Renders n s vs texts where
  count := count
  proper text mem := by
    obtain ⟨i, hi, rfl⟩ := List.mem_iff_getElem.mp mem
    have bound : i < vs.length := count ▸ hi
    exact (each i vs[i] _ (List.getElem?_eq_getElem bound) (List.getElem?_eq_getElem hi)).isProper
  each i hi t around more := by
    have bound : i < texts.length := count ▸ hi
    have ready' : Ready t := ready.step around more
    refine (ih i vs[i] texts[i] (List.getElem?_eq_getElem hi) (List.getElem?_eq_getElem bound) ready'
      (grown.trans more)).mono (Nat.le_refl _) ?_
    rintro text os' ⟨rfl, later⟩
    exact ⟨List.getElem?_eq_getElem bound, later⟩

theorem Shows.gives (h : Shows os n v text) (ready : Ready s) (grown : Extends os s.objects) :
    Gives n (renderAgain v) s fun t os' => t = text ∧ Extends s.objects os' := by
  induction h generalizing s with
  | text source room =>
    have inside : Ready (s.entered 3) := ready.step (around_entered 3 s) (.refl _)
    refine (gives_renderAgain (n := 4) ready ?_).more (by omega)
    refine (reads_pure (Shape.text source)).gives_bind ?_
    refine (gives_escapedText inside source).mono (Nat.le_refl _) ?_
    rintro _ os' ⟨rfl, same⟩
    exact ⟨escape_eq source, same ▸ .refl _⟩
  | null room =>
    refine (gives_renderAgain (n := 4) ready ?_).more (by omega)
    exact (reads_pure Shape.null).gives_bind (gives_pure ⟨rfl, .refl _⟩)
  | bool b room =>
    refine (gives_renderAgain (n := 4) ready ?_).more (by omega)
    exact (reads_pure (Shape.bool b)).gives_bind (gives_pure ⟨rfl, .refl _⟩)
  | element tag attributes made count each room ih =>
    have renders := renders_of_shows ready grown count each fun i w text hw ht => ih i w text hw ht
    exact (gives_element tag attributes ready (made.extends grown) renders).more room
  | fragment made count each room ih =>
    have renders := renders_of_shows ready grown count each fun i w text hw ht => ih i w text hw ht
    exact (gives_fragment ready (made.extends grown) renders).more room

end PagePreview.JsxTree
