import PagePreview.Proofs.Render.Host

/-!
# Elements are made as they are asked for

An element keeps its type, the properties of its configuration in their order, and its children
behind them: one as it is, several as a list.
-/

namespace PagePreview.Render
open Script Machine Builtin

variable {s : State} {os os' base : Array Object} {id pid n : Nat} {vs : List Value} {type config v : Value}
  {entries : List (String × Value)}

/-- What names an attribute may have: those that are listed in their order, that no object has from
its birth, and that mean nothing to an element. -/
structure IsPropertyName (name : String) : Prop where
  unnumbered : (Key.named name).index? = none
  uncommon : name ∉ inbornNames
  other : name ≠ "key" ∧ name ≠ "ref" ∧ name ≠ "children"

structure ArePlain (entries : List (String × Value)) : Prop where
  distinct : (entries.map Prod.fst).Nodup
  names : ∀ name ∈ entries.map Prod.fst, IsPropertyName name

theorem ArePlain.before {i : Nat} (h : ArePlain entries) (hi : i < entries.length) :
    ((entries.take i).map Prod.fst).Nodup ∧ entries[i].1 ∉ (entries.take i).map Prod.fst := by
  have front : ((entries.take (i + 1)).map Prod.fst).Nodup := by
    rw [List.map_take]
    exact h.distinct.sublist (List.take_sublist _ _)
  rw [← List.take_append_getElem hi, List.map_append, List.nodup_append] at front
  exact ⟨front.1, fun mem => front.2.2 _ mem _ (List.mem_singleton_self _) rfl⟩

def Configures (os : Array Object) (config : Value) (entries : List (String × Value)) : Prop :=
  (config = .null ∧ entries = []) ∨ ∃ id, config = .object id ∧ os[id]? = some (record entries)

def HoldsChildren (os : Array Object) : List Value → List (String × Value) → Prop
  | [], extra => extra = []
  | [child], extra => extra = [("children", child)]
  | children, extra => ∃ id, extra = [("children", .object id)] ∧ os[id]? = some (listOf children)

def elementObject (type props : Value) : Object :=
  record [("$$typeof", markSymbol .element), ("type", type), ("key", .null), ("ref", .null), ("props", props)]

def IsMade (os : Array Object) (v type : Value) (entries : List (String × Value)) (vs : List Value) : Prop :=
  ∃ id pid extra, v = .object id ∧ os[id]? = some (elementObject type (.object pid)) ∧
    os[pid]? = some (record (entries ++ extra)) ∧ HoldsChildren os vs extra

theorem Configures.extends (h : Configures os config entries) (more : Extends os os') :
    Configures os' config entries := by
  obtain none | ⟨id, same, at_⟩ := h
  · exact .inl none
  · exact .inr ⟨id, same, more id _ at_⟩

theorem HoldsChildren.extends {extra : List (String × Value)} (h : HoldsChildren os vs extra) (more : Extends os os') :
    HoldsChildren os' vs extra := by
  match vs, h with
  | [], h => exact h
  | [_], h => exact h
  | _ :: _ :: _, ⟨id, same, at_⟩ => exact ⟨id, same, more id _ at_⟩

theorem IsMade.extends (h : IsMade os v type entries vs) (more : Extends os os') :
    IsMade os' v type entries vs := by
  obtain ⟨id, pid, extra, same, at_, props, children⟩ := h
  exact ⟨id, pid, extra, same, more id _ at_, more pid _ props, children.extends more⟩

/-- What stands behind the other properties of an element, if anything does: its children. -/
theorem HoldsChildren.entry {extra : List (String × Value)} (h : HoldsChildren os vs extra) :
    extra = [] ∨ ∃ v, extra = [("children", v)] := by
  match vs, h with
  | [], h => exact .inl h
  | [child], h => exact .inr ⟨child, h⟩
  | _ :: _ :: _, ⟨id, h, _⟩ => exact .inr ⟨_, h⟩

theorem ArePlain.no_children (h : ArePlain entries) : "children" ∉ entries.map Prod.fst :=
  fun mem => (h.names _ mem).other.2.2 rfl

section Properties

variable {extra : List (String × Value)} (plain : ArePlain entries)
  (entry : extra = [] ∨ ∃ v, extra = [("children", v)])

include plain entry

theorem distinct_properties : ((entries ++ extra).map Prod.fst).Nodup := by
  obtain rfl | ⟨v, rfl⟩ := entry
  · rw [List.append_nil]
    exact plain.distinct
  · rw [List.map_append, List.nodup_append]
    refine ⟨plain.distinct, List.nodup_singleton _, ?_⟩
    rintro name mem _ child rfl
    rw [List.mem_singleton.mp child] at mem
    exact plain.no_children mem

theorem unnumbered_properties : ∀ name ∈ (entries ++ extra).map Prod.fst, (Key.named name).index? = none := by
  intro name mem
  rw [List.map_append, List.mem_append] at mem
  obtain mem | mem := mem
  · exact (plain.names name mem).unnumbered
  · obtain rfl | ⟨v, rfl⟩ := entry
    · cases mem
    · have same : name = "children" := List.mem_singleton.mp mem
      rw [same]
      decide

end Properties

/-- A record has nothing under a name that it was not given and that no object has from its birth. -/
theorem finds_absent {name : String} (bare : Bare s.objects) (distinct : (entries.map Prod.fst).Nodup)
    (at_ : s.objects[id]? = some (record entries)) (absent : name ∉ entries.map Prod.fst)
    (uncommon : name ∉ inbornNames) : Finds s id (.named name) .missing := by
  have own : (record entries).ownProperty? (.named name) = none := by
    rw [record_own distinct, Properties.lookup_eq_none absent]
    rfl
  obtain ⟨first, place, last, own'⟩ := bare
  have record_place : Ordinary s.objects id (record entries) := ⟨at_, rfl⟩
  exact record_place.finds_nothing_behind own rfl place (own' name uncommon) last

theorem gives_setProperty {name : String} (bare : Bare s.objects) (distinct : (entries.map Prod.fst).Nodup)
    (at_ : s.objects[id]? = some (record entries)) (absent : name ∉ entries.map Prod.fst)
    (uncommon : name ∉ inbornNames) (grown : Extends base s.objects) (behind : base.size ≤ id) :
    Gives n (renderHost.set (.object id) (.plain name) v) s fun _ os => Extends base os ∧
      os[id]? = some (record (entries ++ [(name, v)])) ∧
      ∀ (other : Nat) (o : Object), other ≠ id → s.objects[other]? = some o → os[other]? = some o := by
  have own : (record entries).ownProperty? (.named name) = none := by
    rw [record_own distinct, Properties.lookup_eq_none absent]
    rfl
  have missing := finds_absent bare distinct at_ absent uncommon
  refine gives_set at_ rfl rfl own missing ⟨grown.modify behind, ?_, fun other o apart there => ?_⟩
  · rw [← record_append]
    exact modify_here at_
  · exact modify_there (Ne.symm apart) there

theorem reads_record {i : Nat} (at_ : s.objects[id]? = some (record entries))
    (distinct : (entries.map Prod.fst).Nodup) (hi : i < entries.length) :
    Reads s (renderHost.get (.object id) (.plain entries[i].1)) entries[i].2 := by
  have own : (record entries).ownProperty? (.named entries[i].1) = some (.plain entries[i].2) := by
    rw [record_own distinct, lookup_getElem distinct hi]
    rfl
  have place : Ordinary s.objects id (record entries) := ⟨at_, rfl⟩
  exact (place.finds own).reads

theorem reads_last {name : String} (at_ : s.objects[id]? = some (record (entries ++ [(name, v)])))
    (distinct : ((entries ++ [(name, v)]).map Prod.fst).Nodup) :
    Reads s (renderHost.prop (.object id) name) v := by
  have bound : entries.length < (entries ++ [(name, v)]).length := by simp
  have last : (entries ++ [(name, v)])[entries.length] = (name, v) := by simp
  have value := reads_record at_ distinct bound
  rw [last] at value
  exact value

theorem gives_copyProperties {who : Identity Value} (ready : Ready s) (bare : Bare base)
    (plain : ArePlain entries) (grown : Extends base s.objects) (behind : base.size ≤ pid) (config_at : Configures base config entries)
    (at_ : s.objects[pid]? = some (record [])) :
    Gives 6 (copyProperties renderHost true config (.object pid) who) s fun who' os => who' = who ∧
      Extends base os ∧ os[pid]? = some (record entries) := by
  obtain ⟨rfl, rfl⟩ | ⟨id, rfl, given⟩ := config_at
  · exact gives_pure ⟨rfl, grown, at_⟩
  have config_place : s.objects[id]? = some (record entries) := grown id _ given
  have object : Reads s (renderHost.isNullish (.object id)) false :=
    (reads_shapeOf_object config_place (.inl rfl)).bind (reads_pure _)
  refine object.gives_bind ?_
  have list_apart : s.objects.size ≠ pid := Nat.ne_of_gt (size_of_place at_)
  refine (gives_foldNames (n := 0) (I := fun i who' os => who' = who ∧ Extends base os ∧
    os[pid]? = some (record (entries.take i)) ∧
    os[s.objects.size]? = some (listOf ((entries.map Prod.fst).map Value.text)))
    plain.distinct (fun name mem => (plain.names name mem).unnumbered) ready config_place
    (fun i c os reached => reached.2.2.2) ⟨rfl, grown.trans (extends_push _ _), ?_, push_last _ _⟩ ?_).mono
    (Nat.le_refl _) fun who' os reached => ⟨reached.1, reached.2.1, ?_⟩
  · exact extends_push _ _ pid _ at_
  · rintro i hi _ t around ⟨rfl, more, props, list⟩
    have mem : entries[i].1 ∈ entries.map Prod.fst := List.mem_map_of_mem (List.getElem_mem hi)
    have name := plain.names _ mem
    have key : (Str.plain entries[i].1 == .plain "key") = false := by simpa using name.other.1
    have ref : (Str.plain entries[i].1 == .plain "ref") = false := by simpa using name.other.2.1
    rw [key, ref]
    have given_place : t.objects[id]? = some (record entries) := more id _ given
    refine (reads_record given_place plain.distinct hi).gives_bind ?_
    obtain ⟨distinct, absent⟩ := plain.before hi
    refine (gives_setProperty (bare.extends more) distinct props absent name.uncommon more behind).bind ?_
    rintro _ u _ ⟨more', props', others⟩
    refine gives_pure ⟨rfl, more', ?_, others _ _ list_apart list⟩
    rw [props', List.take_append_getElem]
  · rw [reached.2.2.1, List.take_length]

theorem gives_giveChildren (bare : Bare base) (plain : ArePlain entries) (grown : Extends base s.objects)
    (behind : base.size ≤ pid) (at_ : s.objects[pid]? = some (record entries)) (vs : List Value) :
    Gives n (giveChildren renderHost (.object pid) vs) s fun _ os => Extends base os ∧
      ∃ extra, os[pid]? = some (record (entries ++ extra)) ∧ HoldsChildren os vs extra := by
  have uncommon : "children" ∉ inbornNames := by decide
  match vs with
  | [] => exact gives_pure ⟨grown, [], by rw [List.append_nil, at_], rfl⟩
  | [child] =>
    refine (gives_setProperty (bare.extends grown) plain.distinct at_ plain.no_children uncommon grown behind).mono
      (Nat.le_refl _) ?_
    rintro _ os ⟨more, props, -⟩
    exact ⟨more, _, props, rfl⟩
  | first :: second :: rest =>
    refine Gives.bind (P := fun v os => v = .object s.objects.size ∧
      os = s.objects.push (listOf (first :: second :: rest))) ?_ ?_
    · exact (gives_allocate (P := fun new os => new = s.objects.size ∧ os = s.objects.push _) ⟨rfl, rfl⟩).bind
        fun new t _ there => gives_pure ⟨by rw [there.1], there.2⟩
    · rintro _ t _ ⟨rfl, objects⟩
      have kept : Extends s.objects t.objects := objects ▸ extends_push _ _
      have list : t.objects[s.objects.size]? = some (listOf (first :: second :: rest)) := objects ▸ push_last _ _
      refine (gives_setProperty (bare.extends (grown.trans kept)) plain.distinct (kept pid _ at_) plain.no_children
        uncommon (grown.trans kept) behind).mono (Nat.le_refl _) ?_
      rintro _ os ⟨more, props, others⟩
      exact ⟨more, _, props, _, rfl, others _ _ (Nat.ne_of_gt (size_of_place at_)) list⟩

inductive IsSimple : Value → Prop
  | text (tag : Str) : IsSimple (.string tag)
  | symbol (id : Nat) : IsSimple (.symbol id)

theorem reads_simpleType {name : String} (ready : Ready s) (simple : IsSimple type)
    (mem : name ∈ ["$$typeof", "defaultProps"]) : Reads s (renderHost.prop type name) .undefined := by
  have uncommon : name ∉ inbornNames := by
    rcases List.mem_pair.mp mem with rfl | rfl <;> decide
  have unnumbered : (Key.named name).index? = none := by
    rcases List.mem_pair.mp mem with rfl | rfl <;> decide
  have short : (Key.named name == Key.length) = false := by
    rcases List.mem_pair.mp mem with rfl | rfl <;> decide
  cases simple with
  | text tag =>
    have unit : unitProperty? (.named name) tag = none := by
      rw [unitProperty?, short, unnumbered]
      rfl
    have nothing := (ready.standard.textNames.finds_nothing ready.standard.bare mem uncommon).reads_undefined
      (r := .string tag)
    change Reads s (getValue (.string tag) (.named name)) .undefined
    unfold getValue
    simp only [unit]
    exact nothing
  | symbol id =>
    have nothing := (ready.standard.symbolNames.finds_nothing ready.standard.bare mem uncommon).reads_undefined
      (r := .symbol id)
    exact reads_get.bind nothing

theorem reads_giveDefaults (ready : Ready s) (simple : IsSimple type) (props : Value) :
    Reads s (giveDefaults renderHost type props) () := by
  have nothing : Reads s (renderHost.prop type "defaultProps") .undefined :=
    reads_simpleType ready simple (by simp)
  unfold giveDefaults
  split
  · exact nothing.map.bind (reads_pure _)
  · exact reads_pure _

theorem gives_newRecord (fields : List (String × Value)) :
    Gives n (renderHost.newRecord fields) s fun v os =>
      v = .object s.objects.size ∧ os = s.objects.push (record fields) :=
  (gives_allocate (P := fun new os => new = s.objects.size ∧ os = s.objects.push (record fields)) ⟨rfl, rfl⟩).bind
    fun new _ _ there => gives_pure ⟨by rw [there.1], there.2⟩

theorem gives_createElement (ready : Ready s) (simple : IsSimple type) (plain : ArePlain entries)
    (config_at : Configures s.objects config entries) (vs : List Value) :
    Gives 6 (createElement renderHost type config vs) s fun v os =>
      IsMade os v type entries vs ∧ Extends s.objects os := by
  refine (gives_newRecord []).bind ?_
  rintro _ t kept ⟨rfl, objects⟩
  have grown : Extends s.objects t.objects := objects ▸ extends_push _ _
  have ready' : Ready t := ready.step kept.around grown
  refine (gives_copyProperties ready' ready.standard.bare plain grown (Nat.le_refl _) config_at
    (objects ▸ push_last _ _)).bind ?_
  rintro _ u kept' ⟨rfl, more, props⟩
  refine (gives_giveChildren ready.standard.bare plain more (Nat.le_refl _) props vs).bind ?_
  rintro _ w kept'' ⟨most, extra, filled, children⟩
  have ready'' : Ready w := ready.step (kept.around.trans (kept'.around.trans kept''.around)) most
  refine (reads_giveDefaults ready'' simple _).gives_bind ?_
  refine (gives_newRecord _).mono (Nat.le_refl _) ?_
  rintro _ os ⟨rfl, same⟩
  have last : Extends w.objects os := same ▸ extends_push _ _
  exact ⟨⟨_, _, extra, rfl, same ▸ push_last _ _, last _ _ filled, children.extends last⟩, most.trans last⟩

theorem pageResult_createElement (captured : List Value) (isConstructor : Bool) (this : Value)
    (args : Array Value) : pageResult ⟨.page, "createElement", captured, isConstructor⟩ this args =
      createElement renderHost (argument args 0) (argument args 1) (args.toList.drop 2) := by
  unfold pageResult
  rfl

theorem gives_elementCall {create this : Value} (ready : Ready s) (simple : IsSimple type)
    (plain : ArePlain entries) (function : IsFunction s.objects create .page "createElement")
    (config_at : Configures s.objects config entries) (vs : List Value) :
    Gives (vs.length + 12) (Run.call create this (type :: config :: vs).toArray) s fun v os =>
      IsMade os v type entries vs ∧ Extends s.objects os := by
  have inside : Ready (s.entered ((type :: config :: vs).toArray.size + 2)) :=
    ready.step (around_entered _ s) (.refl _)
  refine (gives_pageCall (n := 6) function (by decide) fun captured isConstructor => ?_).more ?_
  · rw [pageResult_createElement]
    exact gives_createElement inside simple plain config_at vs
  · simp
    omega

end PagePreview.Render
