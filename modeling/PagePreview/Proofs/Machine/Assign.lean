import PagePreview.Proofs.Machine.Realm
import Mathlib.Logic.Function.Basic

/-!
# Assigning properties

An object whose properties were all made by assignments holds a function from keys to values, and an
assignment updates that function. The names that every object answers to stand in nobody's way: they
are plain properties of the first object, `__proto__` apart.
-/

namespace PagePreview.Machine
open Script Run Builtin

variable {s : State} {os os' : Array Object} {id : Nat} {o : Object} {k : Key} {v w : Value}
  {f : Key → Option Value} {name : Str}

/-- The object has these properties, each as an assignment makes it, and no others. -/
structure Holds (o : Object) (f : Key → Option Value) : Prop where
  kind : o.kind = .plain
  proto : o.proto = some Intrinsic.objectPrototype.id
  growing : o.isExtensible = true
  sound : o.properties.Sound
  table : ∀ k, o.properties.get? k = (f k).map .plain

namespace Holds

theorem own (h : Holds o f) (k : Key) : o.ownProperty? k = (f k).map .plain := by
  rw [← h.table, Object.ownProperty?, h.kind]

theorem ordinary (h : Holds o f) (at_ : os[id]? = some o) : Ordinary os id o :=
  ⟨at_, by rw [h.kind]; rfl⟩

theorem store_eq (h : Holds o f) (p : Property) :
    o.store k p = { o with properties := o.properties.insert k p } := by
  obtain ⟨proto, kind, properties, isExtensible⟩ := o
  cases h.kind
  rfl

theorem store (h : Holds o f) (k : Key) (v : Value) :
    Holds (o.store k (.plain v)) (Function.update f k (some v)) := by
  rw [h.store_eq]
  refine ⟨h.kind, h.proto, h.growing, h.sound.insert k _, fun k' => ?_⟩
  rw [h.sound.get?_insert, h.table]
  by_cases same : k' = k
  · rw [if_pos same, same, Function.update_self]
    rfl
  · rw [if_neg same, Function.update_of_ne same]

theorem store_back (h : Holds o f) (there : f k = some v) :
    (o.store k (.plain w)).store k (.plain v) = o := by
  have found : o.properties.slots.toList.lookup k = some (.plain v) := by
    rw [← h.sound.get?_eq, h.table, there]
    rfl
  rw [(h.store k w).store_eq, h.store_eq]
  cases place : o.properties.keys.idxOf? k with
  | none =>
    have missing := Properties.lookup_eq_none (List.idxOf?_eq_none_iff.mp place)
    rw [missing] at found
    cases found
  | some i =>
    have again : (o.properties.insert k (.plain w)).keys.idxOf? k = some i := by
      rw [h.sound.insert_old place, Properties.Sound.keys_old place, place]
    obtain ⟨bound, slot⟩ := List.getElem?_eq_some_iff.mp (Properties.slot_eq place found)
    have slots : (o.properties.slots.set! i (k, .plain w)).set! i (k, .plain v) = o.properties.slots := by
      apply Array.toList_inj.mp
      rw [Array.set!_eq_setIfInBounds, Array.set!_eq_setIfInBounds, Array.toList_setIfInBounds,
        Array.toList_setIfInBounds, List.set_set, ← slot]
      exact List.set_getElem_self bound
    rw [(h.sound.insert k _).insert_old again, h.sound.insert_old place]
    dsimp only
    rw [slots]

theorem reads (h : Holds o f) (at_ : s.objects[id]? = some o) (there : f k = some v) (r : Value) :
    Reads s (getFrom id k r) v := by
  apply Finds.reads (w := true) (e := true) (c := true)
  apply (h.ordinary at_).finds
  rw [h.own, there]
  rfl

end Holds

theorem holds_empty : Holds (record []) fun _ => none :=
  ⟨rfl, rfl, rfl, .empty, fun k => Properties.Sound.empty.get?_eq k⟩

section Defining

variable {e : Engine} {fuel : Nat} (h : Holds o f) (at_ : s.objects[id]? = some o)

include h at_

theorem defineWithin_old {d : Description} {old : Value} (there : f k = some old)
    (allowed : d.over? (.plain old) = some (.plain v)) : defineWithin (fuel + 1) id k d e s =
      .ok true { s with objects := s.objects.modify id (·.store k (.plain v)) } := by
  rw [defineWithin, run_bind (reads_objectAt id e), object_of_place at_, h.kind]
  dsimp only
  rw [defineOrdinary, run_bind (reads_get e), object_of_place at_]
  simp only [h.kind]
  rw [defineStored, run_bind (reads_objectAt id e), object_of_place at_, h.own, there]
  dsimp only [Option.map_some]
  rw [allowed]
  rfl

/-- A literal or a copy gives an object a property, whether it has one of that name or not. -/
theorem createProperty_ok : createProperty id k v e s =
    .ok () { s with objects := s.objects.modify id (·.store k (.plain v)) } := by
  have defined : defineProperty id k (.ofProperty (.plain v)) e s =
      .ok true { s with objects := s.objects.modify id (·.store k (.plain v)) } := by
    cases there : f k with
    | none =>
      apply defineWithin_new at_ h.kind h.growing
      rw [h.own, there]
      rfl
    | some old => exact defineWithin_old h at_ there rfl
  rw [createProperty, mustDefine, run_bind defined]
  rfl

end Defining

/-- The names that every object answers to can be given to an object, `__proto__` apart. -/
def Assignable (os : Array Object) : Prop :=
  ∃ o, Ordinary os Intrinsic.objectPrototype.id o ∧ o.proto = none ∧
    ∀ k ≠ Key.named "__proto__", ∀ p, o.ownProperty? k = some p → p.isWritable = true

theorem Assignable.extends (h : Assignable os) (more : Extends os os') : Assignable os' := by
  obtain ⟨o, at_, proto, own⟩ := h
  exact ⟨o, at_.extends more, proto, own⟩

section Assigning

variable {e : Engine} {fuel n : Nat} (h : Holds o f) (at_ : s.objects[id]? = some o)

include h at_

theorem assignOwn_ok : assignOwn (.object id) k v e s =
    .ok true { s with objects := s.objects.modify id (·.store k (.plain v)) } := by
  have own : Reads s (ownProperty id k) ((f k).map .plain) := h.own k ▸ (h.ordinary at_).reads_own
  rw [assignOwn, run_bind (own e)]
  cases there : f k with
  | none =>
    apply defineWithin_new at_ h.kind h.growing
    rw [h.own, there]
    rfl
  | some old => exact defineWithin_old h at_ there rfl

variable (free : Assignable s.objects) (other : k ≠ .named "__proto__")

include free other

theorem finds_writable : Finds s id k .missing ∨
    ∃ q, Finds s id k (.property q) ∧ q.isWritable = true := by
  have place := h.ordinary at_
  obtain ⟨first, first_at, last, writable⟩ := free
  have apart : Intrinsic.objectPrototype.id ≠ id := by
    rintro rfl
    have same : o = first := Option.some.inj (at_.symm.trans first_at.place)
    have proto := h.proto
    rw [same, last] at proto
    cases proto
  cases there : f k with
  | some v => exact .inr ⟨.plain v, place.finds (by rw [h.own, there]; rfl), rfl⟩
  | none =>
    have own : o.ownProperty? k = none := by rw [h.own, there]; rfl
    cases behind : first.ownProperty? k with
    | none => exact .inl (place.finds_nothing_behind own h.proto first_at behind last)
    | some q => exact .inr ⟨q, place.finds_behind own h.proto apart first_at behind, writable k other q behind⟩

theorem setWithin_ok : setWithin (fuel + 1) id k v (.object id) e s =
    .ok true { s with objects := s.objects.modify id (·.store k (.plain v)) } := by
  rw [setWithin, run_bind (reads_get e), object_of_place at_, h.kind]
  obtain found | ⟨q, found, writable⟩ := finds_writable h at_ free other
  · rw [show s.find k s.objects.size id = _ from found]
    exact assignOwn_ok h at_
  · rw [show s.find k s.objects.size id = _ from found]
    cases q with
    | data w b e c =>
      cases (show b = true from writable)
      exact assignOwn_ok h at_
    | accessor g t e c => cases writable

theorem gives_assign {P : Unit → Array Object → Prop}
    (hP : P () (s.objects.modify id (·.store k (.plain v)))) :
    Gives n (setValue true (.object id) k v) s P := by
  refine gives_of_ok (t := { s with objects := s.objects.modify id (·.store k (.plain v)) })
    (fun fuel => ?_) ⟨rfl, rfl, rfl, rfl, rfl⟩ hP
  have done : setWithin standInDepth id k v (.object id) (engine builtins fuel) s = _ :=
    setWithin_ok h at_ free other
  rw [setValue, run_bind (reads_get _)]
  change (setWithin standInDepth id k v (.object id) >>= _) (engine builtins fuel) s = _
  rw [run_bind done]
  rfl

end Assigning

theorem mem_listed (ks : List Key) : Key.text name ∈ Key.listed ks ↔ Key.text name ∈ ks := by
  unfold Key.listed
  simp only [List.mem_append, List.mem_map, List.mem_mergeSort, List.mem_filterMap, List.mem_filter,
    Prod.exists, Option.map_eq_some_iff]
  constructor
  · rintro ((⟨i, _, ⟨k', mem, j, _, same⟩, rfl⟩ | ⟨mem, -⟩) | ⟨mem, -⟩)
    · cases same
      exact mem
    · exact mem
    · exact mem
  · intro mem
    cases index : (Key.text name).index? with
    | some i => exact .inl (.inl ⟨i, _, ⟨_, mem, i, index, rfl⟩, rfl⟩)
    | none => exact .inl (.inr ⟨mem, rfl⟩)

def Key.text? : Key → Option Str
  | .text name => some name
  | _ => none

def Object.names (o : Object) : List Str := o.keys.filterMap Key.text?

theorem Holds.mem_names (h : Holds o f) (name : Str) : name ∈ o.names ↔ (f (.text name)).isSome := by
  have keys : o.keys = Key.listed o.properties.keys := by
    unfold Object.keys
    rw [h.kind]
  have own : (o.properties.get? (.text name)).isSome ↔ Key.text name ∈ o.properties.keys := by
    rw [h.sound.get?_eq, ← not_iff_not, Bool.not_eq_true, Option.isSome_eq_false_iff]
    constructor
    · intro missing mem
      obtain ⟨slot, slot_mem, same⟩ := List.mem_map.mp mem
      have absent := List.lookup_eq_none_iff.mp (Option.isNone_iff_eq_none.mp missing) slot slot_mem
      simp [same] at absent
    · intro missing
      exact Option.isNone_iff_eq_none.mpr (Properties.lookup_eq_none missing)
  rw [h.table, Option.isSome_map] at own
  rw [own, ← mem_listed, ← keys, Object.names, List.mem_filterMap]
  constructor
  · rintro ⟨k, mem, found⟩
    cases k with
    | text n =>
      cases found
      exact mem
    | symbol i => cases found
    | hidden i => cases found
  · exact fun mem => ⟨_, mem, rfl⟩

theorem Holds.reads_listedNames (h : Holds o f) (at_ : s.objects[id]? = some o) :
    Reads s (listedNames id) (o.names.map Key.text).toArray := by
  have place := h.ordinary at_
  unfold listedNames
  refine place.reads_keys.bind ?_
  refine (reads_forIn (l := o.keys)
    (g := fun i => (((o.keys.take i).filterMap Key.text?).map Key.text).toArray) fun i hi => ?_).bind ?_
  · rw [← List.take_append_getElem hi, List.filterMap_append, List.map_append]
    cases key : o.keys[i] with
    | text n =>
      have there : (f (.text n)).isSome := by
        rw [← h.mem_names, Object.names, List.mem_filterMap]
        exact ⟨_, List.getElem_mem hi, by rw [key]; rfl⟩
      obtain ⟨v, value⟩ := Option.isSome_iff_exists.mp there
      refine place.reads_own.bind ?_
      rw [h.own, value]
      change Reads s (pure (ForInStep.yield (Array.push _ _))) _
      rw [List.push_toArray]
      exact reads_pure _
    | symbol j =>
      have nothing : [Key.symbol j].filterMap Key.text? = [] := rfl
      rw [nothing, List.map_nil, List.append_nil]
      exact reads_pure _
    | hidden j =>
      have nothing : [Key.hidden j].filterMap Key.text? = [] := rfl
      rw [nothing, List.map_nil, List.append_nil]
      exact reads_pure _
  · rw [List.take_length]
    exact reads_pure _

namespace Realm

/-- Whether a plan gives the first object of all only what can be written, `__proto__` apart. -/
def isAssignable (p : Plan) : Bool :=
  let first := Intrinsic.objectPrototype.id
  sharesWithin p.size p.acts && first < p.size && isPlain (blueprint first p.acts).kind &&
    (blueprint first p.acts).proto.isNone &&
    (given first p.acts).all fun k => k == .named "__proto__" ||
      ((member? first k p.acts).map Property.isWritable).getD true

theorem plan_isAssignable : isAssignable plan = true := by decide +kernel

theorem assignable_of_isAssignable {p : Plan} (h : isAssignable p = true) : Assignable p.objects := by
  simp only [isAssignable, Bool.and_eq_true] at h
  obtain ⟨⟨⟨⟨shares, bound⟩, plain⟩, last⟩, members⟩ := h
  obtain ⟨o, at_, left⟩ := left_object shares (of_decide_eq_true bound)
  rw [← left.kind] at plain
  have kind : o.kind = .plain := by
    cases kind : o.kind with
    | plain => rfl
    | _ => rw [kind] at plain; cases plain
  refine ⟨o, ⟨at_, by rw [kind]; rfl⟩, left.proto.trans (Option.isNone_iff_eq_none.mp last), ?_⟩
  intro k other q own
  have table : o.ownProperty? k = o.properties.get? k := by
    rw [Object.ownProperty?, kind]
  rw [table, left.members] at own
  have mem : k ∈ given Intrinsic.objectPrototype.id p.acts := by
    by_contra absent
    rw [member?_eq_none absent] at own
    cases own
  have writable := List.all_eq_true.mp members k mem
  rw [own] at writable
  simpa [other] using writable

theorem assignable_initial (limits : Limits) : Assignable (State.initial limits).objects := by
  dsimp only [State.initial]
  exact assignable_of_isAssignable plan_isAssignable

end Realm
end PagePreview.Machine
