import PagePreview.Proofs.Machine.Step
import PagePreview.Proofs.Machine.Table
import Mathlib.Data.List.Nodup

/-!
# Objects and their properties

Objects without a rule of their own for properties are read along their prototypes, without a call.
What is made anew, a record or a list, stands behind all that was there before.
-/

namespace PagePreview.Machine
open Script Run

variable {s : State} {os os' base : Array Object} {id p : Nat} {o o' : Object} {k : Key} {v : Value}

/-- What is in the first store is also in the second, at the same places. -/
def Extends (os os' : Array Object) : Prop :=
  ∀ (id : Nat) (o : Object), os[id]? = some o → os'[id]? = some o

theorem Extends.refl (os : Array Object) : Extends os os := fun _ _ h => h

theorem Extends.trans (h : Extends base os) (h' : Extends os os') : Extends base os' :=
  fun id o there => h' id o (h id o there)

theorem size_of_place (h : os[id]? = some o) : id < os.size :=
  (Array.getElem?_eq_some_iff.mp h).1

theorem Extends.size_le (h : Extends base os) : base.size ≤ os.size := by
  refine Nat.le_of_not_lt fun less => ?_
  have there : base[os.size]? = some base[os.size] := Array.getElem?_eq_getElem less
  exact Nat.lt_irrefl _ (size_of_place (h _ _ there))

theorem extends_push (os : Array Object) (o : Object) : Extends os (os.push o) := by
  intro id o' there
  rw [Array.getElem?_push_lt (size_of_place there), ← Array.getElem?_eq_getElem (size_of_place there)]
  exact there

theorem push_last (os : Array Object) (o : Object) : (os.push o)[os.size]? = some o :=
  Array.getElem?_push_size

theorem Extends.modify {f : Object → Object} (h : Extends base os) (behind : base.size ≤ id) :
    Extends base (os.modify id f) := by
  intro id' o' there
  have other : id ≠ id' := by
    have := size_of_place there
    omega
  rw [Array.getElem?_modify, if_neg other]
  exact h id' o' there

theorem modify_here {f : Object → Object} (h : os[id]? = some o) : (os.modify id f)[id]? = some (f o) := by
  rw [Array.getElem?_modify, if_pos rfl, h]
  rfl

theorem modify_there {f : Object → Object} (other : p ≠ id) (h : os[id]? = some o) :
    (os.modify p f)[id]? = some o := by
  rw [Array.getElem?_modify, if_neg other]
  exact h

theorem object_of_place (h : s.objects[id]? = some o) : s.object id = o := by
  rw [State.object, Array.getD_eq_getD_getElem?, h]
  rfl

def Kind.isOrdinary : Kind → Bool
  | .proxy .. | .row _ | .arguments _ => false
  | _ => true

structure Ordinary (os : Array Object) (id : Nat) (o : Object) : Prop where
  place : os[id]? = some o
  kind : o.kind.isOrdinary = true

theorem Ordinary.extends (h : Ordinary os id o) (more : Extends os os') : Ordinary os' id o :=
  ⟨more id o h.place, h.kind⟩

theorem Ordinary.state_ownProperty? (h : Ordinary s.objects id o) : s.ownProperty? id k = o.ownProperty? k := by
  have kind := h.kind
  rw [State.ownProperty?, object_of_place h.place]
  cases found : o.kind <;> simp_all [Kind.isOrdinary]

theorem find_own {fuel : Nat} {q : Property} (h : Ordinary s.objects id o) (own : o.ownProperty? k = some q) :
    s.find k (fuel + 1) id = .property q := by
  have kind := h.kind
  rw [State.find, h.state_ownProperty?, object_of_place h.place, own]
  cases found : o.kind <;> simp_all [Kind.isOrdinary]

theorem find_behind {fuel : Nat} (h : Ordinary s.objects id o) (own : o.ownProperty? k = none)
    (proto : o.proto = some p) : s.find k (fuel + 1) id = s.find k fuel p := by
  have kind := h.kind
  rw [State.find, h.state_ownProperty?, State.endsAt, object_of_place h.place, own, proto]
  cases found : o.kind <;> simp_all [Kind.isOrdinary]

theorem find_nowhere {fuel : Nat} (h : Ordinary s.objects id o) (own : o.ownProperty? k = none)
    (proto : o.proto = none) : s.find k fuel id = .missing := by
  cases fuel with
  | zero => rfl
  | succ fuel =>
    have kind := h.kind
    rw [State.find, h.state_ownProperty?, object_of_place h.place, own, proto]
    cases found : o.kind <;> simp_all [Kind.isOrdinary]

def Finds (s : State) (id : Nat) (k : Key) (found : Found) : Prop := s.find k s.objects.size id = found

theorem Ordinary.finds {q : Property} (h : Ordinary s.objects id o) (own : o.ownProperty? k = some q) :
    Finds s id k (.property q) := by
  obtain ⟨n, size⟩ : ∃ n, s.objects.size = n + 1 := ⟨s.objects.size - 1, by have := size_of_place h.place; omega⟩
  rw [Finds, size]
  exact find_own h own

theorem Ordinary.finds_nothing (h : Ordinary s.objects id o) (own : o.ownProperty? k = none)
    (proto : o.proto = none) : Finds s id k .missing :=
  find_nowhere h own proto

theorem Ordinary.finds_behind {q : Property} (h : Ordinary s.objects id o) (own : o.ownProperty? k = none)
    (proto : o.proto = some p) (other : p ≠ id) (h' : Ordinary s.objects p o')
    (own' : o'.ownProperty? k = some q) : Finds s id k (.property q) := by
  obtain ⟨n, size⟩ : ∃ n, s.objects.size = n + 2 :=
    ⟨s.objects.size - 2, by have := size_of_place h.place; have := size_of_place h'.place; omega⟩
  rw [Finds, size, find_behind h own proto]
  exact find_own h' own'

theorem Ordinary.finds_nothing_behind (h : Ordinary s.objects id o) (own : o.ownProperty? k = none)
    (proto : o.proto = some p) (h' : Ordinary s.objects p o') (own' : o'.ownProperty? k = none)
    (last : o'.proto = none) : Finds s id k .missing := by
  obtain ⟨n, size⟩ : ∃ n, s.objects.size = n + 1 := ⟨s.objects.size - 1, by have := size_of_place h.place; omega⟩
  rw [Finds, size, find_behind h own proto]
  exact find_nowhere h' own' last

theorem Finds.reads_within {fuel : Nat} {r : Value} {w e c : Bool}
    (h : Finds s id k (.property (.data v w e c))) : Reads s (getWithin (fuel + 1) id k r) v := by
  rw [getWithin]
  refine reads_get.bind ?_
  rw [show s.find k s.objects.size id = _ from h]
  exact reads_pure v

theorem Finds.reads {r : Value} {w e c : Bool} (h : Finds s id k (.property (.data v w e c))) :
    Reads s (getFrom id k r) v :=
  h.reads_within

theorem Finds.reads_undefined_within {fuel : Nat} {r : Value} (h : Finds s id k .missing) :
    Reads s (getWithin (fuel + 1) id k r) .undefined := by
  rw [getWithin]
  refine reads_get.bind ?_
  rw [show s.find k s.objects.size id = _ from h]
  exact reads_pure _

theorem Finds.reads_undefined {r : Value} (h : Finds s id k .missing) :
    Reads s (getFrom id k r) .undefined :=
  h.reads_undefined_within

theorem Ordinary.reads_own_within {fuel : Nat} (h : Ordinary s.objects id o) :
    Reads s (ownWithin (fuel + 1) id k) (o.ownProperty? k) := by
  have kind := h.kind
  intro e
  rw [ownWithin, run_bind (reads_objectAt id e), object_of_place h.place, ← h.state_ownProperty?]
  cases found : o.kind <;> simp_all [Kind.isOrdinary] <;> rfl

theorem Ordinary.reads_own (h : Ordinary s.objects id o) : Reads s (ownProperty id k) (o.ownProperty? k) :=
  h.reads_own_within

theorem Ordinary.reads_keys_within {fuel : Nat} (h : Ordinary s.objects id o) :
    Reads s (keysWithin (fuel + 1) id) o.keys := by
  have kind := h.kind
  have listed : s.keys id = o.keys := by
    rw [State.keys, object_of_place h.place]
    cases found : o.kind <;> simp_all [Kind.isOrdinary]
  intro e
  rw [keysWithin, run_bind (reads_objectAt id e), object_of_place h.place, ← listed]
  clear listed
  cases found : o.kind <;> simp_all [Kind.isOrdinary] <;> rfl

theorem Ordinary.reads_keys (h : Ordinary s.objects id o) : Reads s (ownKeys id) o.keys :=
  h.reads_keys_within

theorem gives_allocate {n : Nat} {P : Nat → Array Object → Prop}
    (h : P s.objects.size (s.objects.push o)) : Gives n (allocate o) s P :=
  gives_of_ok (t := { s with objects := s.objects.push o }) (fun _ => rfl) ⟨rfl, rfl, rfl, rfl, rfl⟩ h

theorem gives_update {n : Nat} {f : Object → Object} {P : Unit → Array Object → Prop}
    (h : P () (s.objects.modify id f)) : Gives n (updateObject id f) s P :=
  gives_of_ok (t := { s with objects := s.objects.modify id f }) (fun _ => rfl)
    ⟨rfl, rfl, rfl, rfl, rfl⟩ h

section Assigning

variable {e : Engine} (h : s.objects[id]? = some o) (plain : o.kind = .plain)
  (growing : o.isExtensible = true) (absent : o.ownProperty? k = none)

include h plain growing absent

theorem defineWithin_new {fuel : Nat} : defineWithin (fuel + 1) id k (.ofProperty (.plain v)) e s =
    .ok true { s with objects := s.objects.modify id (·.store k (.plain v)) } := by
  rw [defineWithin, run_bind (reads_objectAt id e), object_of_place h, plain]
  dsimp only
  rw [defineOrdinary, run_bind (reads_get e), object_of_place h]
  simp only [plain]
  rw [defineStored, run_bind (reads_objectAt id e), object_of_place h, absent, plain]
  simp [growing]
  rfl

theorem setWithin_new {fuel : Nat} (missing : Finds s id k .missing) :
    setWithin (fuel + 1) id k v (.object id) e s =
      .ok true { s with objects := s.objects.modify id (·.store k (.plain v)) } := by
  have own : Reads s (ownProperty id k) none := absent ▸ Ordinary.reads_own ⟨h, by rw [plain]; rfl⟩
  rw [setWithin, run_bind (reads_get e), object_of_place h, plain,
    show s.find k s.objects.size id = _ from missing]
  dsimp only
  change assignOwn (.object id) k v e s = _
  rw [assignOwn, run_bind (own e)]
  exact defineWithin_new h plain growing absent

theorem gives_set {n : Nat} {P : Unit → Array Object → Prop} (missing : Finds s id k .missing)
    (hP : P () (s.objects.modify id (·.store k (.plain v)))) :
    Gives n (setValue true (.object id) k v) s P := by
  refine gives_of_ok (t := { s with objects := s.objects.modify id (·.store k (.plain v)) })
    (fun fuel => ?_) ⟨rfl, rfl, rfl, rfl, rfl⟩ hP
  have done : setWithin standInDepth id k v (.object id) (engine builtins fuel) s = _ :=
    setWithin_new h plain growing absent missing
  rw [setValue, run_bind (reads_get _)]
  change (setWithin standInDepth id k v (.object id) >>= _) (engine builtins fuel) s = _
  rw [run_bind done]
  rfl

end Assigning

/-- An object with properties of its own, as a literal makes it. -/
def record (entries : List (String × Value)) : Object where
  proto := some Intrinsic.objectPrototype.id
  properties := .ofList (entries.map fun (name, v) => (.named name, .plain v))

def listOf (vs : List Value) : Object where
  proto := some Intrinsic.arrayPrototype.id
  kind := .array (vs.toArray.map some) vs.toArray.size false

section Record

variable {entries : List (String × Value)} {name : String}

theorem named_injective : Function.Injective Key.named := by
  intro a b h
  cases h
  rfl

theorem lookup_named (entries : List (String × Value)) (name : String) :
    (entries.map fun (name, v) => (Key.named name, Property.plain v)).lookup (.named name) =
      (entries.lookup name).map .plain := by
  induction entries with
  | nil => rfl
  | cons entry entries ih =>
    rw [List.map_cons, List.lookup_cons, List.lookup_cons, ih]
    have same : (Key.named name == Key.named entry.1) = (name == entry.1) := by
      by_cases here : name = entry.1
      · simp [here]
      · simp [here, named_injective.ne here]
    rw [same]
    cases name == entry.1 <;> rfl

theorem lookup_getElem {i : Nat} (distinct : (entries.map Prod.fst).Nodup)
    (hi : i < entries.length) : entries.lookup entries[i].1 = some entries[i].2 := by
  induction entries generalizing i with
  | nil => cases hi
  | cons entry entries ih =>
    rw [List.map_cons, List.nodup_cons] at distinct
    cases i with
    | zero => exact List.lookup_cons_self
    | succ i =>
      have bound : i < entries.length := Nat.lt_of_succ_lt_succ hi
      have mem : entries[i].1 ∈ entries.map Prod.fst := List.mem_map_of_mem (List.getElem_mem bound)
      have other : (entries[i].1 == entry.1) = false := by
        have apart : entries[i].1 ≠ entry.1 := fun same => distinct.1 (same ▸ mem)
        simpa using apart
      rw [List.getElem_cons_succ, List.lookup_cons, other]
      exact ih distinct.2 _

theorem distinct_named (distinct : (entries.map Prod.fst).Nodup) :
    ((entries.map fun (name, v) => (Key.named name, Property.plain v)).map Prod.fst).Nodup := by
  have names : (entries.map fun (name, v) => (Key.named name, Property.plain v)).map Prod.fst =
      (entries.map Prod.fst).map Key.named := by simp
  rw [names]
  exact List.Nodup.map named_injective distinct

theorem record_own (distinct : (entries.map Prod.fst).Nodup) (name : String) :
    (record entries).ownProperty? (.named name) = (entries.lookup name).map .plain := by
  rw [← lookup_named, ← Properties.get?_ofList (distinct_named distinct)]
  rfl

theorem record_append (entries : List (String × Value)) (name : String) (v : Value) :
    (record entries).store (.named name) (.plain v) = record (entries ++ [(name, v)]) := by
  unfold record Object.store
  dsimp only
  rw [List.map_append, List.map_cons, List.map_nil, Properties.ofList_append]

theorem index?_named {c : Char} (mem : c ∈ name.toList) (other : ('0' ≤ c && c ≤ '9') = false) :
    (Key.named name).index? = none := by
  have some_other : (name.toList.all fun c => '0' ≤ c && c ≤ '9') = false := by
    rw [List.all_eq_false]
    exact ⟨c, mem, by simp [other]⟩
  unfold Key.named Key.index?
  dsimp only
  rw [some_other]
  split <;> rfl

theorem listed_named {names : List String} (unnumbered : ∀ n ∈ names, (Key.named n).index? = none) :
    Key.listed (names.map Key.named) = names.map Key.named := by
  have indices : (names.map Key.named).filterMap (fun k => k.index?.map (·, k)) = [] := by
    rw [List.filterMap_eq_nil_iff]
    intro k hk
    obtain ⟨n, hn, rfl⟩ := List.mem_map.mp hk
    rw [unnumbered n hn]
    rfl
  unfold Key.listed
  dsimp only
  rw [indices, List.mergeSort_nil]
  have parts : ∀ {xs ys : List Key}, xs = names.map Key.named → ys = [] →
      List.map Prod.snd ([] : List (Nat × Key)) ++ xs ++ ys = names.map Key.named := by
    rintro xs ys rfl rfl
    simp
  refine parts (List.filter_eq_self.mpr ?_) (List.filter_eq_nil_iff.mpr ?_)
  · intro k hk
    obtain ⟨n, hn, rfl⟩ := List.mem_map.mp hk
    change (Key.named n).index?.isNone = true
    rw [unnumbered n hn]
    rfl
  · intro k hk
    obtain ⟨n, hn, rfl⟩ := List.mem_map.mp hk
    simp [Key.named]

theorem record_keys (distinct : (entries.map Prod.fst).Nodup)
    (unnumbered : ∀ n ∈ entries.map Prod.fst, (Key.named n).index? = none) :
    (record entries).keys = (entries.map Prod.fst).map Key.named := by
  have names : (entries.map fun (name, v) => (Key.named name, Property.plain v)).map Prod.fst =
      (entries.map Prod.fst).map Key.named := by simp
  unfold record Object.keys
  dsimp only
  rw [Properties.keys_ofList (distinct_named distinct), names]
  exact listed_named unnumbered

end Record

section List

variable {vs : List Value} {i : Nat}

theorem listOf_own {name : String} (unnumbered : (Key.named name).index? = none)
    (other : (Key.named name == Key.length) = false) : (listOf vs).ownProperty? (.named name) = none := by
  have table : (listOf vs).properties.get? (.named name) = none := Properties.Sound.empty.get?_eq _
  have elements : elementProperty? (.named name) (vs.toArray.map some) = none := by
    rw [elementProperty?, unnumbered]
  unfold Object.ownProperty?
  change (if (Key.named name == Key.length) = true then _ else _) = none
  rw [other, elements]
  exact table

theorem element?_listOf (h : s.objects[id]? = some (listOf vs)) (hi : i < vs.length) :
    s.element? id i = some vs[i] := by
  rw [State.element?, object_of_place h]
  simp [listOf, hi]

theorem reads_hasAt (h : s.objects[id]? = some (listOf vs)) (hi : i < vs.length) :
    Reads s (hasAt id i) true := by
  refine reads_get.bind ?_
  rw [element?_listOf h hi]
  exact reads_pure true

theorem reads_getAt (h : s.objects[id]? = some (listOf vs)) (hi : i < vs.length) :
    Reads s (getAt id i) vs[i] := by
  refine reads_get.bind ?_
  rw [element?_listOf h hi]
  exact reads_pure _

theorem reads_lengthOf (h : s.objects[id]? = some (listOf vs)) : Reads s (lengthOf id) vs.length := by
  refine (reads_objectAt id).bind ?_
  rw [object_of_place h]
  exact reads_pure _

end List

end PagePreview.Machine
