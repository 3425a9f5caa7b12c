import PagePreview.Machine.Properties
import Mathlib.Data.List.Induction

/-!
# What tables of properties hold

A table that was filled by insertions has one slot for each key, and the index of a long one finds
what a search from the start would find. Both are kept as `Sound`; on a sound table, `get?` is the
lookup in the list of its slots.
-/

namespace PagePreview.Machine
namespace Properties

variable {ps : Properties} {k k' : Key} {p : Property} {entries : List (Key × Property)}

structure Sound (ps : Properties) : Prop where
  distinct : ps.keys.Nodup
  indexed : shortSize < ps.slots.size → ∀ k, ps.index[k]? = ps.keys.idxOf? k

theorem Sound.empty : Sound {} where
  distinct := List.nodup_nil
  indexed long := absurd long (by decide)

theorem findFrom_eq (slots : Array (Key × Property)) (k : Key) (i : Nat) :
    findFrom slots k i = (((slots.toList.drop i).map Prod.fst).idxOf? k).map (· + i) := by
  induction i using findFrom.induct slots k with
  | case1 i hi same =>
    have here : slots.toList.drop i = slots[i] :: slots.toList.drop (i + 1) :=
      List.drop_eq_getElem_cons hi
    rw [findFrom, dif_pos hi, if_pos same, here, List.map_cons, List.idxOf?_cons, if_pos same]
    simp
  | case2 i hi other ih =>
    have here : slots.toList.drop i = slots[i] :: slots.toList.drop (i + 1) :=
      List.drop_eq_getElem_cons hi
    rw [findFrom, dif_pos hi, if_neg other, ih, here, List.map_cons, List.idxOf?_cons, if_neg other]
    cases ((slots.toList.drop (i + 1)).map Prod.fst).idxOf? k with
    | none => rfl
    | some j => simp; omega
  | case3 i hi =>
    have past : slots.toList.drop i = [] := List.drop_eq_nil_of_le (by simpa using hi)
    rw [findFrom, dif_neg hi, past]
    rfl

theorem Sound.find?_eq (h : Sound ps) (k : Key) : ps.find? k = ps.keys.idxOf? k := by
  unfold find?
  split
  · rw [findFrom_eq, List.drop_zero]
    simp [keys]
  · exact h.indexed (by omega) k

theorem lookup_eq_of_idxOf? {i : Nat} (found : (entries.map Prod.fst).idxOf? k = some i) :
    entries.lookup k = entries[i]?.map Prod.snd := by
  induction entries generalizing i with
  | nil => cases found
  | cons slot entries ih =>
    rw [List.map_cons, List.idxOf?_cons] at found
    by_cases same : (slot.1 == k) = true
    · rw [if_pos same] at found
      cases found
      rw [← eq_of_beq same]
      exact List.lookup_cons_self
    · rw [if_neg same] at found
      obtain ⟨j, later, rfl⟩ := Option.map_eq_some_iff.mp found
      have other : (k == slot.1) = false := by
        rw [BEq.comm]
        exact Bool.eq_false_iff.mpr same
      rw [List.lookup_cons, other, List.getElem?_cons_succ]
      exact ih later

theorem slot_eq {i : Nat}
    (place : (entries.map Prod.fst).idxOf? k = some i) (found : entries.lookup k = some p) :
    entries[i]? = some (k, p) := by
  induction entries generalizing i with
  | nil => cases place
  | cons slot entries ih =>
    rw [List.map_cons, List.idxOf?_cons] at place
    by_cases same : (slot.1 == k) = true
    · rw [if_pos same] at place
      cases place
      rw [List.lookup_cons, ← eq_of_beq same, BEq.rfl] at found
      rw [List.getElem?_cons_zero, ← eq_of_beq same, ← Option.some.inj found]
    · rw [if_neg same] at place
      obtain ⟨j, later, rfl⟩ := Option.map_eq_some_iff.mp place
      have other : (k == slot.1) = false := by
        rw [BEq.comm]
        exact Bool.eq_false_iff.mpr same
      rw [List.lookup_cons, other] at found
      rw [List.getElem?_cons_succ]
      exact ih later found

theorem lookup_eq_none {α β : Type} [BEq α] [LawfulBEq α] {l : List (α × β)} {a : α}
    (missing : a ∉ l.map Prod.fst) : l.lookup a = none := by
  rw [List.lookup_eq_none_iff]
  intro slot mem
  have other : a ≠ slot.1 := fun same => missing (same ▸ List.mem_map_of_mem mem)
  simpa using other

theorem Sound.get?_eq (h : Sound ps) (k : Key) : ps.get? k = ps.slots.toList.lookup k := by
  rw [get?, h.find?_eq]
  cases found : ps.keys.idxOf? k with
  | none => exact (lookup_eq_none (List.idxOf?_eq_none_iff.mp found)).symm
  | some i =>
    rw [lookup_eq_of_idxOf? found]
    simp

theorem idxOf?_concat (ks : List Key) (k k' : Key) :
    (ks ++ [k]).idxOf? k' = (ks.idxOf? k').or (if k == k' then some ks.length else none) := by
  induction ks with
  | nil => simp [List.idxOf?_cons]
  | cons a ks ih =>
    rw [List.cons_append, List.idxOf?_cons, List.idxOf?_cons, ih]
    split
    · rfl
    · cases ks.idxOf? k' with
      | some i => rfl
      | none => by_cases same : (k == k') = true <;> simp [same]

theorem index_fold (entries : List (Key × Property)) (m : Std.HashMap Key Nat) (i : Nat) (k : Key)
    (distinct : (entries.map Prod.fst).Nodup) :
    (entries.foldl (fun (m, i) (k, _) => (m.insert k i, i + 1)) (m, i)).1[k]? =
      (((entries.map Prod.fst).idxOf? k).map (· + i)).or m[k]? := by
  induction entries generalizing m i with
  | nil => simp
  | cons slot entries ih =>
    rw [List.map_cons, List.nodup_cons] at distinct
    rw [List.foldl_cons, ih _ _ distinct.2, List.map_cons, List.idxOf?_cons,
      Std.HashMap.getElem?_insert]
    by_cases same : (slot.1 == k) = true
    · have absent : (entries.map Prod.fst).idxOf? k = none := by
        rw [List.idxOf?_eq_none_iff, ← eq_of_beq same]
        exact distinct.1
      simp [same, absent]
    · simp only [same]
      cases (entries.map Prod.fst).idxOf? k with
      | none => simp
      | some j => simp; omega

theorem indexOf_eq {slots : Array (Key × Property)} (distinct : (slots.toList.map Prod.fst).Nodup)
    (long : shortSize < slots.size) (k : Key) :
    (indexOf slots)[k]? = (slots.toList.map Prod.fst).idxOf? k := by
  rw [indexOf, if_neg (by omega), ← Array.foldl_toList, index_fold _ _ _ _ distinct]
  simp

theorem set_idxOf? {ks : List Key} {i : Nat} (found : ks.idxOf? k = some i) : ks.set i k = ks := by
  induction ks generalizing i with
  | nil => rfl
  | cons a ks ih =>
    rw [List.idxOf?_cons] at found
    split at found
    · rename_i same
      cases found
      rw [List.set_cons_zero, eq_of_beq same]
    · obtain ⟨j, rest, rfl⟩ := Option.map_eq_some_iff.mp found
      rw [List.set_cons_succ, ih rest]

theorem Sound.insert_old {i : Nat} (h : Sound ps) (found : ps.keys.idxOf? k = some i) (p : Property) :
    ps.insert k p = { ps with slots := ps.slots.set! i (k, p) } := by
  rw [insert, h.find?_eq, found]

theorem Sound.keys_old {i : Nat} (found : ps.keys.idxOf? k = some i) (p : Property) :
    ({ ps with slots := ps.slots.set! i (k, p) } : Properties).keys = ps.keys := by
  unfold keys at found ⊢
  dsimp only
  rw [Array.set!_eq_setIfInBounds, Array.toList_setIfInBounds, List.map_set, set_idxOf? found]

theorem Sound.slots_insert (h : Sound ps) (missing : k ∉ ps.keys) (p : Property) :
    (ps.insert k p).slots = ps.slots.push (k, p) := by
  have absent : ps.find? k = none := by rw [h.find?_eq, List.idxOf?_eq_none_iff]; exact missing
  rw [insert, absent]
  dsimp only
  split
  · rfl
  · split <;> rfl

theorem Sound.insert_new (h : Sound ps) (missing : k ∉ ps.keys) (p : Property) :
    Sound (ps.insert k p) := by
  have absent : ps.find? k = none := by rw [h.find?_eq, List.idxOf?_eq_none_iff]; exact missing
  have slots := h.slots_insert missing p
  have ks : (ps.insert k p).keys = ps.keys ++ [k] := by simp [keys, slots]
  have distinct : (ps.insert k p).keys.Nodup := by
    rw [ks, List.nodup_append]
    refine ⟨h.distinct, by simp, ?_⟩
    rintro a ha b hb rfl
    rw [List.mem_singleton] at hb
    exact missing (hb ▸ ha)
  refine ⟨distinct, fun long k' => ?_⟩
  rw [slots, Array.size_push] at long
  by_cases full : ps.slots.size = shortSize
  · have index : (ps.insert k p).index = indexOf (ps.insert k p).slots := by
      rw [slots, insert, absent]
      simp [full]
    rw [index]
    exact indexOf_eq distinct (by rw [slots, Array.size_push]; omega) k'
  · have index : (ps.insert k p).index = ps.index.insert k ps.slots.size := by
      rw [insert, absent]
      dsimp only
      rw [if_neg (by omega), if_neg (by simpa using full)]
    rw [index, Std.HashMap.getElem?_insert, h.indexed (by omega), ks, idxOf?_concat]
    have count : ps.keys.length = ps.slots.size := by simp [keys]
    by_cases same : (k == k') = true
    · have none_yet : ps.keys.idxOf? k' = none := by
        rw [List.idxOf?_eq_none_iff, ← eq_of_beq same]
        exact missing
      rw [if_pos same, if_pos same, none_yet, Option.none_or, count]
    · rw [if_neg same, if_neg same, Option.or_none]

theorem Sound.insert (h : Sound ps) (k : Key) (p : Property) : Sound (ps.insert k p) := by
  cases found : ps.keys.idxOf? k with
  | none => exact h.insert_new (List.idxOf?_eq_none_iff.mp found) p
  | some i =>
    rw [h.insert_old found]
    have same := Sound.keys_old found p
    refine ⟨same ▸ h.distinct, fun long k' => ?_⟩
    rw [same]
    exact h.indexed (by simpa using long) k'

theorem lookup_set {i : Nat} (found : (entries.map Prod.fst).idxOf? k = some i) :
    (entries.set i (k, p)).lookup k' = if k' = k then some p else entries.lookup k' := by
  induction entries generalizing i with
  | nil => cases found
  | cons slot entries ih =>
    rw [List.map_cons, List.idxOf?_cons] at found
    by_cases same : (slot.1 == k) = true
    · rw [if_pos same] at found
      cases found
      rw [List.set_cons_zero, List.lookup_cons, List.lookup_cons, eq_of_beq same]
      by_cases asked : k' = k
      · rw [if_pos asked, asked, BEq.rfl]
      · have other : (k' == k) = false := by simpa using asked
        rw [if_neg asked, other]
    · rw [if_neg same] at found
      obtain ⟨j, later, rfl⟩ := Option.map_eq_some_iff.mp found
      rw [List.set_cons_succ, List.lookup_cons, List.lookup_cons, ih later]
      by_cases asked : k' = k
      · have other : (k' == slot.1) = false := by
          rw [asked, BEq.comm]
          exact Bool.eq_false_iff.mpr same
        rw [if_pos asked, if_pos asked, other]
      · rw [if_neg asked, if_neg asked]

theorem Sound.get?_insert (h : Sound ps) (k k' : Key) (p : Property) :
    (ps.insert k p).get? k' = if k' = k then some p else ps.get? k' := by
  rw [(h.insert k p).get?_eq, h.get?_eq]
  cases found : ps.keys.idxOf? k with
  | some i =>
    rw [h.insert_old found]
    dsimp only
    rw [Array.set!_eq_setIfInBounds, Array.toList_setIfInBounds]
    exact lookup_set found
  | none =>
    have missing : k ∉ ps.keys := List.idxOf?_eq_none_iff.mp found
    rw [h.slots_insert missing, Array.toList_push, List.lookup_append]
    by_cases asked : k' = k
    · have none_yet : ps.slots.toList.lookup k' = none := by
        rw [asked]
        exact lookup_eq_none missing
      rw [none_yet, if_pos asked, asked, Option.none_or]
      exact List.lookup_cons_self
    · have other : (k' == k) = false := by simpa using asked
      rw [if_neg asked, List.lookup_cons, other]
      exact Option.or_none

theorem ofList_append (entries : List (Key × Property)) (k : Key) (p : Property) :
    ofList (entries ++ [(k, p)]) = (ofList entries).insert k p := by
  rw [ofList, List.foldl_append]
  rfl

theorem sound_ofList (entries : List (Key × Property)) : Sound (ofList entries) := by
  induction entries using List.reverseRecOn with
  | nil => exact .empty
  | append_singleton entries slot ih =>
    rw [ofList_append]
    exact ih.insert slot.1 slot.2

theorem slots_ofList (distinct : (entries.map Prod.fst).Nodup) : (ofList entries).slots.toList = entries := by
  induction entries using List.reverseRecOn with
  | nil => rfl
  | append_singleton entries slot ih =>
    rw [List.map_append, List.map_cons, List.map_nil, List.nodup_append] at distinct
    obtain ⟨distinct, -, apart⟩ := distinct
    have missing : slot.1 ∉ (ofList entries).keys := by
      rw [keys, ih distinct]
      exact fun mem => apart slot.1 mem slot.1 (List.mem_singleton_self _) rfl
    rw [ofList_append, (sound_ofList entries).slots_insert missing, Array.toList_push, ih distinct]

theorem keys_ofList (distinct : (entries.map Prod.fst).Nodup) :
    (ofList entries).keys = entries.map Prod.fst := by
  rw [keys, slots_ofList distinct]

theorem get?_ofList (distinct : (entries.map Prod.fst).Nodup) (k : Key) :
    (ofList entries).get? k = entries.lookup k := by
  rw [(sound_ofList entries).get?_eq, slots_ofList distinct]

end Properties
end PagePreview.Machine
