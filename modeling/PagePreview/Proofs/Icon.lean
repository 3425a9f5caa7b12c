import PagePreview.Icon
import PagePreview.Proofs.Text.Split
import Mathlib.Data.List.Induction

/-!
# Names of icons

A pack puts the word `Icon` and a prefix of its own in front of a glyph's name and any number of
style suffixes behind it. Whatever it puts there comes off again, one piece after the other, and what
is left is the glyph's name.
-/

namespace PagePreview.Icon
open Text

variable {s t tail : List Char} {g pack word : String} {suffixes : List String}

def differs : List Char → List Char → Bool
  | c :: s, d :: t => if c = d then differs s t else true
  | _, _ => false

/-- Whatever follows the name, the start is not taken off it: the name begins otherwise, or goes on
with no capital behind the start. -/
def keeps (start name : List Char) : Bool :=
  differs start name || match after? start name with
    | some (c :: rest) => !startsUpper (c :: rest)
    | _ => false

theorem after?_of_differs (h : differs s t = true) (tail : List Char) : after? s (t ++ tail) = none := by
  induction s generalizing t with
  | nil => cases h
  | cons c s ih =>
    cases t with
    | nil => cases h
    | cons d t =>
      rw [differs] at h
      rw [List.cons_append, after?]
      split at h
      · rename_i same
        rw [if_pos same]
        exact ih h
      · rename_i other
        rw [if_neg other]

theorem startsUpper_append (h : startsUpper s = true) (tail : List Char) : startsUpper (s ++ tail) = true := by
  cases s with
  | nil => cases h
  | cons c s => exact h

theorem afterPrefix?_of_keeps {start : String} (h : keeps start.toList s = true) (tail : List Char) :
    afterPrefix? start (s ++ tail) = none := by
  rw [keeps, Bool.or_eq_true] at h
  obtain apart | small := h
  · rw [afterPrefix?, after?_of_differs apart]
    rfl
  · split at small
    · rename_i c rest found
      rw [after?_eq_some] at found
      have behind : after? start.toList (s ++ tail) = some (c :: rest ++ tail) := by
        rw [after?_eq_some, found, List.append_assoc]
      have lower : startsUpper (c :: rest ++ tail) = false := by simpa [startsUpper] using small
      rw [afterPrefix?, behind, Option.filter_some, lower]
      rfl
    · cases small

theorem afterPrefix?_append (start : String) (upper : startsUpper s = true) :
    afterPrefix? start (start.toList ++ s) = some s := by
  rw [afterPrefix?, after?_eq_some.mpr rfl, Option.filter_some, upper]
  rfl

/-- The name is that of a glyph, or one under which packs keep a glyph. -/
def Draws (name : String) : Prop := name ∈ glyphs.map Prod.fst ∨ synonym name ≠ name

def synonyms : List String := [
  "Cart", "Location", "LocationMarker", "Envelope", "Bars3", "Bars", "Hamburger", "XMark", "Times",
  "MagnifyingGlass"]

def names : List String := glyphs.map Prod.fst ++ synonyms

theorem Draws.mem_names (h : Draws g) : g ∈ names := by
  obtain glyph | other := h
  · exact List.mem_append_left _ glyph
  · refine List.mem_append_right _ ?_
    unfold synonym at other
    split at other
    all_goals first
      | exact absurd rfl other
      | simp [synonyms]

theorem synonym_glyph : ∀ g ∈ glyphs.map Prod.fst, synonym g = g := by decide

/-- There is a glyph by the name; what is taken off a name leaves a capital in front, and none of it is
part of a glyph's name. -/
theorem names_kept : ∀ g ∈ names, (glyph? (synonym g).toList).isSome = true ∧ startsUpper g.toList = true ∧
    keeps "Icon".toList g.toList = true ∧ (∀ pack ∈ packPrefixes, keeps pack.toList g.toList = true) ∧
    styleSuffixes.findSome? (beforeSuffix? · g.toList) = none := by decide +kernel

theorem packs_kept : ∀ pack ∈ packPrefixes, startsUpper pack.toList = true ∧
    keeps "Icon".toList pack.toList = true := by decide

/-- A prefix that is tried earlier than another is not taken off a name that begins with the other. -/
theorem packs_ordered : packPrefixes.Pairwise fun early late =>
    (keeps early.toList late.toList || names.all fun g => keeps early.toList (late.toList ++ g.toList)) = true := by
  decide +kernel

theorem suffixes_ordered : styleSuffixes.Pairwise fun early late =>
    differs early.toList.reverse late.toList.reverse = true := by decide

theorem suffixes_nonempty : ∀ s ∈ styleSuffixes, s.toList ≠ [] := by decide

theorem findSome?_of_pairwise {α β : Type} {R : α → α → Prop} {l : List α} {f : α → Option β} {a : α} {b : β}
    (ordered : l.Pairwise R) (mem : a ∈ l) (here : f a = some b) (before : ∀ x, R x a → f x = none) :
    l.findSome? f = some b := by
  obtain ⟨front, back, rfl⟩ := List.append_of_mem mem
  rw [List.pairwise_append] at ordered
  refine List.findSome?_eq_some_iff.mpr ⟨front, a, back, rfl, here, fun x early => ?_⟩
  exact before x (ordered.2.2 x early a List.mem_cons_self)

theorem peel_last {suffix : String} (mem : suffix ∈ styleSuffixes) (left : s ≠ []) :
    styleSuffixes.findSome? (beforeSuffix? · (s ++ suffix.toList)) = some s := by
  refine findSome?_of_pairwise suffixes_ordered mem ?_ fun early differ => ?_
  · rw [beforeSuffix?, before?_append, Option.filter_some]
    simp [left]
  · rw [beforeSuffix?, before?, List.reverse_append, after?_of_differs differ]
    rfl

theorem peelSuffixes_append (left : s ≠ []) (bare : styleSuffixes.findSome? (beforeSuffix? · s) = none)
    (mem : ∀ suffix ∈ suffixes, suffix ∈ styleSuffixes) {bound : Nat} (enough : suffixes.length ≤ bound) :
    peelSuffixes bound (s ++ suffixes.flatMap String.toList) = s := by
  induction suffixes using List.reverseRecOn generalizing bound with
  | nil =>
    rw [List.flatMap_nil, List.append_nil]
    cases bound with
    | zero => rfl
    | succ bound => rw [peelSuffixes, bare]
  | append_singleton suffixes last ih =>
    rw [List.length_append, List.length_singleton] at enough
    obtain ⟨bound, rfl⟩ : ∃ less, bound = less + 1 := ⟨bound - 1, by omega⟩
    have front : s ++ suffixes.flatMap String.toList ≠ [] := by simp [left]
    rw [List.flatMap_append, List.flatMap_singleton, ← List.append_assoc, peelSuffixes,
      peel_last (mem last (by simp)) front]
    exact ih (fun suffix early => mem suffix (by simp [early])) (by omega)

theorem length_le_flatMap (mem : ∀ suffix ∈ suffixes, suffix ∈ styleSuffixes) :
    suffixes.length ≤ (suffixes.flatMap String.toList).length := by
  induction suffixes with
  | nil => exact Nat.le_refl 0
  | cons suffix suffixes ih =>
    have some := List.length_pos_iff.mpr (suffixes_nonempty suffix (mem suffix (by simp)))
    have rest := ih fun other later => mem other (by simp [later])
    rw [List.flatMap_cons, List.length_append, List.length_cons]
    omega

theorem afterPack (mem : g ∈ names) (pack_mem : pack ∈ "" :: packPrefixes) (tail : List Char) :
    (packPrefixes.findSome? (afterPrefix? · (pack.toList ++ (g.toList ++ tail)))).getD
      (pack.toList ++ (g.toList ++ tail)) = g.toList ++ tail := by
  obtain ⟨-, upper, -, kept, -⟩ := names_kept g mem
  obtain rfl | pack_mem := List.mem_cons.mp pack_mem
  · have none_there : packPrefixes.findSome? (afterPrefix? · (g.toList ++ tail)) = none :=
      List.findSome?_eq_none_iff.mpr fun early early_mem => afterPrefix?_of_keeps (kept early early_mem) tail
    rw [String.toList_empty, List.nil_append, none_there]
    rfl
  · have found : packPrefixes.findSome? (afterPrefix? · (pack.toList ++ (g.toList ++ tail))) =
        some (g.toList ++ tail) := by
      refine findSome?_of_pairwise packs_ordered pack_mem
        (afterPrefix?_append pack (startsUpper_append upper tail)) fun early keeps_late => ?_
      rw [Bool.or_eq_true] at keeps_late
      obtain kept_pack | kept_name := keeps_late
      · exact afterPrefix?_of_keeps kept_pack (g.toList ++ tail)
      · rw [← List.append_assoc]
        exact afterPrefix?_of_keeps (List.all_eq_true.mp kept_name g mem) tail
    rw [found]
    rfl

theorem afterWord (mem : g ∈ names) (word_mem : word ∈ ["", "Icon"]) (pack_mem : pack ∈ "" :: packPrefixes)
    (tail : List Char) :
    (afterPrefix? "Icon" (word.toList ++ (pack.toList ++ (g.toList ++ tail)))).getD
      (word.toList ++ (pack.toList ++ (g.toList ++ tail))) = pack.toList ++ (g.toList ++ tail) := by
  obtain ⟨-, upper, kept, -, -⟩ := names_kept g mem
  have both : startsUpper (pack.toList ++ (g.toList ++ tail)) = true ∧
      afterPrefix? "Icon" (pack.toList ++ (g.toList ++ tail)) = none := by
    obtain rfl | pack_mem := List.mem_cons.mp pack_mem
    · exact ⟨startsUpper_append upper tail, afterPrefix?_of_keeps kept tail⟩
    · obtain ⟨pack_upper, pack_kept⟩ := packs_kept pack pack_mem
      exact ⟨startsUpper_append pack_upper _, afterPrefix?_of_keeps pack_kept _⟩
  rcases List.mem_pair.mp word_mem with rfl | rfl
  · rw [String.toList_empty, List.nil_append, both.2]
    rfl
  · rw [afterPrefix?_append "Icon" both.1]
    rfl

def packed (word pack g : String) (suffixes : List String) : String :=
  word ++ pack ++ g ++ String.join suffixes

theorem toList_packed : (packed word pack g suffixes).toList =
    word.toList ++ (pack.toList ++ (g.toList ++ suffixes.flatMap String.toList)) := by
  rw [packed, String.toList_append, String.toList_append, String.toList_append, String.toList_join,
    List.append_assoc, List.append_assoc]

theorem plainName_packed (mem : g ∈ names) (word_mem : word ∈ ["", "Icon"]) (pack_mem : pack ∈ "" :: packPrefixes)
    (suffixes_mem : ∀ suffix ∈ suffixes, suffix ∈ styleSuffixes) :
    plainName (packed word pack g suffixes).toList = (synonym g).toList := by
  obtain ⟨-, upper, -, -, bare⟩ := names_kept g mem
  have left : g.toList ≠ [] := by
    intro empty
    rw [empty] at upper
    cases upper
  have enough : suffixes.length ≤ (g.toList ++ suffixes.flatMap String.toList).length := by
    rw [List.length_append]
    exact Nat.le_add_left_of_le (length_le_flatMap suffixes_mem)
  rw [plainName, toList_packed, afterWord mem word_mem pack_mem, afterPack mem pack_mem,
    peelSuffixes_append left bare suffixes_mem enough, String.ofList_toList]

theorem plainName_bare (mem : g ∈ names) : plainName g.toList = (synonym g).toList := by
  have plain : plainName (packed "" "" g []).toList = (synonym g).toList :=
    plainName_packed mem (by simp) (by simp) (by simp)
  rw [toList_packed] at plain
  simpa using plain

/-- A name is looked up as it stands first. Nothing comes off a glyph's own name, so if it is one, the
answer is the same. -/
theorem path?_of_plainName {name : String} (plain : plainName name.toList = (synonym g).toList) :
    path? name = glyph? (synonym g).toList := by
  rw [path?, plain]
  cases found : glyph? name.toList with
  | none => rfl
  | some path =>
    have glyph : name ∈ glyphs.map Prod.fst := by
      rw [glyph?, String.ofList_toList, List.lookup_eq_some_iff] at found
      obtain ⟨before, after, split, -⟩ := found
      rw [split]
      simp
    have own : plainName name.toList = name.toList := by
      have bare := plainName_bare (List.mem_append_left _ glyph)
      rwa [synonym_glyph name glyph] at bare
    rw [← plain, own, found]
    rfl

/-- A pack's name for a glyph draws what the glyph's name draws, whatever the pack has put in front of
it and behind it. -/
theorem path?_packed (draws : Draws g) (word_mem : word ∈ ["", "Icon"]) (pack_mem : pack ∈ "" :: packPrefixes)
    (suffixes_mem : ∀ suffix ∈ suffixes, suffix ∈ styleSuffixes) :
    (path? g).isSome = true ∧ path? (packed word pack g suffixes) = path? g := by
  have mem := draws.mem_names
  have bare : path? g = glyph? (synonym g).toList := path?_of_plainName (plainName_bare mem)
  rw [bare, path?_of_plainName (plainName_packed mem word_mem pack_mem suffixes_mem)]
  exact ⟨(names_kept g mem).1, rfl⟩

/-- Both words, the longest prefix that another one begins, and a suffix twice around a name for a
glyph of another name. -/
theorem path?_packed_cart :
    "IconHiOutlineCartFilledIconFilled" = packed "Icon" "HiOutline" "Cart" ["Filled", "Icon", "Filled"] ∧
      (path? "Cart").isSome = true ∧ path? "IconHiOutlineCartFilledIconFilled" = path? "Cart" := by
  have same : "IconHiOutlineCartFilledIconFilled" = packed "Icon" "HiOutline" "Cart" ["Filled", "Icon", "Filled"] := by
    decide
  rw [same]
  exact ⟨rfl, path?_packed (.inr (by decide)) (by decide) (by decide) (by decide)⟩

end PagePreview.Icon
