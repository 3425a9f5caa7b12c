import PagePreview.Text.Blank
import Mathlib.Data.List.Basic

/-!
# Parts of a text

Where a text is split, the parts before a separator and those behind it stand side by side, so the
words of a text are those of its stretches between blanks. Where one or two characters are replaced,
the text is read from its front.
-/

namespace PagePreview.Text

variable {p : Char → Bool} {s t : List Char} {c : Char}

theorem splitAt_cons (p : Char → Bool) (c : Char) (s : List Char) :
    ∃ part parts, splitAt p s = part :: parts ∧
      splitAt p (c :: s) = if p c then [] :: part :: parts else (c :: part) :: parts := by
  have some : ∃ part parts, splitAt p s = part :: parts := by
    cases s with
    | nil => exact ⟨[], [], rfl⟩
    | cons d s =>
      unfold splitAt
      split
      · exact ⟨_, _, rfl⟩
      · split <;> exact ⟨_, _, rfl⟩
  obtain ⟨part, parts, whole⟩ := some
  refine ⟨part, parts, whole, ?_⟩
  rw [splitAt, whole]

theorem splitAt_append (hc : p c = true) (s t : List Char) :
    splitAt p (s ++ c :: t) = splitAt p s ++ splitAt p t := by
  induction s with
  | nil =>
    obtain ⟨part, parts, whole, next⟩ := splitAt_cons p c t
    rw [List.nil_append, next, if_pos hc, whole]
    rfl
  | cons d s ih =>
    obtain ⟨part, parts, whole, next⟩ := splitAt_cons p d s
    obtain ⟨part', parts', whole', next'⟩ := splitAt_cons p d (s ++ c :: t)
    rw [ih, whole] at whole'
    obtain ⟨rfl, rfl⟩ := List.cons.inj whole'
    rw [List.cons_append, next', next]
    split <;> rfl

theorem splitAt_free (free : ∀ c ∈ s, p c = false) : splitAt p s = [s] := by
  induction s with
  | nil => rfl
  | cons c s ih =>
    obtain ⟨part, parts, whole, next⟩ := splitAt_cons p c s
    rw [ih fun d hd => free d (by simp [hd])] at whole
    obtain ⟨rfl, rfl⟩ := List.cons.inj whole
    rw [next, free c (by simp)]
    rfl

theorem words_append (hc : isBlank c = true) (s t : List Char) : words (s ++ c :: t) = words s ++ words t := by
  rw [words, splitAt_append hc, List.filter_append]
  rfl

/-- Texts that are joined by spaces have the words of texts that are each followed by one. -/
theorem words_intercalate (texts : List String) :
    words (" ".intercalate texts).toList = words ((texts.map (·.toList)).flatMap (· ++ [' '])) := by
  induction texts with
  | nil => rw [String.intercalate_nil]; rfl
  | cons s texts ih =>
    have space : " ".toList = [' '] := rfl
    rw [List.map_cons, List.flatMap_cons, List.append_assoc, List.singleton_append, words_append rfl, ← ih]
    cases texts with
    | nil =>
      rw [String.intercalate_singleton, String.intercalate_nil, String.toList_empty]
      exact (List.append_nil _).symm
    | cons s' texts =>
      rw [String.intercalate_cons_cons, String.toList_append, String.toList_append, space, List.append_assoc,
        List.singleton_append, words_append rfl]

theorem words_of_unblank (some : s ≠ []) (h : ∀ c ∈ s, isBlank c = false) : words s = [s] := by
  rw [words, splitAt_free h]
  simp [some]

/-- The first word of a text that begins with one ends at a blank, if there is another word. -/
theorem words_cons_cons {w w' : List Char} {ws : List (List Char)}
    (first : s.head?.any isBlank = false) (h : words s = w :: w' :: ws) :
    ∃ c t, s = w ++ c :: t ∧ isBlank c = true := by
  have parts := (List.takeWhile_append_dropWhile (p := (!isBlank ·)) (l := s)).symm
  have unblank : ∀ c ∈ s.takeWhile (!isBlank ·), isBlank c = false :=
    fun c hc => by simpa using List.all_eq_true.mp List.all_takeWhile c hc
  have run : s.takeWhile (!isBlank ·) ≠ [] := by
    intro none
    cases s with
    | nil => simp [words, splitAt] at h
    | cons c s =>
      have solid : isBlank c = false := first
      rw [List.takeWhile_cons_of_pos (by simp [solid])] at none
      cases none
  cases rest : s.dropWhile (!isBlank ·) with
  | nil =>
    rw [rest, List.append_nil] at parts
    rw [parts, words_of_unblank run unblank] at h
    cases h
  | cons c t =>
    have stops := List.head?_dropWhile_not (!isBlank ·) s
    rw [rest] at stops parts
    have blank : isBlank c = true := by simpa using stops
    rw [parts, words_append blank, words_of_unblank run unblank] at h
    obtain ⟨rfl, -⟩ := List.cons.inj h
    exact ⟨c, t, parts, blank⟩

theorem after?_eq_some {w : List Char} : after? w s = some t ↔ s = w ++ t := by
  induction w generalizing s with
  | nil => simp [after?]
  | cons d w ih =>
    cases s with
    | nil => simp [after?]
    | cons e s =>
      rw [after?]
      by_cases same : d = e
      · simp [same, ih]
      · simp [same, Ne.symm same]

theorem before?_append (stop s : List Char) : before? stop (s ++ stop) = some s := by
  rw [before?, List.reverse_append, after?_eq_some.mpr rfl, Option.map_some, List.reverse_reverse]

theorem replaceAll_char (c : Char) (new s : List Char) :
    replaceAll [c] new s = s.flatMap fun d => if d = c then new else [d] := by
  unfold replaceAll
  induction s with
  | nil => rfl
  | cons d s ih =>
    rw [List.flatMap_cons, replaceFrom]
    by_cases same : d = c
    · rw [if_pos same, if_pos (by simp [startsWith, after?, same])]
      exact congrArg (new ++ ·) ih
    · rw [if_neg same, if_neg (by simp [startsWith, after?, Ne.symm same]), ih]
      rfl

theorem replaceAll_pair (a b c : Char) (new s : List Char) :
    replaceAll [a, b] new (c :: s) =
      if c = a ∧ s.head? = some b then new ++ replaceAll [a, b] new s.tail
      else c :: replaceAll [a, b] new s := by
  have starts : startsWith [a, b] (c :: s) = true ↔ c = a ∧ s.head? = some b := by
    cases s with
    | nil => by_cases same : a = c <;> simp [startsWith, after?, same]
    | cons d s =>
      by_cases first : a = c
      · by_cases second : b = d <;> simp [startsWith, after?, first, second, eq_comm]
      · simp [startsWith, after?, first, eq_comm]
  rw [replaceAll, replaceFrom]
  by_cases here : c = a ∧ s.head? = some b
  · rw [if_pos (starts.mpr here), if_pos here]
    obtain ⟨d, rest, rfl⟩ : ∃ d rest, s = d :: rest := by
      cases s with
      | nil => simp at here
      | cons d rest => exact ⟨d, rest, rfl⟩
    rfl
  · rw [if_neg (mt starts.mp here), if_neg here]
    rfl

end PagePreview.Text
