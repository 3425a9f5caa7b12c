import PagePreview.Text.Blank
import Mathlib.Data.List.DropRight

/-!
# Trimmed texts

A text is blanks, what trimming leaves of it, and blanks. What is left has no blank at either end,
and a text of that kind is what trimming leaves of it, whatever blanks are put around it.
-/

namespace PagePreview.Text

variable {g h s t : List Char} {c d : Char}

def Trimmed (s : List Char) : Prop :=
  s.head?.any isBlank = false ∧ s.getLast?.any isBlank = false

theorem dropWhileEnd_eq (p : Char → Bool) (s : List Char) : dropWhileEnd p s = s.rdropWhile p := by
  induction s with
  | nil => rfl
  | cons c s ih =>
    rw [dropWhileEnd, ih]
    by_cases all : s.rdropWhile p = []
    · have every : ∀ d ∈ s, p d = true := List.rdropWhile_eq_nil_iff.mp all
      rw [all]
      by_cases hc : p c = true
      · rw [if_pos hc, List.rdropWhile_eq_nil_iff.mpr (List.forall_mem_cons.mpr ⟨hc, every⟩)]
      · have stop : (s.reverse ++ [c]).dropWhile p = [c] := by
          rw [List.dropWhile_append_of_pos (by simpa using every), List.dropWhile_cons_of_neg hc]
        rw [if_neg hc, List.rdropWhile, List.reverse_cons, stop]
        rfl
    · obtain ⟨d, kept, whole⟩ := List.exists_cons_of_ne_nil all
      have some : (s.reverse.dropWhile p).isEmpty = false := by
        rw [List.isEmpty_eq_false_iff]
        intro none
        exact all (by rw [List.rdropWhile, none]; rfl)
      have step : (c :: s).rdropWhile p = c :: s.rdropWhile p := by
        rw [List.rdropWhile, List.reverse_cons, List.dropWhile_append, some, List.rdropWhile]
        simp
      rw [step, whole]

theorem trimStart_split (s : List Char) :
    ∃ g, s = g ++ trimStart s ∧ ∀ c ∈ g, isBlank c = true :=
  ⟨s.takeWhile isBlank, (List.takeWhile_append_dropWhile).symm, fun _ hc => List.mem_takeWhile_imp hc⟩

theorem head?_trimStart (s : List Char) : (trimStart s).head?.any isBlank = false := by
  rw [Option.any_eq_false]
  intro c hc
  have stops := List.head?_dropWhile_not isBlank s
  rw [← trimStart, hc] at stops
  simpa using stops

theorem trimStart_append (hg : ∀ c ∈ g, isBlank c = true) (s : List Char) :
    trimStart (g ++ s) = trimStart s :=
  List.dropWhile_append_of_pos hg

theorem trimStart_eq_self (first : s.head?.any isBlank = false) : trimStart s = s := by
  cases s with
  | nil => rfl
  | cons c s => exact List.dropWhile_cons_of_neg (by simpa using first)

theorem trimEnd_eq (s : List Char) : trimEnd s = (trimStart s.reverse).reverse := by
  rw [trimEnd, dropWhileEnd_eq]
  rfl

theorem trimEnd_split (s : List Char) :
    ∃ h, s = trimEnd s ++ h ∧ ∀ c ∈ h, isBlank c = true := by
  obtain ⟨g, parts, hg⟩ := trimStart_split s.reverse
  refine ⟨g.reverse, ?_, fun c hc => hg c (List.mem_reverse.mp hc)⟩
  rw [trimEnd_eq, ← List.reverse_append, ← parts, List.reverse_reverse]

theorem getLast?_trimEnd (s : List Char) : (trimEnd s).getLast?.any isBlank = false := by
  rw [trimEnd_eq, List.getLast?_reverse]
  exact head?_trimStart _

theorem trimEnd_append (hh : ∀ c ∈ h, isBlank c = true) (s : List Char) :
    trimEnd (s ++ h) = trimEnd s := by
  rw [trimEnd_eq, trimEnd_eq, List.reverse_append,
    trimStart_append fun c hc => hh c (List.mem_reverse.mp hc)]

theorem trimEnd_eq_self (last : s.getLast?.any isBlank = false) : trimEnd s = s := by
  rw [trimEnd_eq, trimStart_eq_self (by rwa [List.head?_reverse]), List.reverse_reverse]

theorem trim_split (s : List Char) :
    ∃ g h, s = g ++ (trim s ++ h) ∧ (∀ c ∈ g, isBlank c = true) ∧ ∀ c ∈ h, isBlank c = true := by
  obtain ⟨g, parts, hg⟩ := trimStart_split s
  obtain ⟨h, parts', hh⟩ := trimEnd_split (trimStart s)
  refine ⟨g, h, ?_, hg, hh⟩
  rw [trim, ← parts', ← parts]

theorem mem_of_mem_trim (hc : c ∈ trim s) : c ∈ s := by
  obtain ⟨g, h, parts, -, -⟩ := trim_split s
  rw [parts]
  simp [hc]

theorem trimmed_trim (s : List Char) : Trimmed (trim s) := by
  refine ⟨?_, getLast?_trimEnd _⟩
  obtain ⟨h, parts, -⟩ := trimEnd_split (trimStart s)
  have first := head?_trimStart s
  cases kept : trimEnd (trimStart s) with
  | nil =>
    rw [trim, kept]
    rfl
  | cons c rest =>
    rw [parts, kept] at first
    rw [trim, kept]
    exact first

/-- What has no blank at either end is what trimming leaves of it and of blanks around it. -/
theorem Trimmed.trim_around (trimmed : Trimmed s) (hg : ∀ c ∈ g, isBlank c = true)
    (hh : ∀ c ∈ h, isBlank c = true) : trim (g ++ (s ++ h)) = s := by
  rw [trim, trimStart_append hg]
  cases s with
  | nil =>
    have none : trimStart h = [] := by
      have gone := trimStart_append (g := h) hh []
      rwa [List.append_nil] at gone
    rw [List.nil_append, none]
    rfl
  | cons c s =>
    rw [trimStart_eq_self (by simpa using trimmed.1), trimEnd_append hh, trimEnd_eq_self trimmed.2]

theorem Trimmed.trim_eq (trimmed : Trimmed s) : trim s = s := by
  have none : ∀ c ∈ ([] : List Char), isBlank c = true := fun _ hc => absurd hc List.not_mem_nil
  have around := trimmed.trim_around none none
  rwa [List.append_nil] at around

theorem Trimmed.enclose (hs : Trimmed s) (some : s ≠ []) (ht : Trimmed t) (some' : t ≠ [])
    (between : List Char) : Trimmed (s ++ (between ++ t)) := by
  constructor
  · rw [List.head?_append_of_ne_nil _ some]
    exact hs.1
  · rw [← List.append_assoc, List.getLast?_append_of_ne_nil _ some']
    exact ht.2

theorem trimmed_of_unblank (h : ∀ c ∈ s, isBlank c = false) : Trimmed s := by
  constructor
  · rw [Option.any_eq_false]
    exact fun c hc => by simp [h c (List.mem_of_mem_head? hc)]
  · rw [Option.any_eq_false]
    exact fun c hc => by simp [h c (List.mem_of_getLast? hc)]

theorem Trimmed.within (hs : Trimmed s) (some : s ≠ []) (before after : List Char) :
    ∃ before' after', trim (before ++ (s ++ after)) = before' ++ (s ++ after') := by
  obtain ⟨c, rest, rfl⟩ := List.exists_cons_of_ne_nil some
  have front : ∃ before', trimStart (before ++ (c :: rest ++ after)) = before' ++ (c :: rest ++ after) := by
    obtain ⟨g, parts, hg⟩ := trimStart_split before
    cases kept : trimStart before with
    | nil =>
      rw [kept, List.append_nil] at parts
      rw [parts, trimStart_append hg]
      exact ⟨[], trimStart_eq_self hs.1⟩
    | cons d kept' =>
      have first := head?_trimStart before
      rw [kept] at first parts
      rw [parts, List.append_assoc, trimStart_append hg]
      exact ⟨d :: kept', trimStart_eq_self first⟩
  obtain ⟨before', front⟩ := front
  obtain ⟨h, parts, hh⟩ := trimEnd_split after
  refine ⟨before', trimEnd after, ?_⟩
  have regroup : before' ++ (c :: rest ++ after) = (before' ++ (c :: rest ++ trimEnd after)) ++ h := by
    conv_lhs => rw [parts]
    simp only [List.append_assoc]
  have last : (before' ++ (c :: rest ++ trimEnd after)).getLast?.any isBlank = false := by
    rw [List.getLast?_append_of_ne_nil _ (by simp)]
    cases kept : trimEnd after with
    | nil =>
      rw [List.append_nil]
      exact hs.2
    | cons d kept' =>
      rw [List.getLast?_append_of_ne_nil _ (List.cons_ne_nil d kept'), ← kept]
      exact getLast?_trimEnd after
  rw [trim, front, regroup, trimEnd_append hh, trimEnd_eq_self last]

theorem trim_trim (s : List Char) : trim (trim s) = trim s := (trimmed_trim s).trim_eq

theorem trim_around (hg : ∀ c ∈ g, isBlank c = true) (hh : ∀ c ∈ h, isBlank c = true)
    (s : List Char) : trim (g ++ (s ++ h)) = trim s := by
  obtain ⟨g', h', parts, hg', hh'⟩ := trim_split s
  have whole : g ++ (s ++ h) = (g ++ g') ++ (trim s ++ (h' ++ h)) := by
    conv_lhs => rw [parts]
    simp only [List.append_assoc]
  rw [whole]
  refine (trimmed_trim s).trim_around (fun c hc => ?_) fun c hc => ?_
  · exact (List.mem_append.mp hc).elim (hg c) (hg' c)
  · exact (List.mem_append.mp hc).elim (hh' c) (hh c)

theorem trim_eq (hc : isBlank c = false) (hd : isBlank d = false) :
    trim (c :: (s ++ [d])) = c :: (s ++ [d]) := by
  have last : (c :: (s ++ [d])).getLast? = some d := List.getLast?_concat (l := c :: s)
  exact Trimmed.trim_eq ⟨by simpa using hc, by rw [last]; simpa using hd⟩

theorem trim_ne_nil (hc : isBlank c = false) (s : List Char) : trim (c :: s) ≠ [] := by
  intro none
  obtain ⟨g, h, parts, hg, hh⟩ := trim_split (c :: s)
  rw [none, List.nil_append] at parts
  have blank : ∀ d ∈ c :: s, isBlank d = true := by
    rw [parts]
    exact fun d hd => (List.mem_append.mp hd).elim (hg d) (hh d)
  rw [blank c (by simp)] at hc
  cases hc

end PagePreview.Text
