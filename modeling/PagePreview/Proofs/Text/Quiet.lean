import PagePreview.Proofs.Text.Matcher
import PagePreview.Text.Letter
import PagePreview.Text.Quoted

/-!
# Quiet texts

A line starts after a line feed or a carriage return and may be indented by any blanks. A text is
quiet if none of its lines goes on with the letters of `import` or `export`. Whether it is can be
computed, and a text put together from quiet lines is quiet.
-/

namespace PagePreview.Text

def isBreak (c : Char) : Bool := c == '\n' || c == '\r'

def dropIndent (s : List Char) : List Char := s.dropWhile fun c => isBlank c && !isBreak c

def isKeyed (s : List Char) : Bool :=
  startsWith "import".toList (dropIndent s) || startsWith "export".toList (dropIndent s)

def isQuiet : Bool → List Char → Bool
  | _, [] => true
  | start, c :: s => !(start && isKeyed (c :: s)) && isQuiet (isBreak c) s

def Unbroken (s : List Char) : Prop := ∀ c ∈ s, isBreak c = false

theorem unbroken_of_all {s : List Char} (h : (s.all fun c => !isBreak c) = true) : Unbroken s :=
  fun c hc => by simpa using List.all_eq_true.mp h c hc

theorem startsWith_iff {w s : List Char} : startsWith w s = true ↔ ∃ t, s = w ++ t := by
  induction w generalizing s with
  | nil => simp [startsWith, after?]
  | cons c w ih =>
    cases s with
    | nil => simp [startsWith, after?]
    | cons d s =>
      unfold startsWith at ih ⊢
      simp only [after?]
      split
      · rename_i same
        simp [same, ih]
      · rename_i other
        simp [Ne.symm other]

theorem holds_iff {part s : List Char} : holds part s = true ↔ part <:+: s := by
  induction s with
  | nil => simp [holds]
  | cons c s ih =>
    have starts : startsWith part (c :: s) = true ↔ part <+: c :: s :=
      startsWith_iff.trans ⟨fun ⟨t, same⟩ => ⟨t, same.symm⟩, fun ⟨t, same⟩ => ⟨t, same.symm⟩⟩
    rw [holds, Bool.or_eq_true, starts, ih, List.infix_cons_iff]

theorem Unbroken.append {s t : List Char} (hs : Unbroken s) (ht : Unbroken t) :
    Unbroken (s ++ t) :=
  fun c hc => (List.mem_append.mp hc).elim (hs c) (ht c)

theorem startsWith_append {w s : List Char} (hw : Unbroken w) (breaks : ∃ c ∈ s, isBreak c = true)
    (t : List Char) : startsWith w (s ++ t) = startsWith w s := by
  rw [Bool.eq_iff_iff, startsWith_iff, startsWith_iff]
  constructor
  · rintro ⟨u, parts⟩
    rcases List.append_eq_append_iff.mp parts with ⟨rest, rfl, -⟩ | ⟨rest, rfl, -⟩
    · obtain ⟨c, hc, isBreak_c⟩ := breaks
      simp [hw c (List.mem_append_left rest hc)] at isBreak_c
    · exact ⟨rest, rfl⟩
  · rintro ⟨u, rfl⟩
    exact ⟨u ++ t, List.append_assoc _ _ _⟩

theorem dropIndent_append {s : List Char} (breaks : ∃ c ∈ s, isBreak c = true) (t : List Char) :
    dropIndent (s ++ t) = dropIndent s ++ t ∧ ∃ c ∈ dropIndent s, isBreak c = true := by
  induction s with
  | nil => simp at breaks
  | cons c s ih =>
    unfold dropIndent at ih ⊢
    rw [List.cons_append, List.dropWhile_cons, List.dropWhile_cons]
    split
    · rename_i indents
      have unbroken : isBreak c = false := by
        rw [Bool.and_eq_true] at indents
        simpa using indents.2
      exact ih (by simpa [unbroken] using breaks)
    · exact ⟨rfl, breaks⟩

theorem isKeyed_append {s : List Char} (breaks : ∃ c ∈ s, isBreak c = true) (t : List Char) :
    isKeyed (s ++ t) = isKeyed s := by
  obtain ⟨indent, breaks⟩ := dropIndent_append breaks t
  have importWord : Unbroken "import".toList := unbroken_of_all (by decide)
  have exportWord : Unbroken "export".toList := unbroken_of_all (by decide)
  unfold isKeyed
  rw [indent, startsWith_append importWord breaks, startsWith_append exportWord breaks]

theorem isQuiet_unbroken {s : List Char} (hs : Unbroken s) (t : List Char) :
    isQuiet false (s ++ t) = isQuiet false t := by
  induction s with
  | nil => rfl
  | cons c s ih =>
    rw [List.cons_append, isQuiet, hs c (by simp), ih fun d hd => hs d (by simp [hd])]
    rfl

theorem isQuiet_append {s : List Char} (ends : s.getLast? = some '\n') (start : Bool)
    (t : List Char) : isQuiet start (s ++ t) = (isQuiet start s && isQuiet true t) := by
  induction s generalizing start with
  | nil => cases ends
  | cons c s ih =>
    have breaks : ∃ d ∈ c :: s, isBreak d = true := by
      refine ⟨'\n', List.mem_of_getLast? ends, rfl⟩
    rw [List.cons_append, isQuiet, isQuiet, ← List.cons_append, isKeyed_append breaks]
    cases s with
    | nil =>
      obtain rfl : c = '\n' := by simpa using ends
      simp [isQuiet, isBreak]
    | cons d s =>
      rw [ih (by simpa using ends), Bool.and_assoc]

theorem isKeyed_of_isQuiet {start : Bool} {b : Option Char} {before after : List Char}
    (quiet : isQuiet start (before ++ after) = true) (line : (lastOr b before).all isBreak = true)
    (first : before = [] → start = true) (some : after ≠ []) : isKeyed after = false := by
  induction before generalizing start b with
  | nil =>
    obtain ⟨c, s, rfl⟩ := List.exists_cons_of_ne_nil some
    rw [List.nil_append, isQuiet, first rfl, Bool.and_eq_true] at quiet
    simpa using quiet.1
  | cons c before ih =>
    rw [List.cons_append, isQuiet, Bool.and_eq_true] at quiet
    refine ih quiet.2 line ?_
    rintro rfl
    simpa using line

theorem plainName_unbroken {name : List Char} (plain : isPlainName name = true) :
    Unbroken name := by
  have letters : ∀ c ∈ name, isPlainRest c = true := by
    cases name with
    | nil => simp
    | cons d name =>
      rw [isPlainName, Bool.and_eq_true, List.all_eq_true] at plain
      intro c hc
      rcases List.mem_cons.mp hc with rfl | hc
      · simp [isPlainRest, plain.1]
      · exact plain.2 c hc
  intro c hc
  cases breaks : isBreak c with
  | false => rfl
  | true =>
    simp only [isBreak, Bool.or_eq_true, beq_iff_eq] at breaks
    rcases breaks with rfl | rfl <;> exact absurd (letters _ hc) (by decide)

theorem hexDigit_unbroken {n : Nat} (h : n < 16) : isBreak (hexDigit n) = false := by
  have table : ∀ n < 16, isBreak (hexDigit n) = false := by decide
  exact table n h

theorem quoteChar_unbroken (c : Char) : Unbroken (quoteChar c) := by
  unfold quoteChar
  split_ifs with quote slash feed return_ tab back form control
  · exact unbroken_of_all rfl
  · exact unbroken_of_all rfl
  · exact unbroken_of_all rfl
  · exact unbroken_of_all rfl
  · exact unbroken_of_all rfl
  · exact unbroken_of_all rfl
  · exact unbroken_of_all rfl
  · have high : isBreak (hexDigit (c.toNat / 16)) = false := hexDigit_unbroken (by omega)
    have low : isBreak (hexDigit (c.toNat % 16)) = false := hexDigit_unbroken (by omega)
    refine Unbroken.append (s := ['\\', 'u', '0', '0']) (unbroken_of_all rfl) ?_
    simp [Unbroken, high, low]
  · simp [Unbroken, isBreak, feed, return_]

theorem quote_unbroken (s : List Char) : Unbroken (quote s) := by
  unfold quote
  refine Unbroken.append (s := '"' :: s.flatMap quoteChar) ?_ (by simp [Unbroken, isBreak])
  intro c hc
  rcases List.mem_cons.mp hc with rfl | hc
  · rfl
  · obtain ⟨d, -, member⟩ := List.mem_flatMap.mp hc
    exact quoteChar_unbroken d c member

end PagePreview.Text
