import PagePreview.Proofs.Render.Lowered
import PagePreview.Proofs.Text.Trim

/-!
# The text between tags

The text between tags is split into lines, each line is trimmed where it meets a line break, and the
lines that are left are joined by single spaces. The lines that hold more than blanks tell where a
space goes, and they are the lines that are left, but for a text that is one line of blanks. Such a
text keeps its blanks and gets one more.
-/

namespace PagePreview.JsxText
open Text

variable {raw line : List Char} {ls : List (List Char)}

/-- The lines of a text. A carriage return, a line feed, and the two one after the other, each end a
line. -/
def lines : List Char → List (List Char)
  | [] => [[]]
  | '\r' :: '\n' :: s => [] :: lines s
  | '\r' :: s => [] :: lines s
  | '\n' :: s => [] :: lines s
  | c :: s =>
    match lines s with
    | [] => [[c]]
    | line :: rest => (c :: line) :: rest

def spaced (line : List Char) : List Char := line.map fun c => if c = '\t' then ' ' else c

def trimmed (count i : Nat) (line : List Char) : List Char :=
  let line := if i = 0 then line else line.dropWhile (· == ' ')
  if i + 1 = count then line else line.rdropWhile (· == ' ')

def survivors (raw : List Char) : List (List Char) :=
  ((lines raw).mapIdx fun i line => trimmed (lines raw).length i (spaced line)).filter (· ≠ [])

def collapsed (raw : List Char) : Option (List Char) :=
  if survivors raw = [] then none else some (decode ([' '].intercalate (survivors raw)))

/-- A text that is one line of spaces and tabs, at least one of them. -/
def IsBlankLine (raw : List Char) : Prop := raw ≠ [] ∧ InlineBlank raw

theorem splitAt_feed (s : List Char) :
    splitAt (· == '\n') ('\n' :: s) = [] :: splitAt (· == '\n') s := by
  obtain ⟨part, parts, whole, next⟩ := splitAt_cons (· == '\n') '\n' s
  rw [next, whole]
  rfl

theorem lines_eq (raw : List Char) : splitAt (· == '\n') (unifyBreaks raw) = lines raw := by
  fun_induction lines raw with
  | case1 => rfl
  | case2 s ih => rw [unifyBreaks, splitAt_feed, ih]
  | case3 s single ih => rw [unifyBreaks.eq_2 _ single, splitAt_feed, ih]
  | case4 s ih =>
    have kept : unifyBreaks ('\n' :: s) = '\n' :: unifyBreaks s := by simp [unifyBreaks]
    rw [kept, splitAt_feed, ih]
  | case5 c s single other feed none ih =>
    obtain ⟨part, parts, whole, -⟩ := splitAt_cons (· == '\n') c (unifyBreaks s)
    rw [ih, none] at whole
    cases whole
  | case6 c s single other feed line rest some ih =>
    obtain ⟨part, parts, whole, next⟩ := splitAt_cons (· == '\n') c (unifyBreaks s)
    rw [ih, some] at whole
    obtain ⟨rfl, rfl⟩ := List.cons.inj whole
    rw [unifyBreaks.eq_3 _ _ single other, next, if_neg (by simpa using feed)]

theorem lines_unbroken (unbroken : ∀ c ∈ raw, c ≠ '\n' ∧ c ≠ '\r') : lines raw = [raw] := by
  induction raw with
  | nil => rfl
  | cons c raw ih =>
    obtain ⟨feed, other⟩ := unbroken c (by simp)
    have rest := ih fun d hd => unbroken d (by simp [hd])
    simp [lines, other, rest]

theorem lines_ne_nil (raw : List Char) : lines raw ≠ [] := by
  fun_cases lines raw <;> exact List.cons_ne_nil _ _

theorem eq_of_lines_eq (single : lines raw = [line]) : raw = line := by
  fun_induction lines raw generalizing line with
  | case1 => exact (List.cons.inj single).1
  | case2 s ih => exact absurd (List.cons.inj single).2 (lines_ne_nil s)
  | case3 s _ ih => exact absurd (List.cons.inj single).2 (lines_ne_nil s)
  | case4 s ih => exact absurd (List.cons.inj single).2 (lines_ne_nil s)
  | case5 c s _ _ _ none ih => exact absurd none (lines_ne_nil s)
  | case6 c s _ _ _ part rest whole ih =>
    obtain ⟨rfl, rfl⟩ := List.cons.inj single
    rw [ih whole]

def stripped (isFirst : Bool) : List (List Char) → List (List Char)
  | [] => []
  | line :: rest => cleanLine isFirst rest.isEmpty line :: stripped false rest

theorem stripped_eq (k : Nat) (ls : List (List Char)) :
    (ls.mapIdx fun i line => trimmed (k + ls.length) (k + i) (spaced line)) =
      stripped (k == 0) ls := by
  induction ls generalizing k with
  | nil => rfl
  | cons line rest ih =>
    have here : trimmed (k + (rest.length + 1)) (k + 0) (spaced line) =
        cleanLine (k == 0) rest.isEmpty line := by
      have last : k + 0 + 1 = k + (rest.length + 1) ↔ rest.isEmpty = true := by
        rw [List.isEmpty_iff_length_eq_zero]
        omega
      simp only [trimmed, cleanLine, last, dropWhileEnd_eq, spaced, Nat.add_zero, beq_iff_eq]
    have further : ∀ i, k + (i + 1) = k + 1 + i := fun i => by omega
    have size : k + (rest.length + 1) = k + 1 + rest.length := by omega
    have same : (fun i line => trimmed (k + (rest.length + 1)) (k + (i + 1)) (spaced line)) =
        fun i line => trimmed (k + 1 + rest.length) (k + 1 + i) (spaced line) := by
      funext i line
      rw [further i, size]
    rw [List.mapIdx_cons, List.length_cons, here, stripped, same, ih (k + 1)]
    rfl

theorem survivors_eq (raw : List Char) :
    survivors raw = (stripped true (lines raw)).filter (· ≠ []) := by
  have whole := stripped_eq 0 (lines raw)
  simp only [Nat.zero_add] at whole
  rw [survivors, whole]
  rfl

theorem isSpace_spaced : (∀ c ∈ spaced line, (c == ' ') = true) ↔ isBlankLine line = true := by
  rw [isBlankLine, List.all_eq_true, spaced, List.forall_mem_map]
  refine forall₂_congr fun c _ => ?_
  by_cases tab : c = '\t'
  · simp [tab, isInlineBlank]
  · simp [tab, isInlineBlank]

theorem cleanLine_eq_nil {isFirst isLast : Bool} (meets : isFirst = false ∨ isLast = false) :
    cleanLine isFirst isLast line = [] ↔ isBlankLine line = true := by
  rw [← isSpace_spaced, cleanLine, dropWhileEnd_eq]
  cases isFirst with
  | true =>
    obtain rfl : isLast = false := meets.resolve_left (by decide)
    exact List.rdropWhile_eq_nil_iff
  | false =>
    cases isLast with
    | true => exact List.dropWhile_eq_nil_iff
    | false =>
      have both : ((spaced line).dropWhile (· == ' ')).rdropWhile (· == ' ') = [] ↔
          (spaced line).dropWhile (· == ' ') = [] := by
        rw [List.rdropWhile_eq_nil_iff]
        constructor
        · intro all
          by_contra some
          have stops := List.head_dropWhile_not (· == ' ') some
          rw [all _ (List.head_mem some)] at stops
          cases stops
        · intro none c hc
          rw [none] at hc
          cases hc
      exact both.trans List.dropWhile_eq_nil_iff

theorem filter_stripped_eq_nil (ls : List (List Char)) :
    (stripped false ls).filter (· ≠ []) = [] ↔ ls.all isBlankLine = true := by
  induction ls with
  | nil => simp [stripped]
  | cons line rest ih =>
    have here : cleanLine false rest.isEmpty line = [] ↔ isBlankLine line = true :=
      cleanLine_eq_nil (.inl rfl)
    rw [stripped, List.all_cons, Bool.and_eq_true, ← ih, ← here]
    by_cases left : cleanLine false rest.isEmpty line = [] <;> simp [left]

theorem intercalate_cons {line : List Char} {rest : List (List Char)} (some : rest ≠ []) :
    [' '].intercalate (line :: rest) = line ++ [' '] ++ [' '].intercalate rest := by
  obtain ⟨next, rest, rfl⟩ := List.exists_cons_of_ne_nil some
  simp [List.intercalate]

/-- Lines are joined by single spaces, unless they are one blank line that meets no break. -/
theorem joinLines_eq {isFirst : Bool}
    (meets : isFirst = true → ∀ line, ls = [line] → ¬IsBlankLine line) :
    joinLines isFirst ls = [' '].intercalate ((stripped isFirst ls).filter (· ≠ [])) := by
  induction ls generalizing isFirst with
  | nil => rfl
  | cons line rest ih =>
    have further : joinLines false rest = _ := ih nofun
    have nothing := filter_stripped_eq_nil rest
    rw [joinLines, stripped]
    by_cases left : cleanLine isFirst rest.isEmpty line = []
    · simp [left, further]
    · -- the line holds something, so the space behind it goes by the lines that follow
      have solid : isBlankLine line = false := by
        by_contra blank
        rw [Bool.not_eq_false] at blank
        by_cases alone : isFirst = true ∧ rest = []
        · obtain ⟨rfl, rfl⟩ := alone
          refine meets rfl line rfl ⟨?_, fun c hc => List.all_eq_true.mp blank c hc⟩
          rintro rfl
          exact left rfl
        · refine left ((cleanLine_eq_nil ?_).mpr blank)
          cases isFirst with
          | false => exact .inl rfl
          | true => exact .inr (List.isEmpty_eq_false_iff.mpr fun none => alone ⟨rfl, none⟩)
      rw [List.filter_cons_of_pos (by simpa using left), further]
      by_cases last : rest.all isBlankLine = true
      · rw [nothing.mpr last]
        simp [left, solid, last, List.intercalate]
      · rw [intercalate_cons (mt nothing.mp last)]
        simp [left, last]

theorem intercalate_eq_nil {ls : List (List Char)} (some : ∀ line ∈ ls, line ≠ []) :
    [' '].intercalate ls = [] ↔ ls = [] := by
  cases ls with
  | nil => simp [List.intercalate]
  | cons line rest =>
    have here := some line (by simp)
    cases rest with
    | nil => simpa [List.intercalate] using here
    | cons next rest => simp

theorem decode_spaces (n : Nat) : decode (List.replicate n ' ') = List.replicate n ' ' :=
  JsxTree.decode_eq_self (by simp [List.mem_replicate])

theorem spaced_blank (blank : InlineBlank raw) : spaced raw = List.replicate raw.length ' ' := by
  rw [List.eq_replicate_iff]
  have all := isSpace_spaced.mpr (List.all_eq_true.mpr blank)
  exact ⟨List.length_map _, fun c hc => by simpa using all c hc⟩

theorem unbroken_of_blank (blank : InlineBlank raw) : ∀ c ∈ raw, c ≠ '\n' ∧ c ≠ '\r' := by
  intro c hc
  have inline := blank c hc
  constructor <;> rintro rfl <;> exact absurd inline (by decide)

theorem survivors_single (some : raw ≠ []) (unbroken : ∀ c ∈ raw, c ≠ '\n' ∧ c ≠ '\r') :
    survivors raw = [spaced raw] := by
  have kept : spaced raw ≠ [] := by simpa [spaced] using some
  rw [survivors, lines_unbroken unbroken]
  simp [trimmed, kept]

theorem clean_blank (blank : IsBlankLine raw) :
    clean raw = some (List.replicate (raw.length + 1) ' ') := by
  obtain ⟨some, inline⟩ := blank
  have single : splitAt (· == '\n') (unifyBreaks raw) = [raw] := by
    rw [lines_eq, lines_unbroken (unbroken_of_blank inline)]
  have cleaned : cleanLine true true raw = List.replicate raw.length ' ' := spaced_blank inline
  have all : isBlankLine raw = true := List.all_eq_true.mpr inline
  have joined : joinLines true [raw] = List.replicate (raw.length + 1) ' ' := by
    simp [joinLines, cleaned, all, some, List.replicate_succ']
  rw [clean, single, joined]
  exact congrArg Option.some (decode_spaces _)

theorem collapsed_blank (blank : IsBlankLine raw) :
    collapsed raw = some (List.replicate raw.length ' ') := by
  obtain ⟨some, inline⟩ := blank
  rw [collapsed, survivors_single some (unbroken_of_blank inline), spaced_blank inline]
  simp [List.intercalate, decode_spaces]

theorem clean_eq_collapsed (other : ¬IsBlankLine raw) : clean raw = collapsed raw := by
  have meets : ∀ line, lines raw = [line] → ¬IsBlankLine line := fun line single =>
    eq_of_lines_eq single ▸ other
  have joined : joinLines true (splitAt (· == '\n') (unifyBreaks raw)) =
      [' '].intercalate (survivors raw) := by
    rw [lines_eq, joinLines_eq fun _ => meets, survivors_eq]
  have nothing : [' '].intercalate (survivors raw) = [] ↔ survivors raw = [] :=
    intercalate_eq_nil fun line hl => by simpa using (List.mem_filter.mp hl).2
  rw [clean, joined, collapsed]
  by_cases none : survivors raw = []
  · rw [nothing.mpr none, if_pos none]
  · obtain ⟨c, s, whole⟩ := List.exists_cons_of_ne_nil (mt nothing.mp none)
    rw [whole, if_neg none]

/-- The text between tags is what the rule gives, unless it is one line of blanks: then it has one
space too many. So a text without a break keeps all its characters, but for tabs and references,
exactly if it holds more than blanks. -/
theorem clean_eq_collapsed_iff (raw : List Char) :
    (clean raw = collapsed raw ↔ ¬IsBlankLine raw) ∧
    (IsBlankLine raw → clean raw = some (List.replicate (raw.length + 1) ' ') ∧
      collapsed raw = some (List.replicate raw.length ' ')) ∧
    (raw ≠ [] → (∀ c ∈ raw, c ≠ '\n' ∧ c ≠ '\r') →
      (clean raw = some (decode (spaced raw)) ↔ ∃ c ∈ raw, isInlineBlank c = false)) := by
  have iff : clean raw = collapsed raw ↔ ¬IsBlankLine raw := by
    refine ⟨fun same blank => ?_, clean_eq_collapsed⟩
    rw [clean_blank blank, collapsed_blank blank, Option.some.injEq] at same
    have lengths := congrArg List.length same
    simp at lengths
  refine ⟨iff, fun blank => ⟨clean_blank blank, collapsed_blank blank⟩, fun some unbroken => ?_⟩
  have kept : collapsed raw = .some (decode (spaced raw)) := by
    rw [collapsed, survivors_single some unbroken]
    simp [List.intercalate]
  rw [← kept, iff]
  simp [IsBlankLine, some, InlineBlank]

/-- The space between two elements on a line becomes two. -/
theorem clean_ne_collapsed_space : clean [' '] = some [' ', ' '] ∧ collapsed [' '] = some [' '] := by
  decide

end PagePreview.JsxText
