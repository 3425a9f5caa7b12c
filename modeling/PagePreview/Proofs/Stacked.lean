import PagePreview.Proofs.Passes

/-!
# Passes over stacked texts

Four passes remove exports, and each looks for them at lines headed by `export`. So a text whose
other lines are headed by nothing of the kind is read at its start, or not at all. Where a module is
a stack of such texts, a pass turns it into the stack of what it leaves of each of them.
-/

namespace PagePreview
open Text Matcher Statement

variable {α : Type} {m : Matcher α} {f : α → List Char → List Char} {b : Option Char}
  {s t u : List Char}

def ExportLed (s : List Char) : Prop :=
  ∃ indent rest, s = indent ++ ("export".toList ++ rest) ∧ InlineBlank indent ∧
    rest.head?.any isWord = false

/-- No line of the text is headed by `export`, but for its first one. -/
def FreeInside (s : List Char) : Prop :=
  ∀ front back, s = front ++ back → front ≠ [] → startsLine (lastOr none front) = true →
    ¬ExportLed back

def NoneInside (P : List Char → Prop) (s : List Char) : Prop :=
  ∀ front back, s = front ++ back → front ≠ [] → startsLine (lastOr none front) = true → ¬P back

def Stops (s : List Char) : Prop := s.head?.any (fun c => isWord c || isInlineBlank c) = false

theorem line_cases (ends : firstLine s = []) : s = [] ∨ ∃ rest, s = '\n' :: rest := by
  cases s with
  | nil => exact .inl rfl
  | cons c s =>
    by_cases feed : c = '\n'
    · exact .inr ⟨s, by rw [feed]⟩
    · rw [firstLine_cons feed] at ends
      cases ends

theorem stops_of_line (ends : firstLine s = []) : Stops s := by
  rcases line_cases ends with rfl | ⟨rest, rfl⟩
  · rfl
  · exact (by decide : (isWord '\n' || isInlineBlank '\n') = false)

theorem ExportLed.of_append (h : ExportLed (t ++ s)) (stops : Stops s) : ExportLed t := by
  obtain ⟨indent, rest, parts, hi, word⟩ := h
  have inside : ∀ c ∈ indent ++ "export".toList, (isWord c || isInlineBlank c) = true := by
    intro c member
    rcases List.mem_append.mp member with blank | letter
    · simp [hi c blank]
    · have letters : ∀ c ∈ "export".toList, isWord c = true := List.all_eq_true.mp rfl
      simp [letters c letter]
  rw [← List.append_assoc] at parts
  rcases List.append_eq_append_iff.mp parts with ⟨more, head, rfl⟩ | ⟨more, rfl, rfl⟩
  · cases more with
    | nil =>
      rw [List.append_nil] at head
      exact ⟨indent, [], by rw [← head, List.append_nil], hi, rfl⟩
    | cons c more =>
      have member : (isWord c || isInlineBlank c) = true := inside c (by rw [head]; simp)
      have stop : (isWord c || isInlineBlank c) = false := stops
      rw [member] at stop
      cases stop
  · refine ⟨indent, more, List.append_assoc _ _ _, hi, ?_⟩
    cases more with
    | nil => rfl
    | cons c more => exact word

theorem not_exportLed {c : Char} (indent : isInlineBlank c = false) (letter : c ≠ 'e') :
    ¬ExportLed (c :: s) := by
  rintro ⟨blanks, rest, parts, hi, -⟩
  obtain rfl : blanks = [] := run_eq_nil hi indent parts.symm
  exact letter (List.cons.inj parts).1

theorem not_exportLed_of_line (ends : firstLine s = []) : ¬ExportLed s := by
  rcases line_cases ends with rfl | ⟨rest, rfl⟩
  · rintro ⟨indent, rest, parts, -⟩
    simp at parts
  · exact not_exportLed (by decide) (by decide)

theorem lastOr_of_ne_nil (some : s ≠ []) (b b' : Option Char) : lastOr b s = lastOr b' s := by
  cases s with
  | nil => exact absurd rfl some
  | cons c s => rfl

theorem lastOr_of_break (ends : t.getLast? = some '\n') (b : Option Char) :
    lastOr b t = some '\n' := by
  obtain ⟨front, rfl⟩ := List.getLast?_eq_some_iff.mp ends
  rw [lastOr_append]
  rfl

theorem mem_of_startsLine (some : s ≠ []) (start : startsLine (lastOr b s) = true) : '\n' ∈ s := by
  rcases s.eq_nil_or_concat with rfl | ⟨front, c, rfl⟩
  · exact absurd rfl some
  · rw [List.concat_eq_append] at start ⊢
    obtain rfl : c = '\n' := by simpa [lastOr_append, startsLine] using start
    simp

theorem noneInside_unbroken {P : List Char → Prop} (unbroken : '\n' ∉ s) : NoneInside P s := by
  rintro front back rfl some start
  exact absurd (List.mem_append_left back (mem_of_startsLine some start)) unbroken

theorem freeInside_unbroken (unbroken : '\n' ∉ s) : FreeInside s := noneInside_unbroken unbroken

theorem NoneInside.prepend {P : List Char → Prop} (unbroken : '\n' ∉ s) (h : NoneInside P t) :
    NoneInside P (s ++ t) := by
  intro front back parts some start
  have feed := mem_of_startsLine some start
  rcases List.append_eq_append_iff.mp parts with ⟨beyond, rfl, rest⟩ | ⟨rest, rfl, -⟩
  · rcases eq_or_ne beyond [] with rfl | some'
    · rw [List.append_nil] at feed
      exact absurd feed unbroken
    · rw [lastOr_append, lastOr_of_ne_nil some' _ none] at start
      exact h beyond back rest some' start
  · exact absurd (List.mem_append_left rest feed) unbroken

theorem NoneInside.append {P : List Char → Prop} (h : NoneInside P t) (unbroken : '\n' ∉ s)
    (shorter : ∀ t, P (t ++ s) → P t) (empty : ¬P []) : NoneInside P (t ++ s) := by
  intro front back parts some start holds
  rcases List.append_eq_append_iff.mp parts with ⟨beyond, rfl, rfl⟩ | ⟨rest, rfl, rfl⟩
  · rcases eq_or_ne beyond [] with rfl | some'
    · exact empty (shorter [] holds)
    · rw [lastOr_append] at start
      exact unbroken (List.mem_append_left back (mem_of_startsLine some' start))
  · exact h front rest rfl some start (shorter rest holds)

theorem FreeInside.prepend (unbroken : '\n' ∉ s) (h : FreeInside t) : FreeInside (s ++ t) :=
  NoneInside.prepend unbroken h

theorem freeInside_break : FreeInside ['\n'] := by
  intro front back parts some _
  obtain ⟨c, front, rfl⟩ := List.exists_cons_of_ne_nil some
  obtain ⟨-, rest⟩ := List.cons.inj parts
  obtain ⟨rfl, rfl⟩ := List.append_eq_nil_iff.mp rest.symm
  exact not_exportLed_of_line rfl

theorem FreeInside.ofFree (h : Free ExportLed s) : FreeInside s :=
  fun front back parts _ start => h back ⟨front, parts, start⟩

theorem FreeInside.free (h : FreeInside s) (unled : ¬ExportLed s) : Free ExportLed s := by
  rintro t ⟨front, parts, start⟩
  rcases eq_or_ne front [] with rfl | some
  · obtain rfl : s = t := parts
    exact unled
  · exact h front t parts some start

theorem FreeInside.of_append (h : FreeInside (s ++ t)) : FreeInside t := by
  rintro front back rfl some start
  refine h (s ++ front) back (List.append_assoc ..).symm (by simp [some]) ?_
  rwa [lastOr_append, lastOr_of_ne_nil some _ none]

def stacked (ts : List (List Char)) : List Char := ['\n'].intercalate ts

def linesOf (ts : List (List Char)) : List Char := ts.flatMap ('\n' :: ·)

theorem stacked_cons (t : List Char) (ts : List (List Char)) :
    stacked (t :: ts) = t ++ linesOf ts := by
  induction ts generalizing t with
  | nil => simp [stacked, linesOf, List.intercalate]
  | cons t' ts ih =>
    have rest := ih t'
    simp only [stacked, linesOf, List.intercalate] at rest ⊢
    simp [rest]

theorem firstLine_linesOf (ts : List (List Char)) : firstLine (linesOf ts) = [] := by
  cases ts <;> rfl

theorem linesOf_eq {ts : List (List Char)} (some : ts ≠ []) : linesOf ts = '\n' :: stacked ts := by
  obtain ⟨t, ts, rfl⟩ := List.exists_cons_of_ne_nil some
  rw [stacked_cons]
  rfl

theorem stacked_append (ts ts' : List (List Char)) (t : List Char) :
    stacked (ts ++ t :: ts') = ts.flatMap (· ++ ['\n']) ++ (t ++ linesOf ts') := by
  induction ts with
  | nil => exact stacked_cons t ts'
  | cons u ts ih =>
    rw [List.cons_append, stacked_cons, linesOf_eq (by simp), ih]
    simp

/-- A line of a stack starts in one of its texts, and it is the start of a line there. -/
theorem stacked_line {t : List Char} {ts : List (List Char)} {front back : List Char}
    (parts : stacked (t :: ts) = front ++ back) (start : startsLine (lastOr none front) = true) :
    ∃ before x after inner outer, t :: ts = before ++ x :: after ∧ x = inner ++ outer ∧
      front = before.flatMap (· ++ ['\n']) ++ inner ∧ back = outer ++ linesOf after ∧
      startsLine (lastOr none inner) = true := by
  induction ts generalizing t front with
  | nil =>
    rw [stacked_cons] at parts
    have whole : t = front ++ back := by simpa [linesOf] using parts
    exact ⟨[], t, [], front, back, rfl, whole, rfl, (List.append_nil back).symm, start⟩
  | cons t' ts ih =>
    rw [stacked_cons] at parts
    rcases List.append_eq_append_iff.mp parts with ⟨beyond, rfl, rest⟩ | ⟨outer, rfl, rfl⟩
    · cases beyond with
      | nil =>
        rw [List.append_nil] at start ⊢
        exact ⟨[], t, t' :: ts, t, [], rfl, (List.append_nil t).symm, rfl, rest.symm, start⟩
      | cons c beyond =>
        -- the line starts behind the line feed that ends the first text
        have behind : '\n' :: (t' ++ linesOf ts) = c :: (beyond ++ back) := rest
        obtain ⟨rfl, line⟩ := List.cons.inj behind
        have here : startsLine (lastOr none beyond) = true := by
          rw [lastOr_append, lastOr_cons] at start
          rcases eq_or_ne beyond [] with rfl | some
          · rfl
          · rwa [lastOr_of_ne_nil some _ none] at start
        obtain ⟨before, x, after, inner, outer, whole, rfl, rfl, hback, hstart⟩ :=
          ih ((stacked_cons t' ts).trans line) here
        refine ⟨t :: before, _, after, inner, outer, congrArg (t :: ·) whole, rfl, ?_, hback,
          hstart⟩
        simp
    · exact ⟨[], front ++ outer, t' :: ts, front, outer, rfl, rfl, rfl, rfl, start⟩

/-- Where a line starts, the pass leaves of the text one with the property `P`, whatever line
follows. -/
def Leaves (m : Matcher α) (f : α → List Char → List Char) (t : List Char)
    (P : List Char → Prop) : Prop :=
  ∀ b s, startsLine b = true → firstLine s = [] → ∃ u, P u ∧
    (m.piecesFrom 0 b (t ++ s)).flatMap (Piece.write f) =
      u ++ (m.piecesFrom 0 (lastOr b t) s).flatMap (Piece.write f)

theorem Leaves.mono {P Q : List Char → Prop} (h : Leaves m f t P) (weaker : ∀ u, P u → Q u) :
    Leaves m f t Q := by
  intro b s start ends
  obtain ⟨u, hu, left⟩ := h b s start ends
  exact ⟨u, weaker u hu, left⟩

section Led

variable (led : LineLed "export" m)

include led

theorem exportLed_of_first? {p : Place} (h : m.first? p ≠ none) :
    startsLine p.behind = true ∧ ExportLed p.ahead := by
  obtain ⟨⟨a, q⟩, found⟩ := Option.ne_none_iff_exists'.mp h
  obtain ⟨start, indent, run, hi, parts, word⟩ := led p a q (mem_of_first? found)
  exact ⟨start, indent, _, parts, hi, word⟩

theorem unread_inside (free : FreeInside t) (ends : firstLine s = []) {front back : List Char}
    (parts : t = front ++ back) (some : front ≠ []) :
    m.first? ⟨lastOr b front, back ++ s⟩ = none := by
  by_contra found
  obtain ⟨start, here⟩ := exportLed_of_first? led found
  rw [lastOr_of_ne_nil some b none] at start
  exact free front back parts some start (here.of_append (stops_of_line ends))

theorem write_unread (free : FreeInside t) (ends : firstLine s = [])
    (first : m.first? ⟨b, t ++ s⟩ = none) :
    (m.piecesFrom 0 b (t ++ s)).flatMap (Piece.write f) =
      t ++ (m.piecesFrom 0 (lastOr b t) s).flatMap (Piece.write f) := by
  rw [piecesFrom_kept fun front back parts _ => ?_, write_kept]
  rcases eq_or_ne front [] with rfl | some
  · obtain rfl : t = back := parts
    exact first
  · exact unread_inside led free ends parts some

theorem leaves_kept (free : FreeInside t)
    (first : ∀ b s, firstLine s = [] → m.first? ⟨b, t ++ s⟩ = none) :
    Leaves m f t (· = t) :=
  fun b s _ ends => ⟨t, rfl, write_unread led free ends (first b s ends)⟩

theorem leaves_unled (free : Free ExportLed t) : Leaves m f t (· = t) := by
  refine leaves_kept led (.ofFree free) fun b s ends => ?_
  by_contra found
  have here := (exportLed_of_first? led found).2.of_append (stops_of_line ends)
  exact free t ⟨[], rfl, rfl⟩ here

theorem write_hit {run rest : List Char} {a : α} {c : Option Char} (nonempty : run ≠ [])
    (quiet : rest ≠ [] → FreeInside (run ++ rest)) (ends : firstLine s = [])
    (found : m.first? ⟨b, run ++ (rest ++ s)⟩ = some (a, ⟨c, rest ++ s⟩)) :
    (m.piecesFrom 0 b (run ++ rest ++ s)).flatMap (Piece.write f) =
      f a run ++ rest ++ (m.piecesFrom 0 (lastOr b (run ++ rest)) s).flatMap (Piece.write f) := by
  rw [List.append_assoc, piecesFrom_hit (q := ⟨c, rest ++ s⟩) nonempty found,
    piecesFrom_kept fun front back parts more => ?_, List.flatMap_cons, write_kept, lastOr_append,
    List.append_assoc]
  · rfl
  · have some : rest ≠ [] := by
      rintro rfl
      exact more (List.append_eq_nil_iff.mp parts.symm).2
    rw [← lastOr_append]
    exact unread_inside led (quiet some) ends (by rw [parts, List.append_assoc])
      (by simp [nonempty])

theorem write_whole {a : α} {c : Option Char} (nonempty : t ≠ []) (ends : firstLine s = [])
    (found : m.first? ⟨b, t ++ s⟩ = some (a, ⟨c, s⟩)) :
    (m.piecesFrom 0 b (t ++ s)).flatMap (Piece.write f) =
      f a t ++ (m.piecesFrom 0 (lastOr b t) s).flatMap (Piece.write f) := by
  have quiet : ([] : List Char) ≠ [] → FreeInside (t ++ []) := fun none => absurd rfl none
  have written := write_hit (f := f) led nonempty quiet ends found
  rwa [List.append_nil, List.append_nil] at written

theorem write_break : (m.piecesFrom 0 b ('\n' :: s)).flatMap (Piece.write f) =
    '\n' :: (m.piecesFrom 0 (some '\n') s).flatMap (Piece.write f) := by
  have unread : m.first? ⟨b, '\n' :: s⟩ = none := by
    by_contra found
    exact not_exportLed_of_line rfl (exportLed_of_first? led found).2
  simp only [piecesFrom, unread, List.flatMap_cons]
  rfl

section Stack

variable {ι : Type} {P Q : ι → List Char → Prop} (leaves : ∀ i t, P i t → Leaves m f t (Q i))

include leaves

theorem write_linesOf {is : List ι} {ts : List (List Char)} (h : List.Forall₂ P is ts)
    (b : Option Char) : ∃ us, List.Forall₂ Q is us ∧
      (m.piecesFrom 0 b (linesOf ts)).flatMap (Piece.write f) = linesOf us := by
  induction h generalizing b with
  | nil => exact ⟨[], .nil, rfl⟩
  | @cons i t is ts ht _ ih =>
    obtain ⟨u, hu, here⟩ := leaves i t ht (some '\n') (linesOf ts) rfl (firstLine_linesOf ts)
    obtain ⟨us, hus, there⟩ := ih (lastOr (some '\n') t)
    refine ⟨u :: us, .cons hu hus, ?_⟩
    have shape : linesOf (t :: ts) = '\n' :: (t ++ linesOf ts) := rfl
    rw [shape, write_break led, here, there]
    rfl

theorem rewrite_stacked {is : List ι} {ts : List (List Char)} (h : List.Forall₂ P is ts) :
    ∃ us, List.Forall₂ Q is us ∧ m.rewrite f (stacked ts) = stacked us := by
  cases h with
  | nil => exact ⟨[], .nil, rfl⟩
  | @cons i t is ts ht rest =>
    obtain ⟨u, hu, here⟩ := leaves i t ht none (linesOf ts) rfl (firstLine_linesOf ts)
    obtain ⟨us, hus, there⟩ := write_linesOf led leaves rest (lastOr none t)
    refine ⟨u :: us, .cons hu hus, ?_⟩
    rw [stacked_cons, stacked_cons, Matcher.rewrite, pieces, here, there]

end Stack

end Led

end PagePreview
