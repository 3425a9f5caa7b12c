import PagePreview.Entry
import PagePreview.Proofs.Text.Quiet

/-!
# Edits at line starts

Sanitizing is a row of passes, each of which edits a text at starts of lines: it cuts the line, or it
puts a word in front of what the line goes on with. `Edited` describes one pass. A statement that no
edited line interrupts stands in the result only if it stood in the text before, so a pass leaves
none of its own statements and brings back none of an earlier pass.
-/

namespace PagePreview.Text

def startsLine (b : Option Char) : Bool := b.all (· == '\n')

def firstLine (s : List Char) : List Char := s.takeWhile (· != '\n')

def Blank (s : List Char) : Prop := ∀ c ∈ s, isBlank c = true
def InlineBlank (s : List Char) : Prop := ∀ c ∈ s, isInlineBlank c = true

theorem blank_space : Blank [' '] := List.all_eq_true.mp rfl

def LineBlank (s : List Char) : Prop := Blank s ∧ '\n' ∉ s

def Keyword (s : List Char) : Prop :=
  ∃ w rest, (w = "import" ∨ w = "export") ∧ s = w.toList ++ rest ∧ rest.head?.any isWord = false

def Led (Indent : List Char → Prop) (s : List Char) : Prop :=
  ∃ indent t, s = indent ++ t ∧ Indent indent ∧ Keyword t

def Opening (s : List Char) : Prop := Led InlineBlank s

/-- The text begins as a statement does, whichever blanks indent it. -/
def Headed (s : List Char) : Prop := Led LineBlank s

def putWords : List String := "void" :: Entry.declarationWords

/-- What a line can look like that was edited: it is empty, or it begins with a word that was put
there. A function needs nothing between that word and its name. -/
def EditedLine (line : List Char) : Prop :=
  line = [] ∨ ∃ indent w rest, line = indent ++ (w.toList ++ rest) ∧ InlineBlank indent ∧
    (w = "function" ∨ w ∈ putWords ∧ rest.head?.any isWord = false)

/-- The second text is the first one edited at starts of lines, and no statement of the form `Own` is
left unedited there. -/
inductive Edited (Own : List Char → Prop) : Option Char → List Char → List Char → Prop
  | nil (b : Option Char) : Edited Own b [] []
  | keep {b : Option Char} {c : Char} {s t : List Char} :
    (startsLine b = true → ¬Own (c :: s)) → Edited Own (some c) s t → Edited Own b (c :: s) (c :: t)
  | cut {b : Option Char} {run s t : List Char} :
    startsLine b = true → Opening (run ++ s) → firstLine s = [] →
    Edited Own (lastOr b run) s t → Edited Own b (run ++ s) t
  | put {b : Option Char} {old new s t : List Char} :
    startsLine b = true → Opening (old ++ s) → new ≠ [] → Unbroken new →
    EditedLine (firstLine (new ++ t)) → Edited Own (lastOr b old) s t →
    Edited Own b (old ++ s) (new ++ t)

theorem isBlank_of_isInlineBlank {c : Char} (h : isInlineBlank c = true) : isBlank c = true := by
  simp only [isInlineBlank, Bool.or_eq_true, beq_iff_eq] at h
  rcases h with rfl | rfl <;> decide

def blankCodes : List Nat := [
  9, 10, 11, 12, 13, 0x20, 0x85, 0xA0, 0x1680, 0x2000, 0x2001, 0x2002, 0x2003, 0x2004, 0x2005, 0x2006,
  0x2007, 0x2008, 0x2009, 0x200A, 0x2028, 0x2029, 0x202F, 0x205F, 0x3000]

theorem isWord_of_isBlank {c : Char} (h : isBlank c = true) : isWord c = false := by
  have member : c.toNat ∈ blankCodes := by
    simp only [isBlank, Bool.or_eq_true, Bool.and_eq_true, decide_eq_true_eq, beq_iff_eq] at h
    simp only [blankCodes, List.mem_cons, List.not_mem_nil, or_false]
    omega
  have table : ∀ n ∈ blankCodes, isWord (Char.ofNat n) = false := by decide +kernel
  have found := table c.toNat member
  rwa [Char.ofNat_toNat] at found

theorem head?_of_blanks {run rest : List Char} (some : run ≠ []) (h : Blank run) :
    (run ++ rest).head?.any isWord = false := by
  obtain ⟨c, run, rfl⟩ := List.exists_cons_of_ne_nil some
  simpa using isWord_of_isBlank (h c (by simp))

theorem head?_of_gap {gap rest : List Char} (h : Blank gap) (hr : rest.head?.any isWord = false) :
    (gap ++ rest).head?.any isWord = false := by
  rcases eq_or_ne gap [] with rfl | some
  · exact hr
  · exact head?_of_blanks some h

theorem InlineBlank.blank {s : List Char} (h : InlineBlank s) : Blank s :=
  fun c hc => isBlank_of_isInlineBlank (h c hc)

theorem Unbroken.noBreak {s : List Char} (h : Unbroken s) : '\n' ∉ s :=
  fun member => absurd (h '\n' member) (by decide)

theorem InlineBlank.unbroken {s : List Char} (h : InlineBlank s) : Unbroken s := by
  intro c hc
  have inline := h c hc
  simp only [isInlineBlank, Bool.or_eq_true, beq_iff_eq] at inline
  rcases inline with rfl | rfl <;> decide

theorem InlineBlank.noBreak {s : List Char} (h : InlineBlank s) : '\n' ∉ s := h.unbroken.noBreak

theorem Blank.eq_of_append {g h s t : List Char} {c d : Char} (hg : Blank g) (hh : Blank h)
    (hc : isBlank c = false) (hd : isBlank d = false) (same : g ++ c :: s = h ++ d :: t) :
    g = h ∧ c = d ∧ s = t :=
  run_eq_of_append hg hh hc hd same

@[simp] theorem firstLine_nil : firstLine [] = [] := rfl

@[simp] theorem firstLine_break (s : List Char) : firstLine ('\n' :: s) = [] := rfl

theorem firstLine_cons {c : Char} (hc : c ≠ '\n') (s : List Char) :
    firstLine (c :: s) = c :: firstLine s := by
  simp [firstLine, hc]

theorem firstLine_append {s : List Char} (hs : '\n' ∉ s) (t : List Char) :
    firstLine (s ++ t) = s ++ firstLine t := by
  induction s with
  | nil => rfl
  | cons c s ih =>
    have hc : c ≠ '\n' := fun same => hs (by simp [same])
    rw [List.cons_append, firstLine_cons hc, ih fun member => hs (by simp [member]),
      List.cons_append]

theorem firstLine_append_break {s : List Char} (hs : s.getLast? = some '\n') (t : List Char) :
    firstLine (s ++ t) = firstLine s := by
  obtain ⟨front, rfl⟩ := List.getLast?_eq_some_iff.mp hs
  rw [List.append_assoc, List.singleton_append]
  induction front with
  | nil => rfl
  | cons c front ih =>
    by_cases hc : c = '\n'
    · simp [hc]
    · simp only [List.cons_append, firstLine_cons hc, ih (by simp)]

theorem firstLine_noBreak (s : List Char) : '\n' ∉ firstLine s := by
  intro member
  have all := List.all_eq_true.mp (List.all_takeWhile (p := (· != '\n')) (l := s)) '\n' member
  simp at all

theorem firstLine_split (s : List Char) :
    ∃ rest, s = firstLine s ++ rest ∧ (rest = [] ∨ ∃ t, rest = '\n' :: t) := by
  induction s with
  | nil => exact ⟨[], rfl, .inl rfl⟩
  | cons c s ih =>
    by_cases hc : c = '\n'
    · subst hc
      exact ⟨_, rfl, .inr ⟨s, rfl⟩⟩
    · obtain ⟨rest, parts, ends⟩ := ih
      refine ⟨rest, ?_, ends⟩
      rw [firstLine_cons hc, List.cons_append, ← parts]

theorem of_firstLine_append {s front rest : List Char} (h : firstLine s = front ++ rest) :
    ∃ t, s = front ++ t ∧ firstLine t = rest := by
  obtain ⟨more, parts, ends⟩ := firstLine_split s
  have unbroken : '\n' ∉ rest := fun member =>
    firstLine_noBreak s (h ▸ List.mem_append_right front member)
  refine ⟨rest ++ more, by rw [← List.append_assoc, ← h, ← parts], ?_⟩
  rw [firstLine_append unbroken]
  rcases ends with rfl | ⟨t, rfl⟩ <;> simp

theorem head?_firstLine (s : List Char) :
    (firstLine s).head?.any isWord = s.head?.any isWord := by
  cases s with
  | nil => rfl
  | cons c s =>
    by_cases hc : c = '\n'
    · subst hc
      rfl
    · rw [firstLine_cons hc]
      rfl

theorem InlineBlank.line {s : List Char} (h : InlineBlank s) : LineBlank s := ⟨h.blank, h.noBreak⟩

theorem Keyword.letters {s : List Char} (h : Keyword s) :
    ∃ c d rest, s = c :: d :: rest ∧ isBlank c = false ∧
      ((c, d) = ('i', 'm') ∨ (c, d) = ('e', 'x')) := by
  obtain ⟨w, rest, rfl | rfl, rfl, -⟩ := h
  · exact ⟨'i', 'm', _, rfl, by decide, .inl rfl⟩
  · exact ⟨'e', 'x', _, rfl, by decide, .inr rfl⟩

theorem led_firstLine {Indent : List Char → Prop} (inline : ∀ {i}, Indent i → LineBlank i)
    {s : List Char} : Led Indent (firstLine s) ↔ Led Indent s := by
  have unbroken : ∀ w : String, w = "import" ∨ w = "export" → '\n' ∉ w.toList := by
    rintro w (rfl | rfl) <;> decide
  constructor
  · rintro ⟨indent, t, line, hi, w, rest, hw, rfl, ends⟩
    obtain ⟨s₁, rfl, line₁⟩ := of_firstLine_append line
    obtain ⟨s₂, rfl, rfl⟩ := of_firstLine_append line₁
    exact ⟨indent, _, rfl, hi, w, s₂, hw, rfl, by rwa [head?_firstLine] at ends⟩
  · rintro ⟨indent, t, rfl, hi, w, rest, hw, rfl, ends⟩
    refine ⟨indent, _, firstLine_append (inline hi).2 _, hi, w, firstLine rest, hw, ?_, ?_⟩
    · exact firstLine_append (unbroken w hw) rest
    · rwa [head?_firstLine]

theorem opening_firstLine {s : List Char} : Opening (firstLine s) ↔ Opening s :=
  led_firstLine InlineBlank.line

theorem headed_firstLine {s : List Char} : Headed (firstLine s) ↔ Headed s := led_firstLine id

theorem Opening.headed {s : List Char} (h : Opening s) : Headed s := by
  obtain ⟨indent, t, rfl, hi, ht⟩ := h
  exact ⟨indent, t, rfl, hi.line, ht⟩

theorem Headed.firstLine_ne_nil {s : List Char} (h : Headed s) : firstLine s ≠ [] := by
  intro empty
  obtain ⟨indent, t, parts, -, ht⟩ := headed_firstLine.mpr h
  obtain ⟨c, d, rest, rfl, -⟩ := ht.letters
  simp [empty] at parts

theorem putWord_letters {w : String} (h : w = "function" ∨ w ∈ putWords) :
    ∃ c d rest, w.toList = c :: d :: rest ∧ isBlank c = false ∧ (c, d) ≠ ('i', 'm') ∧
      (c, d) ≠ ('e', 'x') := by
  have table : ∀ w ∈ "function" :: putWords, ∃ c d rest, w.toList = c :: d :: rest ∧
      isBlank c = false ∧ (c, d) ≠ ('i', 'm') ∧ (c, d) ≠ ('e', 'x') := by
    simp only [putWords, Entry.declarationWords, List.forall_mem_cons, List.not_mem_nil,
      false_imp_iff, implies_true, and_true]
    refine ⟨?_, ?_, ?_, ?_, ?_, ?_, ?_, ?_, ?_, ?_, ?_, ?_, ?_⟩ <;>
      exact ⟨_, _, _, rfl, by decide, by decide, by decide⟩
  exact table w (List.mem_cons.mpr h)

theorem EditedLine.not_headed {s : List Char} (h : EditedLine (firstLine s)) : ¬Headed s := by
  intro headed
  rcases h with empty | ⟨indent, w, rest, line, hi, hw⟩
  · exact headed.firstLine_ne_nil empty
  · obtain ⟨c, d, more, hword, hc, notImport, notExport⟩ := putWord_letters (hw.imp_right And.left)
    obtain ⟨indent', t, parts, hi', ht⟩ := headed_firstLine.mpr headed
    obtain ⟨c', d', more', rfl, hc', letters⟩ := ht.letters
    rw [line, hword] at parts
    obtain ⟨-, rfl, same⟩ := hi.blank.eq_of_append hi'.1 hc hc' parts
    obtain ⟨rfl, -⟩ := List.cons.inj same
    exact letters.elim notImport notExport

theorem EditedLine.not_opening {s : List Char} (h : EditedLine (firstLine s)) : ¬Opening s :=
  fun opening => h.not_headed opening.headed

/-- The text after another one is where a line of theirs starts. -/
def OpensLine (s t : List Char) : Prop :=
  ∃ before, s = before ++ t ∧ startsLine (lastOr none before) = true

def Free (P : List Char → Prop) (s : List Char) : Prop := ∀ t, OpensLine s t → ¬P t

/-- Every line of the text that begins as a statement does has the form `P`. -/
def Tidy (P : List Char → Prop) (s : List Char) : Prop := ∀ t, OpensLine s t → Headed t → P t

theorem tidy_nil (P : List Char → Prop) : Tidy P [] := by
  rintro t ⟨before, parts, -⟩ headed
  obtain ⟨-, rfl⟩ := List.append_eq_nil_iff.mp parts.symm
  exact absurd rfl headed.firstLine_ne_nil

theorem tidy_line {P : List Char → Prop} {line s : List Char} (hl : '\n' ∉ line)
    (first : P (line ++ '\n' :: s)) (rest : Tidy P s) : Tidy P (line ++ '\n' :: s) := by
  rintro t ⟨before, parts, start⟩ headed
  rcases before.eq_nil_or_concat with rfl | ⟨front, c, rfl⟩
  · obtain rfl : line ++ '\n' :: s = t := parts
    exact first
  rw [List.concat_eq_append] at parts start
  obtain rfl : c = '\n' := by simpa [lastOr_append, startsLine] using start
  rw [List.append_assoc, List.singleton_append] at parts
  rcases List.append_eq_append_iff.mp parts with ⟨more, rfl, further⟩ | ⟨more, rfl, further⟩
  · cases more with
    | nil =>
      obtain rfl := (List.cons.inj further).2
      exact rest _ ⟨[], rfl, rfl⟩ headed
    | cons d more =>
      obtain ⟨rfl, rfl⟩ := List.cons.inj further
      refine rest t ⟨more ++ ['\n'], by simp, ?_⟩ headed
      simp [lastOr_append, startsLine]
  · cases more with
    | nil =>
      obtain rfl := (List.cons.inj further).2
      exact rest _ ⟨[], rfl, rfl⟩ headed
    | cons d more =>
      obtain ⟨rfl, -⟩ := List.cons.inj further
      exact absurd (by simp) hl

structure Form (P : List Char → Prop) : Prop where
  opens : ∀ {s}, P s → Opening s
  back : ∀ {pre s t}, pre.getLast? = some '\n' → EditedLine (firstLine t) → P (pre ++ t) →
    P (pre ++ s)
  forth : ∀ {pre s t}, pre.getLast? = some '\n' → Opening s → P (pre ++ s) → P (pre ++ t)

theorem Form.or {P Q : List Char → Prop} (hP : Form P) (hQ : Form Q) :
    Form fun s => P s ∨ Q s where
  opens h := h.elim hP.opens hQ.opens
  back breaks edited := Or.imp (hP.back breaks edited) (hQ.back breaks edited)
  forth breaks opening := Or.imp (hP.forth breaks opening) (hQ.forth breaks opening)

theorem Form.ofLine {Q : List Char → Prop} (opens : ∀ {s}, Q (firstLine s) → Opening s) :
    Form fun s => Q (firstLine s) where
  opens := opens
  back breaks _ h := by
    rw [firstLine_append_break breaks] at h ⊢
    exact h
  forth breaks _ h := by
    rw [firstLine_append_break breaks] at h ⊢
    exact h

def Solid (s t : List Char) : Prop :=
  ∀ before after, s = before ++ after → before.getLast? = some '\n' →
    ¬EditedLine (firstLine (after ++ t)) ∧ ¬Opening (after ++ t)

theorem Solid.of_break {head more s : List Char} (solid : Solid head (more ++ s))
    (breaks : more.getLast? = some '\n') (t : List Char) : Solid head (more ++ t) := by
  intro before after split hb
  have kept := solid before after split hb
  have ends : (after ++ more).getLast? = some '\n' := by simp [List.getLast?_append, breaks]
  rw [← opening_firstLine, ← List.append_assoc, firstLine_append_break ends] at kept ⊢
  exact kept

/-- A solid text, and what its last line goes on with, up to a place where a line starts: the place
is one of the solid text, or it is on a later line. -/
theorem Solid.split {head rest pre s : List Char} (parts : pre ++ s = head ++ rest)
    (breaks : pre.getLast? = some '\n') (solid : Solid head rest) :
    ¬EditedLine (firstLine s) ∧ ¬Opening s ∨
      ∃ more, pre = head ++ more ∧ rest = more ++ s ∧ more.getLast? = some '\n' := by
  rcases List.append_eq_append_iff.mp parts with ⟨inside, rfl, rfl⟩ | ⟨more, rfl, rfl⟩
  · exact .inl (solid pre inside rfl breaks)
  · rcases more.eq_nil_or_concat with rfl | ⟨front, c, rfl⟩
    · exact .inl (solid head [] (List.append_nil _).symm (by simpa using breaks))
    · exact .inr ⟨_, rfl, rfl, by simpa [List.concat_eq_append] using breaks⟩

theorem Form.ofSolid {H Q : List Char → Prop}
    (opens : ∀ {head rest}, H head → Opening (head ++ rest)) :
    Form fun s => ∃ head rest, s = head ++ rest ∧ H head ∧ Solid head rest ∧ Q (firstLine rest) where
  opens := by
    rintro s ⟨head, rest, rfl, hh, -, -⟩
    exact opens hh
  back := by
    rintro pre s t breaks edited ⟨head, rest, parts, hh, solid, hq⟩
    rcases solid.split parts breaks with ⟨unedited, -⟩ | ⟨more, rfl, rfl, breaks'⟩
    · exact absurd edited unedited
    · refine ⟨head, more ++ s, List.append_assoc _ _ _, hh, solid.of_break breaks' s, ?_⟩
      rwa [firstLine_append_break breaks'] at hq ⊢
  forth := by
    rintro pre s t breaks opening ⟨head, rest, parts, hh, solid, hq⟩
    rcases solid.split parts breaks with ⟨-, closed⟩ | ⟨more, rfl, rfl, breaks'⟩
    · exact absurd opening closed
    · refine ⟨head, more ++ t, List.append_assoc _ _ _, hh, solid.of_break breaks' t, ?_⟩
      rwa [firstLine_append_break breaks'] at hq ⊢

namespace Edited

variable {Own P : List Char → Prop} {b : Option Char} {s t : List Char}

theorem refl (b : Option Char) (s : List Char) : Edited (fun _ => False) b s s := by
  induction s generalizing b with
  | nil => exact .nil b
  | cons c s ih => exact .keep (fun _ => id) (ih (some c))

theorem keeps (run : List Char)
    (free : ∀ front rest, run = front ++ rest → startsLine (lastOr b front) = true →
      ¬Own (rest ++ s))
    (h : Edited Own (lastOr b run) s t) : Edited Own b (run ++ s) (run ++ t) := by
  induction run generalizing b with
  | nil => exact h
  | cons c run ih =>
    refine .keep (free [] (c :: run) rfl) (ih (fun front rest parts => ?_) h)
    rw [← lastOr_cons b c front]
    exact free (c :: front) rest (by rw [parts, List.cons_append])

theorem head? (h : Edited Own b s t) (hb : startsLine b = false) : t.head? = s.head? := by
  cases h with
  | nil _ => rfl
  | keep _ _ => rfl
  | cut start _ _ _ => simp [hb] at start
  | put start _ _ _ _ _ => simp [hb] at start

theorem ends (h : Edited Own b s t) (hs : firstLine s = []) : firstLine t = [] := by
  cases h with
  | nil _ => rfl
  | @keep _ c s t _ _ =>
    by_cases hc : c = '\n'
    · subst hc
      rfl
    · simp [firstLine_cons hc] at hs
  | cut _ opening _ _ => exact absurd hs opening.headed.firstLine_ne_nil
  | put _ opening _ _ _ => exact absurd hs opening.headed.firstLine_ne_nil

/-- Up to the next edit, which stands where a line opens a statement, the two texts agree. -/
theorem upToNext (h : Edited Own b s t) :
    ∃ pre s' t', s = pre ++ s' ∧ t = pre ++ t' ∧ EditedLine (firstLine t') ∧
      (s' = t' ∨ startsLine (lastOr b pre) = true ∧ Opening s') := by
  induction h with
  | nil b => exact ⟨[], [], [], rfl, rfl, .inl rfl, .inl rfl⟩
  | @keep b c s t _ _ ih =>
    obtain ⟨pre, s', t', rfl, rfl, edited, place⟩ := ih
    exact ⟨c :: pre, s', t', rfl, rfl, edited, place⟩
  | @cut b run s t start opening hs rest _ =>
    exact ⟨[], run ++ s, t, rfl, rfl, .inl (rest.ends hs), .inr ⟨start, opening⟩⟩
  | @put b old new s t start opening _ _ edited _ _ =>
    exact ⟨[], old ++ s, new ++ t, rfl, rfl, edited, .inr ⟨start, opening⟩⟩

/-- If the two texts differ before the second has an unedited line, a line feed comes first. -/
theorem upToLine (h : Edited Own b s t) (unedited : ¬EditedLine (firstLine t)) :
    s = t ∨ ∃ pre s' t', s = pre ++ s' ∧ t = pre ++ t' ∧ pre.getLast? = some '\n' ∧
      EditedLine (firstLine t') ∧ Opening s' := by
  obtain ⟨pre, s', t', rfl, rfl, edited, place⟩ := h.upToNext
  rcases place with rfl | ⟨start, opening⟩
  · exact .inl rfl
  · rcases pre.eq_nil_or_concat with rfl | ⟨front, c, rfl⟩
    · exact absurd edited unedited
    · rw [List.concat_eq_append] at start ⊢
      have hc : c = '\n' := by simpa [lastOr_append, startsLine] using start
      exact .inr ⟨front ++ [c], s', t', rfl, rfl, by simp [hc], edited, opening⟩

theorem firstLine_eq (h : Edited Own b s t) (unedited : ¬EditedLine (firstLine t)) :
    firstLine s = firstLine t := by
  rcases h.upToLine unedited with rfl | ⟨pre, s', t', rfl, rfl, breaks, -, -⟩
  · rfl
  · rw [firstLine_append_break breaks, firstLine_append_break breaks]

theorem back (hP : Form P) (h : Edited Own b s t) (ht : P t) : P s := by
  rcases h.upToLine fun edited => edited.not_opening (hP.opens ht) with
    rfl | ⟨pre, s', t', rfl, rfl, breaks, edited, -⟩
  · exact ht
  · exact hP.back breaks edited ht

theorem forth (hP : Form P) (h : Edited Own b s t) (unedited : ¬EditedLine (firstLine t))
    (hs : P s) : P t := by
  rcases h.upToLine unedited with rfl | ⟨pre, s', t', rfl, rfl, breaks, -, opening⟩
  · exact hs
  · exact hP.forth breaks opening hs

theorem line (h : Edited Own b s t) {b' : Option Char} {before after : List Char}
    (parts : t = before ++ after) (start : startsLine (lastOr b' before) = true)
    (unedited : ¬EditedLine (firstLine after)) (same : before = [] → b' = b) :
    ∃ front s', s = front ++ s' ∧ startsLine (lastOr b front) = true ∧
      Edited Own (lastOr b front) s' after := by
  induction h generalizing b' before with
  | nil b =>
    obtain ⟨rfl, rfl⟩ := List.append_eq_nil_iff.mp parts.symm
    exact absurd (.inl rfl) unedited
  | @keep b c s t free rest ih =>
    cases before with
    | nil =>
      obtain rfl := same rfl
      obtain rfl : c :: t = after := parts
      exact ⟨[], c :: s, rfl, start, .keep free rest⟩
    | cons d before =>
      simp only [List.cons_append, List.cons.injEq] at parts
      obtain ⟨rfl, parts⟩ := parts
      rw [lastOr_cons] at start
      obtain ⟨front, s', rfl, start', edited⟩ := ih parts start fun _ => rfl
      exact ⟨c :: front, s', rfl, start', edited⟩
  | @cut b run s t _ _ hs rest ih =>
    cases before with
    | nil =>
      obtain rfl : t = after := parts
      exact absurd (.inl (rest.ends hs)) unedited
    | cons d before =>
      obtain ⟨front, s', rfl, start', edited⟩ := ih parts start (by simp)
      rw [← lastOr_append] at start' edited
      exact ⟨run ++ front, s', (List.append_assoc _ _ _).symm, start', edited⟩
  | @put b old new s t _ _ nonempty unbroken edited rest ih =>
    rcases before.eq_nil_or_concat with rfl | ⟨front, c, rfl⟩
    · obtain rfl : new ++ t = after := parts
      exact absurd edited unedited
    rw [List.concat_eq_append] at parts start
    have hc : c = '\n' := by simpa [lastOr_append, startsLine] using start
    subst hc
    rcases List.append_eq_append_iff.mp parts with ⟨more, parts, rest'⟩ | ⟨inside, hnew, -⟩
    · have some : more ≠ [] := by
        rintro rfl
        rw [List.append_nil] at parts
        exact absurd (unbroken '\n' (parts ▸ by simp)) (by decide)
      have start' : startsLine (lastOr b' more) = true := by
        rcases more.eq_nil_or_concat with rfl | ⟨front', c, rfl⟩
        · exact absurd rfl some
        · rw [List.concat_eq_append, ← List.append_assoc] at parts
          obtain ⟨-, same⟩ := List.append_inj' parts rfl
          rw [List.concat_eq_append, ← same, lastOr_append]
          rfl
      obtain ⟨front, s', rfl, start', found⟩ := ih rest' start' fun none => absurd none some
      rw [← lastOr_append] at start' found
      exact ⟨old ++ front, s', (List.append_assoc _ _ _).symm, start', found⟩
    · exact absurd (unbroken '\n' (by simp [hnew])) (by decide)

theorem free (h : Edited Own none s t) (hP : Form P) (hs : Free P s) : Free P t := by
  rintro after ⟨before, parts, start⟩ ht
  have unedited : ¬EditedLine (firstLine after) := fun edited => edited.not_opening (hP.opens ht)
  obtain ⟨front, s', rfl, start', edited⟩ := h.line parts start unedited fun _ => rfl
  exact hs s' ⟨front, rfl, start'⟩ (edited.back hP ht)

theorem free_own (h : Edited Own none s t) (hO : Form Own) : Free Own t := by
  rintro after ⟨before, parts, start⟩ ht
  have unedited : ¬EditedLine (firstLine after) := fun edited => edited.not_opening (hO.opens ht)
  obtain ⟨front, s', -, start', edited⟩ := h.line parts start unedited fun _ => rfl
  have own := edited.back hO ht
  cases edited with
  | nil _ => exact unedited (.inl rfl)
  | keep free _ => exact free start' own
  | cut _ _ hs rest => exact unedited (.inl (rest.ends hs))
  | put _ _ _ _ edited _ => exact unedited edited

theorem tidy (h : Edited Own none s t) (hP : Form P) (hs : Tidy P s) : Tidy P t := by
  rintro after ⟨before, parts, start⟩ headed
  have unedited : ¬EditedLine (firstLine after) := fun edited => edited.not_headed headed
  obtain ⟨front, s', rfl, start', edited⟩ := h.line parts start unedited fun _ => rfl
  refine edited.forth hP unedited (hs s' ⟨front, rfl, start'⟩ (headed_firstLine.mp ?_))
  rw [edited.firstLine_eq unedited]
  exact headed_firstLine.mpr headed

theorem noReturn (h : Edited Own b s t) (hs : '\r' ∉ s) : '\r' ∉ t := by
  induction h with
  | nil b => exact hs
  | keep _ _ ih =>
    rw [List.mem_cons, not_or] at hs ⊢
    exact ⟨hs.1, ih hs.2⟩
  | cut _ _ _ _ ih =>
    rw [List.mem_append, not_or] at hs
    exact ih hs.2
  | put _ _ _ unbroken _ _ ih =>
    rw [List.mem_append, not_or] at hs ⊢
    exact ⟨fun member => absurd (unbroken _ member) (by decide), ih hs.2⟩

end Edited

end PagePreview.Text
