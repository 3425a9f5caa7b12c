import PagePreview.Proofs.Text.Edit
import PagePreview.Reference

/-!
# Module statements

The statements that the passes look for, as shapes of text: an import for its effect, an import with
a clause, a list of exports, an export of everything, and what marks a declaration or a default as
exported. Each shape fills the lines it stands on, and each is one that edits do not bring about.
-/

namespace PagePreview.Statement
open Text
open Reference (isQuote isModuleChar isClauseChar)

def Quoted (s name rest : List Char) : Prop :=
  ∃ q q', s = q :: (name ++ q' :: rest) ∧ isQuote q = true ∧ isQuote q' = true ∧
    ∀ c ∈ name, isModuleChar c = true

/-- What may follow a statement on its last line: spaces and tabs, and one semicolon. -/
def Closing (line : List Char) : Prop :=
  ∃ gap semicolon gap', line = gap ++ (semicolon ++ gap') ∧ InlineBlank gap ∧ InlineBlank gap' ∧
    (semicolon = [] ∨ semicolon = [';'])

def EffectLine (line : List Char) : Prop :=
  ∃ indent gap s name rest, line = indent ++ ("import".toList ++ (gap ++ s)) ∧
    InlineBlank indent ∧ Blank gap ∧ Quoted s name rest ∧ name ≠ [] ∧ Closing rest

def BoundHead (head : List Char) : Prop :=
  ∃ indent c clause d, head = indent ++ ("import".toList ++ (c :: (clause ++ d :: "from".toList))) ∧
    InlineBlank indent ∧ isBlank c = true ∧ isBlank d = true ∧ clause ≠ [] ∧
    ∀ e ∈ clause, isClauseChar e = true

def ModuleLine (line : List Char) : Prop :=
  ∃ gap s name rest, line = gap ++ s ∧ Blank gap ∧ Quoted s name rest ∧ name ≠ [] ∧ Closing rest

def ListHead (head : List Char) : Prop :=
  ∃ indent gap type inner,
    head = indent ++ ("export".toList ++ (gap ++ (type ++ '\x7b' :: (inner ++ ['\x7d'])))) ∧
    InlineBlank indent ∧ Blank gap ∧ gap ≠ [] ∧ '\x7d' ∉ inner ∧
    (type = [] ∨ ∃ gap', type = "type".toList ++ gap' ∧ Blank gap' ∧ gap' ≠ [])

def ListLine (line : List Char) : Prop :=
  Closing line ∨ ∃ gap gap' s name rest, line = gap ++ ("from".toList ++ (gap' ++ s)) ∧
    Blank gap ∧ Blank gap' ∧ Quoted s name rest ∧ Closing rest

def IsDeclaredName (name : List Char) : Prop :=
  ∃ c rest, name = c :: rest ∧ isPlainStart c = true ∧ ∀ d ∈ rest, isDeclaredRest d = true

def StarLine (line : List Char) : Prop :=
  ∃ indent gap gap' name gap'' s module rest,
    line = indent ++ ("export".toList ++ (gap ++ '*' :: (gap' ++ (name ++
      ("from".toList ++ (gap'' ++ s)))))) ∧
    InlineBlank indent ∧ Blank gap ∧ Blank gap' ∧ Blank gap'' ∧ Quoted s module rest ∧
    Closing rest ∧
    (name = [] ∨ ∃ g declared g', name = "as".toList ++ (g ++ (declared ++ g')) ∧ Blank g ∧
      g ≠ [] ∧ IsDeclaredName declared ∧ Blank g' ∧ g' ≠ [])

def DeclarationLine (line : List Char) : Prop :=
  ∃ indent gap w rest, line = indent ++ ("export".toList ++ (gap ++ (w.toList ++ rest))) ∧
    InlineBlank indent ∧ Blank gap ∧ gap ≠ [] ∧ w ∈ Entry.declarationWords ∧
    rest.head?.any isWord = false

def DefaultLine (line : List Char) : Prop :=
  ∃ indent gap c rest, line = indent ++ ("export".toList ++ (gap ++ ("default".toList ++ c :: rest))) ∧
    InlineBlank indent ∧ Blank gap ∧ gap ≠ [] ∧ isBlank c = true

/-- An import with a clause that ends its last line; no other statement begins inside it. -/
def Bound (s : List Char) : Prop :=
  ∃ head rest, s = head ++ rest ∧ BoundHead head ∧ Solid head rest ∧ ModuleLine (firstLine rest)

/-- A list of exports that ends its last line; no other statement begins inside it. -/
def ExportList (s : List Char) : Prop :=
  ∃ head rest, s = head ++ rest ∧ ListHead head ∧ Solid head rest ∧ ListLine (firstLine rest)

def Effect (s : List Char) : Prop := EffectLine (firstLine s)
def Star (s : List Char) : Prop := StarLine (firstLine s)
def Declaration (s : List Char) : Prop := DeclarationLine (firstLine s)
def Default (s : List Char) : Prop := DefaultLine (firstLine s)

def Imported (s : List Char) : Prop := Bound s ∨ Effect s
def Exported (s : List Char) : Prop := ExportList s ∨ Star s ∨ Declaration s ∨ Default s

theorem quoted_of_firstLine {s name rest : List Char} (h : Quoted (firstLine s) name rest) :
    ∃ t, Quoted s name t ∧ firstLine t = rest := by
  obtain ⟨q, q', line, hq, hq', hn⟩ := h
  have line : firstLine s = (q :: (name ++ [q'])) ++ rest := by simp [line]
  obtain ⟨t, rfl, ht⟩ := of_firstLine_append line
  exact ⟨t, ⟨q, q', by simp, hq, hq', hn⟩, ht⟩

theorem isWord_of_isQuote {c : Char} (h : isQuote c = true) : isWord c = false := by
  simp only [isQuote, Bool.or_eq_true, beq_iff_eq] at h
  rcases h with rfl | rfl <;> decide

theorem Quoted.head? {s name rest : List Char} (h : Quoted s name rest) :
    s.head?.any isWord = false := by
  obtain ⟨q, q', rfl, hq, -⟩ := h
  exact isWord_of_isQuote hq

theorem opening_import {indent rest : List Char} (hi : InlineBlank indent)
    (ends : rest.head?.any isWord = false) : Opening (indent ++ ("import".toList ++ rest)) :=
  ⟨indent, _, rfl, hi, "import", rest, .inl rfl, rfl, ends⟩

theorem opening_export {indent rest : List Char} (hi : InlineBlank indent)
    (ends : rest.head?.any isWord = false) : Opening (indent ++ ("export".toList ++ rest)) :=
  ⟨indent, _, rfl, hi, "export", rest, .inr rfl, rfl, ends⟩

theorem form_effect : Form Effect := by
  refine Form.ofLine (Q := EffectLine) fun {s} h => opening_firstLine.mp ?_
  obtain ⟨indent, gap, t, name, rest, line, hi, hg, quoted, -⟩ := h
  rw [line]
  exact opening_import hi (head?_of_gap hg quoted.head?)

theorem form_bound : Form Bound := by
  refine Form.ofSolid fun {head rest} h => ?_
  obtain ⟨indent, c, clause, d, rfl, hi, hc, -⟩ := h
  rw [List.append_assoc, List.append_assoc]
  exact opening_import hi (isWord_of_isBlank hc)

theorem form_exportList : Form ExportList := by
  refine Form.ofSolid fun {head rest} h => ?_
  obtain ⟨indent, gap, type, inner, rfl, hi, hg, some, -⟩ := h
  simp only [List.append_assoc]
  exact opening_export hi (head?_of_blanks some hg)

theorem form_star : Form Star := by
  refine Form.ofLine (Q := StarLine) fun {s} h => opening_firstLine.mp ?_
  obtain ⟨indent, gap, gap', name, gap'', t, module, rest, line, hi, hg, -⟩ := h
  rw [line]
  exact opening_export hi (head?_of_gap hg rfl)

theorem form_declaration : Form Declaration := by
  refine Form.ofLine (Q := DeclarationLine) fun {s} h => opening_firstLine.mp ?_
  obtain ⟨indent, gap, w, rest, line, hi, hg, some, -⟩ := h
  rw [line]
  exact opening_export hi (head?_of_blanks some hg)

theorem form_default : Form Default := by
  refine Form.ofLine (Q := DefaultLine) fun {s} h => opening_firstLine.mp ?_
  obtain ⟨indent, gap, c, rest, line, hi, hg, some, -⟩ := h
  rw [line]
  exact opening_export hi (head?_of_blanks some hg)

theorem form_imported : Form Imported := form_bound.or form_effect

theorem form_exported : Form Exported :=
  form_exportList.or (form_star.or (form_declaration.or form_default))

end PagePreview.Statement
