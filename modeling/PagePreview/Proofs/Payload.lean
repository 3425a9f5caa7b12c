import PagePreview.Machine.Expression
import PagePreview.Proofs.Script.Str
import PagePreview.Proofs.StyleIsland
import PagePreview.Proofs.Text.Split
import PagePreview.Script.Grammar.Core

/-!
# What the payload of an island stands for

A literal spells a text: each character as it is, or behind a backslash. Such a literal is read up to
its closing quote and cooked into the text. The escaped text is spelled between backticks too, so
cooking undoes escaping, and a script reads the template that carries it as the text.
-/

namespace PagePreview.StyleIsland
open Text Matcher

/-- The characters whose escape stands for themselves. -/
def marks : List Char := ['\\', '\x60', '\'', '"', '$']

inductive Spells (quote : Char) : List Char → List Char → Prop
  | nil : Spells quote [] []
  | plain {c : Char} {run css : List Char} :
    c ≠ '\\' → c ≠ quote → Spells quote run css → Spells quote (c :: run) (c :: css)
  | escaped {c : Char} {run css : List Char} :
    c ∈ marks → Spells quote run css → Spells quote ('\\' :: c :: run) (c :: css)

variable {quote : Char} {run css : List Char} {b : Option Char} {s : List Char}

theorem Spells.cook_eq (h : Spells quote run css) : cook run = css := by
  induction h with
  | nil => rfl
  | plain notSlash _ _ ih =>
    rw [cook, ih]
    exact fun _ _ same => absurd same notSlash
  | escaped mark _ ih =>
    simp only [marks, List.mem_cons, List.not_mem_nil, or_false] at mark
    rcases mark with rfl | rfl | rfl | rfl | rfl
    all_goals rw [cook, ih]; rfl

theorem Spells.getLast?_runs (notSlash : quote ≠ '\\') (h : Spells quote run css) :
    (literalRuns quote b (run ++ quote :: s)).getLast? = some ⟨lastOr b run, quote :: s⟩ := by
  induction h generalizing b with
  | nil =>
    rw [List.nil_append, literalRuns_cons notSlash]
    simp
  | @plain c run css slash other _ ih =>
    rw [List.cons_append, literalRuns_cons slash, if_neg (by simpa using other), List.getLast?_cons, ih]
    rfl
  | @escaped c run css mark _ ih =>
    rw [List.cons_append, List.cons_append, literalRuns, List.getLast?_cons, ih]
    rfl

theorem Spells.first?_literal (notSlash : quote ≠ '\\') (h : Spells quote run css) :
    (literal quote).first? ⟨b, quote :: (run ++ quote :: s)⟩ =
      some (⟨run ++ quote :: s, quote :: s⟩, ⟨some quote, s⟩) := by
  have payload : Matcher.first? (fun p => spans p (literalRuns quote p.behind p.ahead).reverse)
      ⟨some quote, run ++ quote :: s⟩ =
        some (⟨run ++ quote :: s, quote :: s⟩, ⟨lastOr (some quote) run, quote :: s⟩) := by
    unfold Matcher.first? spans
    rw [List.head?_map, List.head?_reverse, h.getLast?_runs notSlash]
    rfl
  have mark : (quote == quote) = true := beq_self_eq_true quote
  exact first?_then (first?_char mark) (first?_then payload (first?_then (first?_char mark) rfl))

def IsActive (c : Char) (s : List Char) : Prop :=
  c = '\\' ∨ c = '\x60' ∨ c = '$' ∧ s.head? = some '\x7b'

instance (c : Char) (s : List Char) : Decidable (IsActive c s) := by unfold IsActive; infer_instance

def slashed (c : Char) : List Char := if c = '\\' ∨ c = '\x60' then ['\\', c] else [c]

theorem escape_eq (css : List Char) :
    escape css = replaceAll ['$', '\x7b'] ['\\', '$', '\x7b'] (css.flatMap slashed) := by
  unfold escape
  dsimp only
  rw [replaceAll_char, replaceAll_char, List.flatMap_assoc]
  refine congrArg _ (congrArg (fun f => css.flatMap f) (funext fun c => ?_))
  by_cases slash : c = '\\'
  · subst slash; rfl
  · by_cases tick : c = '\x60'
    · subst tick; rfl
    · simp [slashed, slash, tick]

theorem head?_slashed (s : List Char) : (s.flatMap slashed).head? = some '\x7b' ↔ s.head? = some '\x7b' := by
  cases s with
  | nil => rfl
  | cons c s =>
    rw [List.flatMap_cons, slashed]
    split
    · rename_i active
      rcases active with rfl | rfl <;> simp
    · simp

theorem escape_cons (c : Char) (s : List Char) :
    escape (c :: s) = (if IsActive c s then ['\\', c] else [c]) ++ escape s := by
  have pass : ∀ {d : Char} {t : List Char}, d ≠ '$' →
      replaceAll ['$', '\x7b'] ['\\', '$', '\x7b'] (d :: t) =
        d :: replaceAll ['$', '\x7b'] ['\\', '$', '\x7b'] t := by
    intro d t other
    rw [replaceAll_pair, if_neg (fun both => other both.1)]
  rw [escape_eq, escape_eq, List.flatMap_cons]
  by_cases slash : c = '\\'
  · subst slash
    exact (pass (by decide)).trans (congrArg _ (pass (by decide)))
  by_cases tick : c = '\x60'
  · subst tick
    exact (pass (by decide)).trans (congrArg _ (pass (by decide)))
  have same : slashed c = [c] := by simp [slashed, slash, tick]
  rw [same, List.singleton_append]
  by_cases dollar : c = '$'
  · subst dollar
    rw [replaceAll_pair]
    by_cases brace : s.head? = some '\x7b'
    · obtain ⟨s, rfl⟩ : ∃ rest, s = '\x7b' :: rest := List.head?_eq_some_iff.mp brace
      have first : slashed '\x7b' = ['\x7b'] := by decide
      rw [if_pos ⟨rfl, (head?_slashed _).mpr brace⟩, if_pos (.inr (.inr ⟨rfl, brace⟩)), List.flatMap_cons, first,
        List.singleton_append, List.tail_cons, pass (by decide)]
      rfl
    · rw [if_neg (fun both => brace ((head?_slashed s).mp both.2)), if_neg (by simp [IsActive, brace])]
      rfl
  · rw [pass dollar, if_neg (by simp [IsActive, slash, tick, dollar])]
    rfl

theorem head?_escape (s : List Char) : (escape s).head? = some '\x7b' ↔ s.head? = some '\x7b' := by
  cases s with
  | nil => rfl
  | cons c s =>
    rw [escape_cons]
    split
    · rename_i active
      rcases active with rfl | rfl | ⟨rfl, -⟩ <;> simp
    · simp

theorem spells_escape (css : List Char) : Spells '\x60' (escape css) css := by
  induction css with
  | nil => exact .nil
  | cons c css ih =>
    rw [escape_cons]
    split
    · rename_i active
      refine .escaped ?_ ih
      rcases active with rfl | rfl | ⟨rfl, -⟩ <;> decide
    · rename_i passive
      exact .plain (fun slash => passive (.inl slash)) (fun tick => passive (.inr (.inl tick))) ih

/-- A text between plain quotes, with backslashes and the quote escaped. -/
def inQuotes (quote : Char) (css : List Char) : List Char :=
  css.flatMap fun c => if c = '\\' ∨ c = quote then ['\\', c] else [c]

theorem spells_inQuotes (mark : quote ∈ marks) (css : List Char) :
    Spells quote (inQuotes quote css) css := by
  induction css with
  | nil => exact .nil
  | cons c css ih =>
    rw [inQuotes, List.flatMap_cons]
    split
    · rename_i active
      refine .escaped ?_ ih
      rcases active with rfl | rfl
      · decide
      · exact mark
    · rename_i passive
      exact .plain (fun slash => passive (.inl slash)) (fun same => passive (.inr same)) ih

/-- No backtick and no `$` with a brace stands unescaped, and no backslash ends the text. -/
def isInert : List Char → Bool
  | [] => true
  | '\\' :: _ :: s => isInert s
  | c :: s => c != '\\' && c != '\x60' && !(c == '$' && s.head? == some '\x7b') && isInert s

theorem isInert_cons {c : Char} (h : c ≠ '\\') (s : List Char) :
    isInert (c :: s) = (c != '\x60' && !(c == '$' && s.head? == some '\x7b') && isInert s) := by
  rw [isInert]
  · simp only [bne_iff_ne.mpr h, Bool.true_and]
  · exact fun _ _ same => absurd same h

theorem isInert_escape (css : List Char) : isInert (escape css) = true := by
  induction css with
  | nil => rfl
  | cons c css ih =>
    rw [escape_cons]
    split
    · exact ih
    · rename_i passive
      have slash : c ≠ '\\' := fun same => passive (.inl same)
      have tick : c ≠ '\x60' := fun same => passive (.inr (.inl same))
      have opens : ¬(c = '$' ∧ css.head? = some '\x7b') := fun both => passive (.inr (.inr both))
      rw [← head?_escape] at opens
      rw [List.singleton_append, isInert_cons slash, ih]
      simpa [tick, ← not_and_or] using opens

open Script Lexer

theorem escape_mark {c : Char} (h : c ∈ marks) (rest : List Char) :
    Lexer.escape (c :: rest) = .units (Str.unitsOfChar c) rest := by
  simp only [marks, List.mem_cons, List.not_mem_nil, or_false] at h
  rcases h with rfl | rfl | rfl | rfl | rfl <;> rfl

section
variable {fuel : Nat} {rest : List Char} {units : Array UInt16} {escaped octal invalid closed : Bool}

theorem templateChars_plain {c : Char} (slash : c ≠ '\\') (tick : c ≠ '\x60') (notReturn : c ≠ '\r')
    (opens : ¬(c = '$' ∧ rest.head? = some '\x7b')) :
    templateChars (fuel + 1) ⟨c :: rest, units, escaped, octal, invalid, closed⟩ =
      templateChars fuel
        ⟨rest, units ++ (Str.unitsOfChar c).toArray, escaped, octal, invalid, closed⟩ := by
  rw [templateChars]
  split
  · rename_i empty
    cases empty
  · rename_i same
    exact absurd (List.cons.inj same).1 tick
  · rename_i same
    obtain ⟨rfl, rfl⟩ := List.cons.inj same
    exact absurd ⟨rfl, rfl⟩ opens
  · rename_i same
    exact absurd (List.cons.inj same).1 slash
  · rename_i same
    exact absurd (List.cons.inj same).1 notReturn
  · rename_i same
    exact absurd (List.cons.inj same).1 notReturn
  · rename_i same
    obtain ⟨rfl, rfl⟩ := List.cons.inj same
    rfl

theorem templateChars_escape {c : Char} (mark : c ∈ marks) :
    templateChars (fuel + 1) ⟨'\\' :: c :: rest, units, escaped, octal, invalid, closed⟩ =
      templateChars fuel
        ⟨rest, units ++ (Str.unitsOfChar c).toArray, escaped, octal, invalid, closed⟩ := by
  simp only [templateChars, escape_mark mark]

/-- An inert text that spells another is read up to the closing backtick, as that other. -/
theorem Spells.templateChars_eq (h : Spells '\x60' run css) (inert : isInert run = true)
    (noReturn : '\r' ∉ css) (size : run.length < fuel) :
    templateChars fuel ⟨run ++ '\x60' :: rest, units, escaped, octal, invalid, closed⟩ =
      (⟨rest, units ++ (css.flatMap Str.unitsOfChar).toArray, escaped, octal, invalid, true⟩, true) := by
  induction h generalizing fuel units with
  | nil =>
    obtain ⟨fuel, rfl⟩ := Nat.exists_eq_add_of_lt size
    simp [Lexer.templateChars]
  | @plain c run css slash tick _ ih =>
    obtain ⟨fuel, rfl⟩ := Nat.exists_eq_add_of_lt size
    rw [isInert_cons slash] at inert
    simp only [Bool.and_eq_true, bne_iff_ne, Bool.not_eq_true', Bool.and_eq_false_iff] at inert
    obtain ⟨⟨-, opens⟩, inert⟩ := inert
    have opens : ¬(c = '$' ∧ (run ++ '\x60' :: rest).head? = some '\x7b') := by
      rintro ⟨rfl, brace⟩
      cases run with
      | nil => simp at brace
      | cons d run => simp_all
    have later : '\r' ∉ css := fun member => noReturn (List.mem_cons_of_mem _ member)
    have here : c ≠ '\r' := fun same => noReturn (same ▸ List.mem_cons_self)
    rw [List.length_cons] at size ⊢
    have room : run.length + 1 + fuel + 1 = (run.length + fuel + 1) + 1 := by omega
    rw [List.cons_append, room, templateChars_plain slash tick here opens, ih inert later (by omega)]
    simp
  | @escaped c run css mark _ ih =>
    obtain ⟨fuel, rfl⟩ := Nat.exists_eq_add_of_lt size
    have later : '\r' ∉ css := fun member => noReturn (List.mem_cons_of_mem _ member)
    rw [isInert] at inert
    rw [List.length_cons, List.length_cons, List.cons_append, List.cons_append,
      templateChars_escape mark, ih inert later (by omega)]
    simp

end

theorem Spells.firstToken_eq (h : Spells '\x60' run css) (inert : isInert run = true)
    (noReturn : '\r' ∉ css) {fuel : Nat} (size : run.length < fuel) (rest : List Char) (pos : Nat) :
    let t := firstToken fuel ('\x60' :: (run ++ '\x60' :: rest)) pos
    t.kind = .template ∧ t.isTail = true ∧ t.faults = [] ∧ t.rest = rest ∧
      t.str = some (.plain (String.ofList css)) := by
  intro t
  obtain ⟨fuel, rfl⟩ := Nat.exists_eq_add_of_lt size
  have made : t = templatePiece (run.length + fuel + 1)
      { kind := .eof, start := pos, ahead := '\x60' :: (run ++ '\x60' :: rest), afterBreak := true } := rfl
  have read : templateChars (run.length + fuel + 1) { rest := run ++ '\x60' :: rest } =
      ({ rest, units := #[] ++ (css.flatMap Str.unitsOfChar).toArray, closed := true }, true) :=
    h.templateChars_eq inert noReturn (by omega)
  have value : Str.ofUnits (#[] ++ (css.flatMap Str.unitsOfChar).toArray) = .plain (String.ofList css) := by
    rw [Array.empty_append, Str.ofUnits, Str.decode?_units]
  rw [made]
  simp only [templatePiece, List.drop_succ_cons, List.drop_zero, read, value]
  exact ⟨rfl, rfl, rfl, rfl, rfl⟩

theorem expression_template (c : Machine.Context) {t : Token} {value : String}
    (h : t.str = some (.plain value)) :
    Machine.expression c (.template [Grammar.quasi t] []) = pure (.string (.plain value)) := by
  have joined : Str.append .empty (.plain value) = .plain value := by
    rw [Str.empty, Str.append, String.empty_append]
  simp only [Machine.expression, Machine.templateText, Grammar.quasi, h, Option.getD_some, pure_bind]
  exact congrArg (fun x => pure (Machine.Value.string x)) joined

end PagePreview.StyleIsland
