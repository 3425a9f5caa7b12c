import PagePreview.Proofs.Passes
import PagePreview.Proofs.Text.Trim

/-!
# Scanning whole statements

A source is made of code and of import statements that fill their lines. Two passes read it: the
first cuts the statements that bind names, the second those for effect. At each part there is only
one thing that a pass can do. It steps over a text none of whose lines it can read, and where a
statement of its own stands, every way to match ends at the end of that statement.
-/

namespace PagePreview
open Text Matcher Statement
open Reference (isQuote isModuleChar isClauseChar)

def ImportLed (s : List Char) : Prop :=
  ∃ indent rest, s = indent ++ ("import".toList ++ rest) ∧ InlineBlank indent ∧
    rest.head?.any isWord = false

structure Chunk where
  text : List Char
  ends : text.getLast? = some '\n'
  free : Free ImportLed text

theorem isKeyed_of_word {indent rest : List Char} {w : String} (hi : InlineBlank indent)
    (hw : w = "import" ∨ w = "export") : isKeyed (indent ++ (w.toList ++ rest)) = true := by
  have first : (w.toList ++ rest).dropWhile (fun c => isBlank c && !isBreak c) = w.toList ++ rest := by
    rcases hw with rfl | rfl <;> rfl
  have indented : dropIndent (indent ++ (w.toList ++ rest)) = w.toList ++ rest := by
    refine (List.dropWhile_append_of_pos fun c hc => ?_).trans first
    rw [Bool.and_eq_true]
    exact ⟨hi.blank c hc, by simp [hi.unbroken c hc]⟩
  rw [Text.isKeyed, indented, Bool.or_eq_true, startsWith_iff, startsWith_iff]
  rcases hw with rfl | rfl
  · exact .inl ⟨rest, rfl⟩
  · exact .inr ⟨rest, rfl⟩

theorem ImportLed.isKeyed {s : List Char} (h : ImportLed s) : isKeyed s = true := by
  obtain ⟨indent, rest, rfl, hi, -⟩ := h
  exact isKeyed_of_word hi (.inl rfl)

theorem all_isBreak_of_startsLine {b : Option Char} (start : startsLine b = true) :
    b.all isBreak = true := by
  cases b with
  | none => rfl
  | some c =>
    have feed : c = '\n' := by simpa [startsLine] using start
    simp [feed, isBreak]

def Chunk.ofQuiet (text : List Char) (ends : text.getLast? = some '\n')
    (quiet : isQuiet true text = true) : Chunk where
  text := text
  ends := ends
  free := by
    rintro after ⟨before, rfl, start⟩ led
    have nonempty : after ≠ [] := by
      rintro rfl
      obtain ⟨indent, rest, parts, -⟩ := led
      simp at parts
    have unkeyed := isKeyed_of_isQuiet quiet (all_isBreak_of_startsLine start) (fun _ => rfl) nonempty
    simp [led.isKeyed] at unkeyed

structure Clause where
  text : List Char
  nonempty : text ≠ []
  plain : ∀ c ∈ text, isClauseChar c = true

structure ModuleName where
  text : List Char
  nonempty : text ≠ []
  trimmed : trim text = text
  plain : ∀ c ∈ text, isModuleChar c = true
  unbroken : '\n' ∉ text

/-- A part of a source: code, or a statement and the end of its line. -/
inductive Part
  | code (chunk : Chunk)
  | bound (clause : Clause) (module : ModuleName)
  | effect (module : ModuleName)

namespace Part

def statement : Part → List Char
  | .code _ => []
  | .bound clause module =>
    "import ".toList ++ (clause.text ++ (" from '".toList ++ (module.text ++ "';".toList)))
  | .effect module => "import '".toList ++ (module.text ++ "';".toList)

/-- What is left of a part without its statement. -/
def residue : Part → List Char
  | .code chunk => chunk.text
  | .bound .. | .effect _ => ['\n']

def text (part : Part) : List Char := part.statement ++ part.residue

def isBound : Part → Bool
  | .bound .. => true
  | _ => false

def isEffect : Part → Bool
  | .effect _ => true
  | _ => false

theorem statement_bound (clause : Clause) (module : ModuleName) :
    (bound clause module).statement =
      "import ".toList ++ (clause.text ++ (" from '".toList ++ (module.text ++ "';".toList))) := rfl

theorem statement_effect (module : ModuleName) :
    (effect module).statement = "import '".toList ++ (module.text ++ "';".toList) := rfl

def source (parts : List Part) : List Char := parts.flatMap text

/-- The statements that bind names, in text order. -/
def boundStatements (parts : List Part) : List (List Char) :=
  (parts.filter isBound).map statement

def effectStatements (parts : List Part) : List (List Char) :=
  (parts.filter isEffect).map statement

def afterBound (part : Part) : List Char := if part.isBound then part.residue else part.text

end Part

variable {α : Type} {m : Matcher α} {b : Option Char} {s : List Char}

theorem onLines_reads {p q : Place} {a : α} (h : (a, q) ∈ Reference.onLines m p) :
    ∃ indent t r gap semicolon gap', startsLine p.behind = true ∧ p.ahead = indent ++ t ∧
      InlineBlank indent ∧ (a, r) ∈ m ⟨lastOr p.behind indent, t⟩ ∧
      r.ahead = gap ++ (semicolon ++ (gap' ++ q.ahead)) ∧
      q.behind = lastOr r.behind (gap ++ (semicolon ++ gap')) ∧ InlineBlank gap ∧
      InlineBlank gap' ∧ (semicolon = [] ∨ semicolon = [';']) ∧ firstLine q.ahead = [] := by
  have ends : firstLine q.ahead = [] := onLines_endsLine p a q h
  obtain ⟨_, p₁, h₁, tail₁⟩ := mem_bind.mp h
  obtain ⟨start, rfl⟩ := mem_here.mp h₁
  obtain ⟨_, p₂, h₂, tail₂⟩ := mem_bind.mp tail₁
  obtain ⟨indent, t, parts, hi, rfl, -⟩ := mem_least.mp (mem_most.mp h₂)
  obtain ⟨a', r, hr, tail₃⟩ := mem_bind.mp tail₂
  obtain ⟨_, p₃, h₃, tail₄⟩ := mem_bind.mp tail₃
  obtain ⟨gap, t₃, parts₃, hg, rfl, -⟩ := mem_least.mp (mem_most.mp h₃)
  obtain ⟨_, p₄, h₄, tail₅⟩ := mem_bind.mp tail₄
  obtain ⟨_, p₅, h₅, tail₆⟩ := mem_bind.mp tail₅
  obtain ⟨gap', t₅, parts₅, hg', rfl, -⟩ := mem_least.mp (mem_most.mp h₅)
  obtain ⟨_, p₆, h₆, tail₇⟩ := mem_bind.mp tail₆
  obtain ⟨-, rfl⟩ := mem_here.mp h₆
  obtain ⟨rfl, rfl⟩ := mem_pure.mp tail₇
  rcases mem_opt.mp h₄ with ⟨c, hc, -⟩ | ⟨-, rfl⟩
  · obtain ⟨same, t₄, parts₄, rfl⟩ := mem_char.mp hc
    obtain rfl : c = ';' := by simpa using same
    refine ⟨indent, t, r, gap, [';'], gap', start, parts, hi, hr, ?_, ?_, hg, hg', .inr rfl, ends⟩
    · rw [parts₃]
      exact congrArg (gap ++ ·) (parts₄.trans (congrArg (';' :: ·) parts₅))
    · simp only [lastOr_append, lastOr_cons, lastOr_nil]
  · refine ⟨indent, t, r, gap, [], gap', start, parts, hi, hr, ?_, ?_, hg, hg', .inl rfl, ends⟩
    · rw [parts₃]
      exact congrArg (gap ++ ·) parts₅
    · simp only [lastOr_append, List.nil_append]

/-- Behind a module name, a semicolon and the end of the line leave one way to go on. -/
theorem closing_eq {gap semicolon gap' rest : List Char} (hg : InlineBlank gap)
    (hg' : InlineBlank gap') (hs : semicolon = [] ∨ semicolon = [';'])
    (ends : firstLine rest = [])
    (same : gap ++ (semicolon ++ (gap' ++ rest)) = ';' :: '\n' :: s) :
    gap ++ (semicolon ++ gap') = [';'] ∧ rest = '\n' :: s := by
  obtain rfl : gap = [] := run_eq_nil hg (by decide) same
  rcases hs with rfl | rfl
  · obtain rfl : gap' = [] := run_eq_nil hg' (by decide) same
    obtain rfl : rest = ';' :: '\n' :: s := same
    rw [firstLine_cons (by decide)] at ends
    cases ends
  · have after : gap' ++ rest = '\n' :: s := (List.cons.inj same).2
    obtain rfl : gap' = [] := run_eq_nil hg' (by decide) after
    exact ⟨rfl, after⟩

def Quoteless (s : List Char) : Prop := ∀ c ∈ s, (!isQuote c) = true

theorem quoteless_append {s t : List Char} (hs : Quoteless s) (ht : Quoteless t) :
    Quoteless (s ++ t) :=
  fun c hc => (List.mem_append.mp hc).elim (hs c) (ht c)

theorem isQuote_apostrophe : isQuote '\'' = true := rfl

theorem not_isBlank_of_isQuote {c : Char} (h : isQuote c = true) : isBlank c = false := by
  simp only [isQuote, Bool.or_eq_true, beq_iff_eq] at h
  rcases h with rfl | rfl <;> decide

theorem quoteless_of_blank {s : List Char} (h : Blank s) : Quoteless s := by
  intro c hc
  cases hq : isQuote c with
  | false => rfl
  | true =>
    have blank : isBlank c = true := h c hc
    rw [not_isBlank_of_isQuote hq] at blank
    cases blank

theorem quoteless_of_clause {s : List Char} (h : ∀ c ∈ s, isClauseChar c = true) :
    Quoteless s := by
  intro c hc
  have clauseChar : isClauseChar c = true := h c hc
  rw [isClauseChar, Bool.and_eq_true] at clauseChar
  exact clauseChar.2

theorem quotedModule_reads {name head lead : List Char} {x : Span} {p q : Place}
    (h : (x, q) ∈ Reference.quotedModule p) (plain : ∀ c ∈ name, isModuleChar c = true)
    (hh : Quoteless head) (hl : Quoteless lead)
    (same : head ++ p.ahead = lead ++ '\'' :: (name ++ '\'' :: s)) :
    x.text = name ∧ q = ⟨some '\'', s⟩ := by
  obtain ⟨c, p₁, h₁, tail₁⟩ := mem_bind.mp h
  obtain ⟨hc, t, parts, rfl⟩ := mem_char.mp h₁
  rw [parts] at same
  obtain ⟨-, rfl, rfl⟩ := run_eq_of_append hh hl (by simp [hc]) (by decide) same
  obtain ⟨x', p₂, h₂, tail₂⟩ := mem_bind.mp tail₁
  obtain ⟨run, t₂, parts₂, -, plain', rfl, rfl⟩ := mem_least1.mp (mem_most1.mp h₂)
  obtain ⟨d, p₃, h₃, tail₃⟩ := mem_bind.mp tail₂
  obtain ⟨hd, t₃, parts₃, rfl⟩ := mem_char.mp h₃
  obtain ⟨rfl, rfl⟩ := mem_pure.mp tail₃
  dsimp only at parts₂ parts₃
  subst parts₃
  have close : isModuleChar d = false := by simp [isModuleChar, hd]
  obtain ⟨rfl, rfl, rfl⟩ := run_eq_of_append plain plain' (by decide) close parts₂
  exact ⟨Span.text_append _ _, rfl⟩

theorem effectImport_reads {name : List Char} {x : Span} {q : Place}
    (plain : ∀ c ∈ name, isModuleChar c = true)
    (h : (x, q) ∈ Reference.effectImport ⟨b, "import '".toList ++ (name ++ '\'' :: s)⟩) :
    x.text = name ∧ q = ⟨some '\'', s⟩ := by
  obtain ⟨_, p₁, h₁, tail₁⟩ := mem_bind.mp h
  obtain ⟨t, parts, rfl⟩ := mem_text.mp h₁
  obtain ⟨_, p₂, h₂, tail₂⟩ := mem_bind.mp tail₁
  obtain ⟨gap, t₂, rfl, hg, rfl, -⟩ := mem_least.mp (mem_most.mp h₂)
  have word : Quoteless "import".toList := by simp [Quoteless, isQuote]
  have lead : Quoteless "import ".toList := by simp [Quoteless, isQuote]
  have same : ("import".toList ++ gap) ++ t₂ = "import ".toList ++ '\'' :: (name ++ '\'' :: s) := by
    simpa using parts.symm
  exact quotedModule_reads tail₂ plain (quoteless_append word (quoteless_of_blank hg)) lead same

/-- The blanks behind the last word of a text are determined, and so is what stands before it. -/
theorem last_word_eq {front front' gap gap' : List Char} {c : Char} (hc : isBlank c = false)
    (hg : Blank gap) (hg' : Blank gap') (same : front ++ c :: gap = front' ++ c :: gap') :
    front = front' ∧ gap = gap' := by
  have backwards : gap.reverse ++ c :: front.reverse = gap'.reverse ++ c :: front'.reverse := by
    simpa using congrArg List.reverse same
  have blank : ∀ {run : List Char}, Blank run → ∀ d ∈ run.reverse, isBlank d = true :=
    fun h d hd => h d (List.mem_reverse.mp hd)
  obtain ⟨gaps, -, fronts⟩ := run_eq_of_append (blank hg) (blank hg') hc hc backwards
  exact ⟨List.reverse_injective fronts, List.reverse_injective gaps⟩

/-- `import`, a clause, `from` and a quoted module name, and the blanks between them. -/
structure BoundParts where
  gap : List Char
  clause : List Char
  gap' : List Char
  gap'' : List Char
  quote : Char
  name : List Char
  quote' : Char
  gap_blank : Blank gap
  gap_nonempty : gap ≠ []
  clause_nonempty : clause ≠ []
  clause_plain : ∀ c ∈ clause, isClauseChar c = true
  gap'_blank : Blank gap'
  gap'_nonempty : gap' ≠ []
  gap''_blank : Blank gap''
  quotes : isQuote quote = true
  name_nonempty : name ≠ []
  name_plain : ∀ c ∈ name, isModuleChar c = true
  quotes' : isQuote quote' = true

namespace BoundParts

def head (p : BoundParts) : List Char :=
  "import".toList ++ (p.gap ++ (p.clause ++ (p.gap' ++ ("from".toList ++ p.gap''))))

def text (p : BoundParts) : List Char := p.head ++ p.quote :: (p.name ++ [p.quote'])

theorem head_eq (p : BoundParts) : p.head = "import".toList ++
    (p.gap ++ (p.clause ++ (p.gap' ++ ("from".toList ++ p.gap'')))) := by
  delta head
  rfl

theorem quoteless_head (p : BoundParts) : Quoteless p.head :=
  quoteless_append (by simp [Quoteless, isQuote]) (quoteless_append (quoteless_of_blank p.gap_blank)
    (quoteless_append (quoteless_of_clause p.clause_plain)
      (quoteless_append (quoteless_of_blank p.gap'_blank)
        (quoteless_append (by simp [Quoteless, isQuote]) (quoteless_of_blank p.gap''_blank)))))

theorem text_append (p : BoundParts) (s : List Char) :
    p.text ++ s = "import".toList ++ (p.gap ++ (p.clause ++ (p.gap' ++ ("from".toList ++ (p.gap'' ++
      (p.quote :: (p.name ++ p.quote' :: s))))))) := by
  simp [text, head_eq]

theorem reaches (p : BoundParts) :
    Reference.boundImport.Reaches ⟨b, p.text ++ s⟩ ⟨some p.quote', s⟩ := by
  rw [p.text_append]
  exact (reaches_text "import").bind fun _ => (reaches_most1 p.gap_nonempty p.gap_blank).bind fun _ =>
    (reaches_least1 p.clause_nonempty p.clause_plain).bind fun _ =>
      (reaches_most1 p.gap'_nonempty p.gap'_blank).bind fun _ => (reaches_text "from").bind fun _ =>
        (reaches_most p.gap''_blank).bind fun _ =>
          ((reaches_char p.quotes).bind fun _ => (reaches_most1 p.name_nonempty p.name_plain).bind fun x =>
            (reaches_char p.quotes').bind fun _ => reaches_pure x).bind fun x => reaches_pure (_, x)

/-- Where two such statements begin a text, they differ only in which blanks count as the clause's. -/
theorem unique {p p' : BoundParts} {t : List Char} (same : p.text ++ s = p'.text ++ t) :
    p.gap ++ (p.clause ++ p.gap') = p'.gap ++ (p'.clause ++ p'.gap') ∧ p.gap'' = p'.gap'' ∧
      p.name = p'.name ∧ p.quote' = p'.quote' ∧ s = t := by
  have quoted : p.head ++ p.quote :: (p.name ++ p.quote' :: s) =
      p'.head ++ p'.quote :: (p'.name ++ p'.quote' :: t) := by
    simpa [text] using same
  obtain ⟨heads, -, names⟩ := run_eq_of_append p.quoteless_head p'.quoteless_head
    (by simp [p.quotes]) (by simp [p'.quotes]) quoted
  obtain ⟨name, close, rest⟩ := run_eq_of_append p.name_plain p'.name_plain
    (by simp [isModuleChar, p.quotes']) (by simp [isModuleChar, p'.quotes']) names
  have words : (p.gap ++ (p.clause ++ p.gap') ++ "fro".toList) ++ 'm' :: p.gap'' =
      (p'.gap ++ (p'.clause ++ p'.gap') ++ "fro".toList) ++ 'm' :: p'.gap'' := by
    refine (List.append_right_inj "import".toList).mp ?_
    simpa [head_eq] using heads
  obtain ⟨middle, blanks⟩ := last_word_eq (by decide) p.gap''_blank p'.gap''_blank words
  exact ⟨List.append_cancel_right middle, blanks, name, close, rest⟩

theorem trim_clause_eq {p p' : BoundParts} {t : List Char} (same : p.text ++ s = p'.text ++ t) :
    trim p.clause = trim p'.clause := by
  rw [← trim_around p.gap_blank p.gap'_blank, (unique same).1, trim_around p'.gap_blank p'.gap'_blank]

def ofClause {clause name : List Char} (clause_nonempty : clause ≠ [])
    (clause_plain : ∀ c ∈ clause, isClauseChar c = true) (name_nonempty : name ≠ [])
    (name_plain : ∀ c ∈ name, isModuleChar c = true) : BoundParts where
  gap := [' ']
  clause := clause
  gap' := [' ']
  gap'' := [' ']
  quote := '\''
  name := name
  quote' := '\''
  gap_blank := blank_space
  gap_nonempty := List.cons_ne_nil _ _
  clause_nonempty := clause_nonempty
  clause_plain := clause_plain
  gap'_blank := blank_space
  gap'_nonempty := List.cons_ne_nil _ _
  gap''_blank := blank_space
  quotes := isQuote_apostrophe
  name_nonempty := name_nonempty
  name_plain := name_plain
  quotes' := isQuote_apostrophe

theorem ofClause_text {clause name : List Char} (clause_nonempty : clause ≠ [])
    (clause_plain : ∀ c ∈ clause, isClauseChar c = true) (name_nonempty : name ≠ [])
    (name_plain : ∀ c ∈ name, isModuleChar c = true) :
    (ofClause clause_nonempty clause_plain name_nonempty name_plain).text ++ s =
      "import ".toList ++ (clause ++ (" from '".toList ++ (name ++ '\'' :: s))) :=
  text_append _ _

end BoundParts

theorem boundImport_reads {x : Span × Span} {p q : Place} (h : (x, q) ∈ Reference.boundImport p) :
    ∃ parts : BoundParts, p.ahead = parts.text ++ q.ahead ∧ q.behind = some parts.quote' ∧
      x.1.text = parts.clause ∧ x.2.text = parts.name := by
  obtain ⟨_, p₁, h₁, tail₁⟩ := mem_bind.mp h
  obtain ⟨t, parts, rfl⟩ := mem_text.mp h₁
  obtain ⟨_, p₂, h₂, tail₂⟩ := mem_bind.mp tail₁
  obtain ⟨gap, t₂, rfl, gap_some, gap_blank, rfl, -⟩ := mem_least1.mp (mem_most1.mp h₂)
  obtain ⟨_, p₃, h₃, tail₃⟩ := mem_bind.mp tail₂
  obtain ⟨clause, t₃, parts₃, clause_some, plain, rfl, rfl⟩ := mem_least1.mp h₃
  obtain ⟨_, p₄, h₄, tail₄⟩ := mem_bind.mp tail₃
  obtain ⟨gap', t₄, parts₄, gap'_some, gap'_blank, rfl, -⟩ := mem_least1.mp (mem_most1.mp h₄)
  obtain ⟨_, p₅, h₅, tail₅⟩ := mem_bind.mp tail₄
  obtain ⟨t₅, parts₅, rfl⟩ := mem_text.mp h₅
  obtain ⟨_, p₆, h₆, tail₆⟩ := mem_bind.mp tail₅
  obtain ⟨gap'', t₆, parts₆, gap''_blank, rfl, -⟩ := mem_least.mp (mem_most.mp h₆)
  obtain ⟨_, p₇, h₇, tail₇⟩ := mem_bind.mp tail₆
  obtain ⟨rfl, rfl⟩ := mem_pure.mp tail₇
  obtain ⟨quote, p₈, h₈, tail₈⟩ := mem_bind.mp h₇
  obtain ⟨quotes, t₈, parts₈, rfl⟩ := mem_char.mp h₈
  obtain ⟨_, p₉, h₉, tail₉⟩ := mem_bind.mp tail₈
  obtain ⟨name, t₉, parts₉, name_some, name_plain, rfl, rfl⟩ := mem_least1.mp (mem_most1.mp h₉)
  obtain ⟨quote', p₁₀, h₁₀, tail₁₀⟩ := mem_bind.mp tail₉
  obtain ⟨quotes', t₁₀, parts₁₀, rfl⟩ := mem_char.mp h₁₀
  obtain ⟨rfl, rfl⟩ := mem_pure.mp tail₁₀
  dsimp only at parts₃ parts₄ parts₅ parts₆ parts₈ parts₉ parts₁₀
  subst parts₃ parts₄ parts₅ parts₆ parts₈ parts₉ parts₁₀
  refine ⟨⟨gap, clause, gap', gap'', quote, name, quote', gap_blank, gap_some, clause_some, plain,
    gap'_blank, gap'_some, gap''_blank, quotes, name_some, name_plain, quotes'⟩, ?_, rfl,
    Span.text_append _ _, Span.text_append _ _⟩
  rw [BoundParts.text_append]
  exact parts

theorem quiet_chunk (begins : BeginsWith "import" m) (chunk : Chunk) {before after : List Char}
    (parts : chunk.text = before ++ after) (nonempty : after ≠ []) :
    (Reference.onLines m).first? ⟨lastOr b before, after ++ s⟩ = none := by
  refine first?_eq_none fun a q way => ?_
  obtain ⟨indent, t, r, -, -, -, fresh, ahead, hi, hr, -⟩ := onLines_reads way
  obtain ⟨run, ht, ends⟩ := begins _ a r hr
  dsimp only at fresh ahead ht
  have opens : startsLine (lastOr none before) = true := by
    cases before with
    | nil => rfl
    | cons c before => exact fresh
  refine chunk.free after ⟨before, parts, opens⟩ ?_
  -- the line feed at the end of the code stands behind the word
  have feed : after.getLast? = some '\n' := by
    have last := chunk.ends
    rwa [parts, List.getLast?_append_of_ne_nil _ nonempty] at last
  rw [ht, ← List.append_assoc] at ahead
  rcases List.append_eq_append_iff.mp ahead with ⟨inside, word, -⟩ | ⟨rest, rfl, hrest⟩
  · have member : '\n' ∈ indent ++ "import".toList := by
      rw [word]
      exact List.mem_append_left _ (List.mem_of_getLast? feed)
    rcases List.mem_append.mp member with blank | letter
    · exact absurd blank hi.noBreak
    · exact absurd letter (by decide)
  · refine ⟨indent, rest, List.append_assoc _ _ _, hi, ?_⟩
    cases rest with
    | nil => rfl
    | cons c rest => simpa [hrest] using ends

theorem closing_semicolon : Closing (firstLine (';' :: '\n' :: s)) :=
  ⟨[], [';'], [], rfl, by simp [InlineBlank], by simp [InlineBlank], .inr rfl⟩

theorem first?_onLines {t rest : List Char} {b' : Option Char} (start : startsLine b = true)
    (word : t = 'i' :: rest) (reaches : m.Reaches ⟨b, t⟩ ⟨b', ';' :: '\n' :: s⟩)
    (ends : ∀ a q, (a, q) ∈ m ⟨b, t⟩ → q.ahead = ';' :: '\n' :: s) :
    ∃ a r, (a, r) ∈ m ⟨b, t⟩ ∧
      (Reference.onLines m).first? ⟨b, t⟩ = some (a, ⟨some ';', '\n' :: s⟩) := by
  have here : ∀ a q, (a, q) ∈ Reference.onLines m ⟨b, t⟩ →
      ∃ r, (a, r) ∈ m ⟨b, t⟩ ∧ q = ⟨some ';', '\n' :: s⟩ := by
    rintro a ⟨c, u⟩ way
    obtain ⟨indent, t', r, gap, semicolon, gap', -, ahead, hi, hr, after, behind, hg, hg', hs, line⟩ :=
      onLines_reads way
    dsimp only at ahead behind hr after line
    have unindented : indent = [] := run_eq_nil hi (by decide) (ahead.symm.trans word)
    subst unindented
    obtain rfl : t = t' := ahead
    rw [ends a r hr] at after
    obtain ⟨closing, rfl⟩ := closing_eq hg hg' hs line after.symm
    rw [closing] at behind
    exact ⟨r, hr, by rw [behind]; rfl⟩
  have unindented : InlineBlank [] := by simp [InlineBlank]
  have way := reaches_onLines start unindented reaches closing_semicolon
  obtain ⟨a, found⟩ := first?_of_ends way fun a q hq => (here a q hq).choose_spec.2
  obtain ⟨r, hr, -⟩ := here a _ (mem_of_first? found)
  exact ⟨a, r, hr, found⟩

theorem reaches_module {name : List Char} (nonempty : name ≠ [])
    (plain : ∀ c ∈ name, isModuleChar c = true) :
    Reference.quotedModule.Reaches ⟨b, '\'' :: (name ++ '\'' :: s)⟩ ⟨some '\'', s⟩ :=
  (reaches_char rfl).bind fun _ => (reaches_most1 nonempty plain).bind fun name =>
    (reaches_char rfl).bind fun _ => reaches_pure name

theorem reaches_effect {name : List Char} (nonempty : name ≠ [])
    (plain : ∀ c ∈ name, isModuleChar c = true) :
    Reference.effectImport.Reaches ⟨b, "import '".toList ++ (name ++ '\'' :: s)⟩ ⟨some '\'', s⟩ := by
  have shape : "import '".toList ++ (name ++ '\'' :: s) =
      "import".toList ++ ([' '] ++ ('\'' :: (name ++ '\'' :: s))) := by
    simp
  rw [shape]
  exact (reaches_text "import").bind fun _ => (reaches_most (by simp; decide)).bind fun _ =>
    reaches_module nonempty plain

theorem first?_bound (clause : Clause) (module : ModuleName) (start : startsLine b = true) :
    ∃ a, (Reference.onLines Reference.boundImport).first?
        ⟨b, (Part.bound clause module).statement ++ '\n' :: s⟩ =
      some (a, ⟨some ';', '\n' :: s⟩) := by
  let parts := BoundParts.ofClause clause.nonempty clause.plain module.nonempty module.plain
  have shape : (Part.bound clause module).statement ++ '\n' :: s = parts.text ++ ';' :: '\n' :: s := by
    rw [BoundParts.ofClause_text, Part.statement_bound]
    simp only [List.append_assoc]
    rfl
  have word : (Part.bound clause module).statement ++ '\n' :: s = 'i' :: _ := rfl
  rw [shape] at word ⊢
  obtain ⟨a, -, -, found⟩ := first?_onLines start word parts.reaches fun a q way => by
    obtain ⟨parts', same, -⟩ := boundImport_reads way
    exact (BoundParts.unique same).2.2.2.2.symm
  exact ⟨a, found⟩

theorem effect_reads (module : ModuleName) {x : Span} {q : Place}
    (way : (x, q) ∈ Reference.effectImport ⟨b, (Part.effect module).statement ++ s⟩) :
    x.text = module.text ∧ q.ahead = ';' :: s := by
  have shape : (Part.effect module).statement ++ s =
      "import '".toList ++ (module.text ++ '\'' :: ';' :: s) := by
    simp [Part.statement_effect]
  rw [shape] at way
  obtain ⟨text, rfl⟩ := effectImport_reads module.plain way
  exact ⟨text, rfl⟩

theorem effect_reaches_module (module : ModuleName) :
    Reference.effectImport.Reaches ⟨b, (Part.effect module).statement ++ s⟩
      ⟨some '\'', ';' :: s⟩ := by
  have shape : (Part.effect module).statement ++ s =
      "import '".toList ++ (module.text ++ '\'' :: ';' :: s) := by
    simp [Part.statement_effect]
  rw [shape]
  exact reaches_effect module.nonempty module.plain

theorem first?_effect (module : ModuleName) (start : startsLine b = true) :
    ∃ x, x.text = module.text ∧ (Reference.onLines Reference.effectImport).first?
        ⟨b, (Part.effect module).statement ++ '\n' :: s⟩ =
      some (x, ⟨some ';', '\n' :: s⟩) := by
  have word : (Part.effect module).statement ++ '\n' :: s = 'i' :: _ := rfl
  obtain ⟨x, q, way, found⟩ := first?_onLines start word (effect_reaches_module module)
    fun _ _ way => (effect_reads module way).2
  exact ⟨x, (effect_reads module way).1, found⟩

/-- An import for effect is none that binds names: its module name stands where a clause would. -/
theorem first?_bound_effect (module : ModuleName) :
    (Reference.onLines Reference.boundImport).first? ⟨b, (Part.effect module).statement ++ s⟩ =
      none := by
  refine first?_eq_none fun a q way => ?_
  obtain ⟨indent, t, r, -, -, -, -, ahead, hi, hr, -⟩ := onLines_reads way
  have unindented : indent = [] := run_eq_nil hi (by decide) ahead.symm
  subst unindented
  obtain rfl := ahead
  obtain ⟨_, p₁, h₁, tail₁⟩ := mem_bind.mp hr
  obtain ⟨t, parts, rfl⟩ := mem_text.mp h₁
  obtain ⟨_, p₂, h₂, tail₂⟩ := mem_bind.mp tail₁
  obtain ⟨gap, t₂, rfl, some, hg, rfl, -⟩ := mem_least1.mp (mem_most1.mp h₂)
  obtain ⟨_, p₃, h₃, -⟩ := mem_bind.mp tail₂
  obtain ⟨run, t₃, parts₃, nonempty, hr, -, -⟩ := mem_least1.mp h₃
  dsimp only at parts₃
  subst parts₃
  rw [Part.statement_effect] at parts
  simp only [List.append_assoc] at parts
  have word : "import".toList ++ (' ' :: '\'' :: (module.text ++ ("';".toList ++ s))) =
      "import".toList ++ (gap ++ (run ++ t₃)) := parts
  have after : gap ++ (run ++ t₃) = ' ' :: '\'' :: (module.text ++ ("';".toList ++ s)) :=
    (List.append_cancel_left word).symm
  obtain ⟨c, gap, rfl⟩ := List.exists_cons_of_ne_nil some
  have quote : gap ++ (run ++ t₃) = '\'' :: (module.text ++ ("';".toList ++ s)) :=
    (List.cons.inj after).2
  obtain rfl : gap = [] := run_eq_nil (fun d hd => hg d (by simp [hd])) (by decide) quote
  obtain ⟨d, run, rfl⟩ := List.exists_cons_of_ne_nil nonempty
  obtain ⟨rfl, -⟩ := List.cons.inj quote
  exact absurd (hr '\'' (by simp)) (by decide)

theorem pieces_chunk (begins : BeginsWith "import" m) (chunk : Chunk) :
    (Reference.onLines m).piecesFrom 0 b (chunk.text ++ s) =
      chunk.text.map .kept ++ (Reference.onLines m).piecesFrom 0 (some '\n') s := by
  obtain ⟨front, ends⟩ := List.getLast?_eq_some_iff.mp chunk.ends
  have last : lastOr b chunk.text = some '\n' := by
    rw [ends, lastOr_append]
    rfl
  rw [piecesFrom_kept fun before after parts some => quiet_chunk begins chunk parts some, last]

theorem unread_off_line (begins : BeginsWith "import" m) (off : startsLine b = false) :
    (Reference.onLines m).first? ⟨b, s⟩ = none := by
  refine first?_eq_none fun a q way => ?_
  have start := (onLines_startsStatement begins _ a q way).1
  simp [off] at start

theorem unread_break (begins : BeginsWith "import" m) :
    (Reference.onLines m).first? ⟨b, '\n' :: s⟩ = none := by
  refine first?_eq_none fun a q way => ?_
  have opening := (onLines_startsStatement begins _ a q way).2.1
  exact absurd rfl opening.headed.firstLine_ne_nil

theorem pieces_line (begins : BeginsWith "import" m) {line : List Char} (unbroken : '\n' ∉ line)
    (unread : (Reference.onLines m).first? ⟨b, line ++ '\n' :: s⟩ = none) :
    (Reference.onLines m).piecesFrom 0 b (line ++ '\n' :: s) =
      (line ++ ['\n']).map .kept ++ (Reference.onLines m).piecesFrom 0 (some '\n') s := by
  have shape : line ++ '\n' :: s = (line ++ ['\n']) ++ s := by simp
  have last : lastOr b (line ++ ['\n']) = some '\n' := by
    rw [lastOr_append]
    rfl
  rw [shape, piecesFrom_kept (fun before after parts nonempty => ?_), last]
  rcases before.eq_nil_or_concat with rfl | ⟨front, c, rfl⟩
  · have whole : line ++ ['\n'] = after := parts
    rw [← whole, ← shape]
    exact unread
  · rcases after.eq_nil_or_concat with rfl | ⟨inside, d, rfl⟩
    · exact absurd rfl nonempty
    rw [List.concat_eq_append, List.concat_eq_append, ← List.append_assoc] at parts
    obtain ⟨rfl, -⟩ := List.append_inj' parts rfl
    have other : c ≠ '\n' := fun same => unbroken (by simp [same])
    refine unread_off_line begins ?_
    rw [List.concat_eq_append, lastOr_append]
    simp [startsLine, other]

theorem readStatements_kept (run : List Char) (ps : List (Piece (Span × Span))) :
    Scan.readStatements (run.map .kept ++ ps) = Scan.readStatements ps := by
  induction run with
  | nil => rfl
  | cons c run ih => exact ih

theorem ModuleName.statement_unbroken (module : ModuleName) :
    '\n' ∉ (Part.effect module).statement := by
  rw [Part.statement_effect, List.mem_append, List.mem_append]
  rintro (word | name | close)
  · exact absurd word (by decide)
  · exact module.unbroken name
  · exact absurd close (by decide)

theorem Part.lastOr_statement {part : Part} (some : part.statement ≠ []) :
    lastOr b part.statement = Option.some ';' := by
  cases part with
  | code chunk => exact absurd rfl some
  | bound clause module =>
    rw [Part.statement_bound]
    simp only [lastOr_append]
    rfl
  | effect module =>
    rw [Part.statement_effect]
    simp only [lastOr_append]
    rfl

theorem pieces_statement (begins : BeginsWith "import" m) {part : Part} {a : α}
    (some : part.statement ≠ [])
    (found : (Reference.onLines m).first? ⟨b, part.statement ++ '\n' :: s⟩ =
      Option.some (a, ⟨Option.some ';', '\n' :: s⟩)) :
    (Reference.onLines m).piecesFrom 0 b (part.statement ++ '\n' :: s) =
      .hit a part.statement :: .kept '\n' ::
        (Reference.onLines m).piecesFrom 0 (Option.some '\n') s := by
  have feed : (Reference.onLines m).piecesFrom 0 (Option.some ';') ('\n' :: s) =
      .kept '\n' :: (Reference.onLines m).piecesFrom 0 (Option.some '\n') s :=
    pieces_line begins List.not_mem_nil (unread_break begins)
  rw [piecesFrom_hit (q := ⟨Option.some ';', '\n' :: s⟩) some found, Part.lastOr_statement some, feed]

theorem pieces_source (start : startsLine b = true) (parts : List Part) :
    ∃ ps, (Reference.onLines Reference.boundImport).piecesFrom 0 b (Part.source parts) = ps ∧
      Scan.readStatements ps = (Part.boundStatements parts).mapM Reference.parse ∧
      ps.flatMap (Piece.write fun _ _ => []) = parts.flatMap Part.afterBound := by
  induction parts generalizing b with
  | nil => exact ⟨[], rfl, rfl, rfl⟩
  | cons part parts ih =>
    obtain ⟨ps, hps, reads, writes⟩ := ih (b := some '\n') rfl
    cases part with
    | code chunk =>
      have pieces := pieces_chunk (b := b) (s := Part.source parts) boundImport_beginsWith chunk
      refine ⟨_, pieces, ?_, ?_⟩
      · rw [readStatements_kept, hps, reads]
        rfl
      · rw [write_kept, hps, writes]
        rfl
    | bound clause module =>
      have shape : Part.source (.bound clause module :: parts) =
          (Part.bound clause module).statement ++ '\n' :: Part.source parts := by
        simp [Part.source, Part.text, Part.residue]
      have nonempty : (Part.bound clause module).statement ≠ [] := by
        rw [Part.statement_bound]
        simp
      obtain ⟨a, found⟩ := first?_bound (s := Part.source parts) clause module start
      have pieces := pieces_statement boundImport_beginsWith nonempty found
      refine ⟨_, shape ▸ pieces, ?_, ?_⟩
      · rw [Scan.readStatements, Scan.readStatements, hps, reads]
        exact (List.mapM_cons ..).symm
      · rw [List.flatMap_cons, List.flatMap_cons, hps, writes]
        rfl
    | effect module =>
      have shape : Part.source (.effect module :: parts) =
          (Part.effect module).statement ++ '\n' :: Part.source parts := by
        simp [Part.source, Part.text, Part.residue]
      have pieces := pieces_line (b := b) boundImport_beginsWith module.statement_unbroken
        (first?_bound_effect (s := '\n' :: Part.source parts) module)
      refine ⟨_, shape ▸ pieces, ?_, ?_⟩
      · rw [readStatements_kept, hps, reads]
        rfl
      · rw [write_kept, hps, writes]
        rfl

def Part.effectReferences (parts : List Part) : List Reference :=
  parts.filterMap fun
    | .effect module => some { moduleName := String.ofList module.text }
    | _ => none

theorem pieces_afterBound (start : startsLine b = true) (parts : List Part) :
    ∃ ps, (Reference.onLines Reference.effectImport).piecesFrom 0 b (parts.flatMap Part.afterBound) =
        ps ∧
      (ps.filterMap Piece.value?).map Scan.effectReference = Part.effectReferences parts ∧
      ps.flatMap (Piece.write fun _ _ => []) = parts.flatMap Part.residue := by
  induction parts generalizing b with
  | nil => exact ⟨[], rfl, rfl, rfl⟩
  | cons part parts ih =>
    obtain ⟨ps, hps, values, writes⟩ := ih (b := some '\n') rfl
    cases part with
    | code chunk =>
      have pieces := pieces_chunk (b := b) (s := parts.flatMap Part.afterBound)
        effectImport_beginsWith chunk
      refine ⟨_, pieces, ?_, ?_⟩
      · rw [values_kept, hps, values]
        rfl
      · rw [write_kept, hps, writes]
        rfl
    | bound clause module =>
      have unread := unread_break (b := b) (s := parts.flatMap Part.afterBound)
        effectImport_beginsWith
      have pieces := pieces_line effectImport_beginsWith List.not_mem_nil unread
      refine ⟨_, pieces, ?_, ?_⟩
      · rw [values_kept, hps, values]
        rfl
      · rw [write_kept, hps, writes]
        rfl
    | effect module =>
      have shape : (Part.effect module :: parts).flatMap Part.afterBound =
          (Part.effect module).statement ++ '\n' :: parts.flatMap Part.afterBound := by
        simp [Part.afterBound, Part.isBound, Part.text, Part.residue]
      have nonempty : (Part.effect module).statement ≠ [] := by
        rw [Part.statement_effect]
        simp
      obtain ⟨x, text, found⟩ := first?_effect (s := parts.flatMap Part.afterBound) module start
      have pieces := pieces_statement effectImport_beginsWith nonempty found
      refine ⟨_, shape ▸ pieces, ?_, ?_⟩
      · have value : Scan.effectReference x = { moduleName := String.ofList module.text } := by
          rw [Scan.effectReference, text]
        rw [hps]
        exact congrArg₂ List.cons value values
      · rw [List.flatMap_cons, List.flatMap_cons, hps, writes]
        rfl

theorem Part.trim_statement {part : Part} (nonempty : part.statement ≠ []) :
    trim part.statement = part.statement := by
  cases part with
  | code chunk => exact absurd rfl nonempty
  | bound clause module =>
    have shape : (Part.bound clause module).statement = 'i' :: (("mport ".toList ++ (clause.text ++
        (" from '".toList ++ (module.text ++ ['\''])))) ++ [';']) := by
      simp [Part.statement_bound]
    rw [shape]
    exact trim_eq (by decide) (by decide)
  | effect module =>
    have shape : (Part.effect module).statement =
        'i' :: (("mport '".toList ++ (module.text ++ ['\''])) ++ [';']) := by
      simp [Part.statement_effect]
    rw [shape]
    exact trim_eq (by decide) (by decide)

theorem parse_error {part : Part} (nonempty : part.statement ≠ []) {e : Failure}
    (h : Reference.parse part.statement = .error e) :
    ∃ reason, e = .malformedReference (String.ofList part.statement) reason := by
  rw [Reference.parse, Part.trim_statement nonempty] at h
  cases found : Reference.ofStatement part.statement with
  | ok r =>
    rw [found] at h
    cases h
  | error fault =>
    rw [found] at h
    cases h
    exact ⟨fault.message, rfl⟩

theorem whole_reads {t : List Char} {a : α} {q : Place}
    (h : (a, q) ∈ Reference.whole m ⟨none, t⟩) :
    ∃ gap rest r, t = gap ++ rest ∧ Blank gap ∧ (a, r) ∈ m ⟨lastOr none gap, rest⟩ := by
  obtain ⟨_, p₁, h₁, tail₁⟩ := mem_bind.mp h
  obtain ⟨gap, rest, parts, hg, rfl, -⟩ := mem_least.mp (mem_most.mp h₁)
  obtain ⟨a', r, h₂, tail₂⟩ := mem_bind.mp tail₁
  obtain ⟨_, p₃, -, tail₃⟩ := mem_bind.mp tail₂
  obtain ⟨_, p₄, -, tail₄⟩ := mem_bind.mp tail₃
  obtain ⟨_, p₅, -, tail₅⟩ := mem_bind.mp tail₄
  obtain ⟨_, p₆, -, tail₆⟩ := mem_bind.mp tail₅
  obtain ⟨rfl, -⟩ := mem_pure.mp tail₆
  exact ⟨gap, rest, r, parts, hg, h₂⟩

theorem matchStart?_whole_reads {s rest : List Char} {a : α}
    (h : (Reference.whole m).matchStart? s = some (a, rest)) :
    ∃ gap t r, s = gap ++ t ∧ Blank gap ∧ (a, r) ∈ m ⟨lastOr none gap, t⟩ := by
  obtain ⟨⟨a', q⟩, found, parts⟩ := Option.map_eq_some_iff.mp h
  obtain ⟨rfl, -⟩ := Prod.mk.inj parts
  exact whole_reads (mem_of_first? found)

theorem whole_reads_unindented {t : List Char} {a : α} {q : Place} (word : t.head? = some 'i')
    (h : (a, q) ∈ Reference.whole m ⟨none, t⟩) : ∃ r, (a, r) ∈ m ⟨none, t⟩ := by
  obtain ⟨gap, rest, r, parts, hg, way⟩ := whole_reads h
  obtain ⟨tail, rfl⟩ := List.head?_eq_some_iff.mp word
  obtain rfl : gap = [] := run_eq_nil hg (by decide) parts.symm
  obtain rfl : 'i' :: tail = rest := parts
  exact ⟨r, way⟩

theorem matchStart?_whole {t : List Char} {b' : Option Char} (word : (t ++ [';']).head? = some 'i')
    (reaches : m.Reaches ⟨none, t ++ [';']⟩ ⟨b', [';']⟩) :
    ∃ a q rest, (a, q) ∈ m ⟨none, t ++ [';']⟩ ∧
      (Reference.whole m).matchStart? (t ++ [';']) = some (a, rest) := by
  have whole : (Reference.whole m).Reaches ⟨none, [] ++ (t ++ [';'])⟩ ⟨some ';', []⟩ :=
    (reaches_most (by simp)).bind fun _ => reaches.bind fun value =>
      reaches_most_none.bind fun _ => (reaches_char rfl).opt.bind fun _ =>
        reaches_most_none.bind fun _ => (reaches_here rfl).bind fun _ => reaches_pure value
  rw [List.nil_append] at whole
  obtain ⟨⟨a, q⟩, found⟩ := Option.isSome_iff_exists.mp whole.first?
  obtain ⟨r, way⟩ := whole_reads_unindented word (mem_of_first? found)
  refine ⟨a, r, q.ahead, way, ?_⟩
  rw [matchStart?, found]
  rfl

namespace Reference

theorem ofStatement_effect {name : List Char} (nonempty : name ≠ [])
    (plain : ∀ c ∈ name, isModuleChar c = true) :
    ofStatement ("import '".toList ++ (name ++ "';".toList)) =
      .ok { moduleName := String.ofList (trim name) } := by
  have shape : "import '".toList ++ (name ++ "';".toList) =
      ("import '".toList ++ (name ++ ['\''])) ++ [';'] := by
    simp
  have quoted : ("import '".toList ++ (name ++ ['\''])) ++ [';'] =
      "import '".toList ++ (name ++ '\'' :: [';']) := by
    simp
  have reaches : effectImport.Reaches ⟨none, ("import '".toList ++ (name ++ ['\''])) ++ [';']⟩
      ⟨some '\'', [';']⟩ := by
    rw [quoted]
    exact reaches_effect nonempty plain
  obtain ⟨x, q, rest, way, start⟩ := matchStart?_whole rfl reaches
  rw [quoted] at way
  rw [shape, ofStatement, start, ← (effectImport_reads plain way).1]

/-- What stands where a module would be quoted begins with a character that is none of these. -/
theorem matchStart?_effect_eq_none {c : Char} {rest : List Char} (hb : isBlank c = false)
    (hq : isQuote c = false) :
    (whole effectImport).matchStart? ("import ".toList ++ c :: rest) = none := by
  rw [matchStart?, first?_eq_none, Option.map_none]
  intro a q way
  obtain ⟨r, way⟩ := whole_reads_unindented rfl way
  obtain ⟨_, p₁, h₁, tail₁⟩ := mem_bind.mp way
  obtain ⟨t, parts, rfl⟩ := mem_text.mp h₁
  obtain ⟨_, p₂, h₂, tail₂⟩ := mem_bind.mp tail₁
  obtain ⟨gap, t₂, rfl, hg, rfl, -⟩ := mem_least.mp (mem_most.mp h₂)
  obtain ⟨d, p₃, h₃, -⟩ := mem_bind.mp tail₂
  obtain ⟨hd, t₃, parts₃, -⟩ := mem_char.mp h₃
  dsimp only at parts₃
  subst parts₃
  have solid : isBlank d = false := not_isBlank_of_isQuote hd
  have same : [' '] ++ c :: rest = gap ++ d :: t₃ :=
    (List.append_right_inj "import".toList).mp parts
  obtain ⟨-, rfl, -⟩ := run_eq_of_append (List.all_eq_true.mp rfl) hg hb solid same
  rw [hq] at hd
  cases hd

theorem ofStatement_bound {clause name : List Char} (some : clause ≠ []) (trimmed : Trimmed clause)
    (hclause : ∀ c ∈ clause, isClauseChar c = true) (nonempty : name ≠ [])
    (plain : ∀ c ∈ name, isModuleChar c = true) :
    ofStatement ("import ".toList ++ (clause ++ (" from '".toList ++ (name ++ "';".toList)))) =
      (do
        let (typeOnly, clause) := splitTypeOnly clause
        let r ← ofClause (String.ofList (trim name)) clause
        pure { r with typeOnly }) := by
  let parts := BoundParts.ofClause some hclause nonempty plain
  have shape : "import ".toList ++ (clause ++ (" from '".toList ++ (name ++ "';".toList))) =
      parts.text ++ [';'] := by
    rw [BoundParts.ofClause_text]
    rfl
  obtain ⟨x, q, rest, way, start⟩ := matchStart?_whole (m := boundImport) (t := parts.text) rfl
    parts.reaches
  obtain ⟨parts', same, -, clauses, names⟩ := boundImport_reads way
  have noEffect : (whole effectImport).matchStart?
      ("import ".toList ++ (clause ++ (" from '".toList ++ (name ++ "';".toList)))) = none := by
    obtain ⟨c, clause, rfl⟩ := List.exists_cons_of_ne_nil some
    have unquoted : isQuote c = false := by
      simpa using quoteless_of_clause hclause c (by simp)
    exact matchStart?_effect_eq_none trimmed.1 unquoted
  have clause_eq : trim x.1.text = clause := by
    rw [clauses, ← BoundParts.trim_clause_eq same]
    exact trimmed.trim_eq
  have name_eq : x.2.text = name := names.trans (BoundParts.unique same).2.2.1.symm
  rw [ofStatement, noEffect, shape, start]
  simp only [clause_eq, name_eq]

end Reference

theorem parse_effect (module : ModuleName) :
    Reference.parse (Part.effect module).statement =
      .ok { moduleName := String.ofList module.text } := by
  rw [Reference.parse, Part.statement_effect,
    Reference.ofStatement_effect module.nonempty module.plain, module.trimmed]
  rfl

theorem mapM_of_accepted {statements : List (List Char)} {rs : List Reference}
    (accepted : List.Forall₂ (fun st r => Reference.parse st = .ok r) statements rs) :
    statements.mapM Reference.parse = .ok rs := by
  induction accepted with
  | nil => rfl
  | cons first _ ih =>
    rw [List.mapM_cons, first, ih]
    rfl

theorem mapM_of_rejected {before after : List (List Char)} {st : List Char} {e : Failure}
    (accepted : ∀ t ∈ before, ∃ r, Reference.parse t = .ok r)
    (rejected : Reference.parse st = .error e) :
    (before ++ st :: after).mapM Reference.parse = .error e := by
  induction before with
  | nil =>
    rw [List.nil_append, List.mapM_cons, rejected]
    rfl
  | cons t before ih =>
    obtain ⟨r, first⟩ := accepted t (by simp)
    rw [List.cons_append, List.mapM_cons, first, ih fun u hu => accepted u (by simp [hu])]
    rfl

theorem effects_accepted (parts : List Part) :
    List.Forall₂ (fun st r => Reference.parse st = .ok r) (Part.effectStatements parts)
      (Part.effectReferences parts) := by
  induction parts with
  | nil => exact .nil
  | cons part parts ih =>
    cases part with
    | code chunk => exact ih
    | bound clause module => exact ih
    | effect module => exact .cons (parse_effect module) ih

theorem bound_nonempty {parts : List Part} {st : List Char}
    (member : st ∈ Part.boundStatements parts) :
    ∃ part : Part, part.statement = st ∧ part.statement ≠ [] := by
  obtain ⟨part, found, rfl⟩ := List.mem_map.mp member
  obtain ⟨-, isBound⟩ := List.mem_filter.mp found
  refine ⟨part, rfl, ?_⟩
  cases part with
  | code chunk => cases isBound
  | effect module => cases isBound
  | bound clause module =>
    rw [Part.statement_bound]
    simp

theorem Scan.ofSource_eq (config : Config) (parts : List Part) :
    Scan.ofSource config (Part.source parts) =
      ((Part.boundStatements parts).mapM Reference.parse).map fun rs =>
        let references := rs ++ Part.effectReferences parts
        let symbols := SymbolTable.ofReferences config references
        { body := parts.flatMap Part.residue
          references
          symbols
          runtimeBindings := RuntimeBinding.collect config references symbols } := by
  obtain ⟨ps, hps, reads, writes⟩ := pieces_source (b := none) rfl parts
  obtain ⟨qs, hqs, values, erased⟩ := pieces_afterBound (b := none) rfl parts
  have rest : (Reference.onLines Reference.boundImport).erase (Part.source parts) =
      parts.flatMap Part.afterBound := by
    rw [erase, rewrite, pieces, hps, writes]
  have body : (Reference.onLines Reference.effectImport).erase (parts.flatMap Part.afterBound) =
      parts.flatMap Part.residue := by
    rw [erase, rewrite, pieces, hqs, erased]
  have references : ((Reference.onLines Reference.effectImport).values
      (parts.flatMap Part.afterBound)).map effectReference = Part.effectReferences parts := by
    rw [Matcher.values, pieces, hqs, values]
  unfold Scan.ofSource
  simp only [rest, body, references, pieces, hps, reads]
  cases (Part.boundStatements parts).mapM Reference.parse <;> rfl

/-- A source of whole statements is scanned as it is written: the statements are cut out of it, and
what they read as is recorded, those that bind names first. The first of these that cannot be read
is the failure. -/
theorem Scan.cuts_whole_statements (config : Config) (parts : List Part) :
    (∀ rs, List.Forall₂ (fun st r => Reference.parse st = .ok r) (Part.boundStatements parts) rs →
      ∃ scan es, Scan.ofSource config (Part.source parts) = .ok scan ∧
        scan.body = parts.flatMap Part.residue ∧
        List.Forall₂ (fun st r => Reference.parse st = .ok r) (Part.effectStatements parts) es ∧
        scan.references = rs ++ es) ∧
    ∀ before st after e, Part.boundStatements parts = before ++ st :: after →
      (∀ t ∈ before, ∃ r, Reference.parse t = .ok r) → Reference.parse st = .error e →
      Scan.ofSource config (Part.source parts) = .error e ∧
        ∃ reason, e = .malformedReference (String.ofList st) reason := by
  constructor
  · intro rs accepted
    have scanned := Scan.ofSource_eq config parts
    rw [mapM_of_accepted accepted] at scanned
    exact ⟨_, _, scanned, rfl, effects_accepted parts, rfl⟩
  · intro before st after e split accepted rejected
    have scanned := Scan.ofSource_eq config parts
    rw [split, mapM_of_rejected accepted rejected] at scanned
    refine ⟨scanned, ?_⟩
    have member : st ∈ Part.boundStatements parts := by simp [split]
    obtain ⟨part, rfl, nonempty⟩ := bound_nonempty member
    exact parse_error nonempty rejected

theorem Scan.cuts_whole_statements_around_code :
    ∃ parts, Part.source parts = "import './a';\nf();\nimport { b as c } from 'b';\n".toList ∧
      ∃ scan, Scan.ofSource {} (Part.source parts) = .ok scan ∧ scan.body = "\nf();\n\n".toList ∧
        scan.references = [⟨"b", none, [⟨"b", "c"⟩], none, false⟩, ⟨"./a", none, [], none, false⟩] := by
  let clause : Clause := ⟨"{ b as c }".toList, by decide, List.all_eq_true.mp rfl⟩
  let b : ModuleName := ⟨['b'], by decide, by decide, List.all_eq_true.mp rfl, by decide⟩
  let a : ModuleName := ⟨['.', '/', 'a'], by decide, by decide, List.all_eq_true.mp rfl, by decide⟩
  let code := Chunk.ofQuiet "f();\n".toList (by decide) (by decide)
  let parts : List Part := [.effect a, .code code, .bound clause b]
  have bounds : Part.boundStatements parts = [(Part.bound clause b).statement] := rfl
  have effects : Part.effectStatements parts = [(Part.effect a).statement] := rfl
  have read : Reference.parse (Part.bound clause b).statement =
      .ok ⟨"b", none, [⟨"b", "c"⟩], none, false⟩ := by
    have parsed : (Reference.parse (Part.bound clause b).statement).toOption =
        some ⟨"b", none, [⟨"b", "c"⟩], none, false⟩ := by
      decide +kernel
    cases found : Reference.parse (Part.bound clause b).statement with
    | error e => simp [found, Except.toOption] at parsed
    | ok r => simpa [found, Except.toOption] using parsed
  have accepted : List.Forall₂ (fun st r => Reference.parse st = .ok r)
      (Part.boundStatements parts) [⟨"b", none, [⟨"b", "c"⟩], none, false⟩] := by
    rw [bounds]
    exact .cons read .nil
  obtain ⟨scan, es, scanned, body, readEffects, references⟩ :=
    (Scan.cuts_whole_statements {} parts).1 _ accepted
  rw [effects] at readEffects
  refine ⟨parts, by decide +kernel, scan, scanned, ?_, ?_⟩
  · rw [body]
    decide +kernel
  · rw [references]
    cases readEffects with
    | cons first rest =>
      cases rest
      rw [parse_effect a] at first
      cases first
      rfl

end PagePreview
