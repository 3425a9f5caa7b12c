import PagePreview.Proofs.DefaultExport
import PagePreview.Proofs.Scan
import PagePreview.Proofs.Stacked

/-!
# Statements that export

Behind the word `export` stands a declaration, a list of names in braces, a star, or the word
`default`, and the first character tells which pass reads the statement. A list or a star is read to
its end, unless a brace in the list or a quote in the name of its module ends it before.
-/

namespace PagePreview
open Text Matcher Statement
open Reference (isQuote)

variable {b : Option Char} {s t : List Char}

/-- The module that an export takes from, in quotes of either kind. -/
structure Origin where
  quote : Char
  name : List Char
  quotes : isQuote quote = true
  closed : quote ∉ name
  unbroken : '\n' ∉ name

namespace Origin

def text (o : Origin) : List Char := "from".toList ++ ([' '] ++ o.quote :: (o.name ++ [o.quote]))

-- The words are opened by equations such as this one: those that are generated compare the letters
-- of a word with themselves, one by one.
theorem text_eq (o : Origin) :
    o.text = "from".toList ++ ([' '] ++ o.quote :: (o.name ++ [o.quote])) := rfl

def Plain (o : Origin) : Prop := ∀ c ∈ o.name, isQuote c = false

theorem quote_cases (o : Origin) : o.quote = '"' ∨ o.quote = '\'' := by
  simpa [isQuote] using o.quotes

theorem text_append (o : Origin) (s : List Char) :
    o.text ++ s = "from".toList ++ ([' '] ++ o.quote :: (o.name ++ o.quote :: s)) := by
  simp only [text_eq, List.append_assoc, List.cons_append, List.nil_append]

end Origin

def originText (origin : Option Origin) : List Char :=
  (origin.map fun o => [' '] ++ o.text).getD []

/-- What stands behind the word `export` and a space. -/
def exported (t : List Char) : List Char := "export".toList ++ ([' '] ++ t)

theorem exported_eq (t : List Char) : exported t = "export".toList ++ ([' '] ++ t) := rfl

theorem exported_append (t s : List Char) : exported t ++ s = exported (t ++ s) := by
  simp only [exported_eq, List.append_assoc]

theorem FreeInside.exported {t : List Char} (h : FreeInside t) : FreeInside (exported t) := by
  rw [exported_eq, ← List.append_assoc]
  exact h.prepend (by decide)

/-- A list of names in braces, with or without a module. -/
def braced (isType : Bool) (inner : List Char) (origin : Option Origin) : List Char :=
  (if isType then "type".toList ++ [' '] else []) ++ '\x7b' :: (inner ++
    '\x7d' :: (originText origin ++ [';']))

def starred (name : Option (List Char)) (origin : Origin) : List Char :=
  '*' :: ([' '] ++ ((name.map fun n => "as".toList ++ ([' '] ++ (n ++ [' ']))).getD [] ++
    (origin.text ++ [';'])))

theorem not_isBlank_of_isWord {c : Char} (h : isWord c = true) : isBlank c = false := by
  cases blank : isBlank c with
  | false => rfl
  | true =>
    rw [isWord_of_isBlank blank] at h
    cases h

theorem first?_statementEnd (ends : firstLine s = []) :
    Entry.statementEnd.first? ⟨b, ';' :: s⟩ = some ((), ⟨some ';', s⟩) := by
  have solid : s.head?.any isInlineBlank = false ∧ s.head?.all (· == '\n') = true := by
    rcases line_cases ends with rfl | ⟨rest, rfl⟩
    · exact ⟨rfl, rfl⟩
    · exact ⟨(by decide : isInlineBlank '\n' = false), rfl⟩
  exact first?_then (first?_most_none rfl) (first?_then (first?_opt (first?_char rfl))
    (first?_then (first?_most_none solid.1) (first?_here solid.2)))

theorem first?_quotedModule {o : Origin} (plain : o.Plain) :
    Entry.quotedModule.first? ⟨b, o.quote :: (o.name ++ o.quote :: s)⟩ =
      some ((), ⟨some o.quote, s⟩) := by
  have letters : ∀ c ∈ o.name, (c != '"' && c != '\'') = true := fun c hc => by
    simpa [isQuote] using plain c hc
  have close : (o.quote != '"' && o.quote != '\'') = false := by
    rcases o.quote_cases with same | same <;> rw [same] <;> rfl
  exact first?_then (first?_char o.quotes) (first?_then (first?_most letters close)
    (first?_then (first?_char o.quotes) rfl))

theorem first?_origin {o : Origin} (plain : o.Plain) :
    (do text "from"; let _ ← blanks; Entry.quotedModule : Matcher Unit).first? ⟨b, o.text ++ s⟩ =
      some ((), ⟨some o.quote, s⟩) := by
  rw [o.text_append]
  exact first?_then (first?_text "from") (first?_then
    (first?_most blank_space (not_isBlank_of_isQuote o.quotes)) (first?_quotedModule plain))

theorem first?_listClose {origin : Option Origin} (plain : ∀ o, origin = some o → o.Plain)
    (ends : firstLine s = []) :
    listClose.first? ⟨b, originText origin ++ ';' :: s⟩ =
      some ((), ⟨some ';', s⟩) := by
  cases origin with
  | none =>
    exact first?_then (first?_most_none rfl)
      (first?_then (first?_opt_none rfl) (first?_statementEnd ends))
  | some o =>
    rw [originText, Option.map_some, Option.getD_some, List.append_assoc]
    exact first?_then (first?_most blank_space rfl) (first?_then
      (first?_opt (first?_origin (plain o rfl))) (first?_statementEnd ends))

theorem first?_braced {isType : Bool} {inner : List Char} {origin : Option Origin}
    (braceless : '\x7d' ∉ inner) (plain : ∀ o, origin = some o → o.Plain)
    (start : startsLine b = true) (ends : firstLine s = []) :
    Entry.exportList.first? ⟨b, exported (braced isType inner origin) ++ s⟩ =
      some ((), ⟨some ';', s⟩) := by
  have type : ∀ b t, ∃ x, (opt (do text "type"; blanks1)).first?
      ⟨b, (if isType then "type".toList ++ [' '] else []) ++ '\x7b' :: t⟩ =
        some (x, ⟨lastOr b (if isType then "type".toList ++ [' '] else []), '\x7b' :: t⟩) := by
    intro b t
    cases isType with
    | false => exact ⟨_, first?_opt_none rfl⟩
    | true =>
      have shape : (if true then "type".toList ++ [' '] else []) ++ '\x7b' :: t =
        "type".toList ++ ([' '] ++ '\x7b' :: t) := rfl
      rw [shape]
      exact ⟨_, first?_opt (first?_then (first?_text "type")
        (first?_most1 (by simp) blank_space rfl))⟩
  have letters : ∀ c ∈ inner, (c != '\x7d') = true := by
    intro c hc
    have other : c ≠ '\x7d' := fun same => braceless (same ▸ hc)
    simpa using other
  have whole : exported (braced isType inner origin) ++ s = [] ++ ("export".toList ++ ([' '] ++
      ((if isType then "type".toList ++ [' '] else []) ++ '\x7b' :: (inner ++ ("\x7d".toList ++
        (originText origin ++ ';' :: s)))))) := by
    simp only [braced, exported_eq, List.append_assoc, List.cons_append, List.nil_append]
    rfl
  have opens : ((if isType then "type".toList ++ [' '] else []) ++ '\x7b' :: (inner ++
      ("\x7d".toList ++ (originText origin ++
        ';' :: s)))).head?.any isBlank = false := by
    cases isType <;> rfl
  obtain ⟨x, typed⟩ := type (lastOr (lastOr (lastOr b []) "export".toList) [' ']) (inner ++
    ("\x7d".toList ++ (originText origin ++ ';' :: s)))
  rw [whole]
  exact first?_then (first?_here start) (first?_then (first?_most noIndent rfl)
    (first?_then (first?_text "export") (first?_then (first?_most1 (by simp) blank_space opens)
      (first?_then typed (first?_then (first?_text "\x7b") (first?_then (first?_most letters rfl)
        (first?_then (first?_text "\x7d") (first?_listClose plain ends))))))))

theorem first?_starred {name : Option (List Char)} {origin : Origin}
    (declared : ∀ n, name = some n → IsDeclaredName n) (plain : origin.Plain)
    (start : startsLine b = true) (ends : firstLine s = []) :
    Entry.exportStar.first? ⟨b, exported (starred name origin) ++ s⟩ =
      some ((), ⟨some ';', s⟩) := by
  have named : ∀ b t, ∃ y, (opt (do
        text "as"
        let _ ← blanks1
        let _ ← Entry.declaredName
        blanks1)).first?
      ⟨b, (name.map fun n => "as".toList ++ ([' '] ++ (n ++ [' ']))).getD [] ++
        (origin.text ++ t)⟩ = some (y, ⟨lastOr b
          ((name.map fun n => "as".toList ++ ([' '] ++ (n ++ [' ']))).getD []),
            origin.text ++ t⟩) := by
    intro b t
    rw [origin.text_append]
    cases given : name with
    | none => exact ⟨_, first?_opt_none rfl⟩
    | some n =>
      have hn := declared n given
      have space : isDeclaredRest ' ' = false := by decide
      rw [Option.map_some, Option.getD_some]
      simp only [List.append_assoc, lastOr_append]
      exact ⟨_, first?_opt (first?_then (first?_text "as") (first?_then
        (first?_most1 (by simp) blank_space (hn.head?_isBlank _)) (first?_then
          (first?_declaredName hn space) (first?_most1 (by simp) blank_space rfl))))⟩
  have opens : ((name.map fun n => "as".toList ++ ([' '] ++ (n ++ [' ']))).getD [] ++
      (origin.text ++ ';' :: s)).head?.any isBlank = false := by
    rw [origin.text_append]
    cases name <;> rfl
  have whole : exported (starred name origin) ++ s = [] ++ ("export".toList ++ ([' '] ++
      ("*".toList ++ ([' '] ++ ((name.map fun n => "as".toList ++ ([' '] ++ (n ++ [' ']))).getD [] ++
        (origin.text ++ ';' :: s)))))) := by
    simp only [starred, exported_eq, List.append_assoc, List.cons_append, List.nil_append]
    rfl
  obtain ⟨y, here⟩ := named (lastOr (lastOr (lastOr (lastOr (lastOr b []) "export".toList) [' '])
    "*".toList) [' ']) (';' :: s)
  rw [origin.text_append] at here opens whole
  rw [whole]
  exact first?_then (first?_here start) (first?_then (first?_most noIndent rfl)
    (first?_then (first?_text "export") (first?_then (first?_most blank_space rfl)
      (first?_then (first?_text "*") (first?_then (first?_most blank_space opens)
        (first?_then here (first?_then (first?_text "from") (first?_then
          (first?_most blank_space (not_isBlank_of_isQuote origin.quotes)) (first?_then
            (first?_quotedModule plain) (first?_statementEnd ends))))))))))

theorem declarationWord_letters {w : String} (h : w ∈ Entry.declarationWords) :
    ∀ c ∈ w.toList, isWord c = true := by
  have table : Entry.declarationWords.all (·.toList.all isWord) = true := by
    decide
  exact List.all_eq_true.mp (List.all_eq_true.mp table w h)

theorem declarationWord_eq {w : String} (h : w ∈ Entry.declarationWords) :
    ∃ c more, w.toList = c :: more ∧ isWord c = true := by
  obtain ⟨c, more, word⟩ := List.exists_cons_of_ne_nil (unbroken_putWords (mem_putWords h)).1
  exact ⟨c, more, word, declarationWord_letters h c (by simp [word])⟩

theorem word_eq_of_append {v w : String} (hv : ∀ c ∈ v.toList, isWord c = true)
    (hw : ∀ c ∈ w.toList, isWord c = true) (hs : s.head?.any isWord = false)
    (ht : t.head?.any isWord = false) (same : v.toList ++ s = w.toList ++ t) : v = w ∧ s = t := by
  obtain ⟨word, rest⟩ := run_eq_of_stops hv hw hs ht same
  exact ⟨String.toList_inj.mp word, rest⟩

theorem first?_declared {w : String} (known : w ∈ Entry.declarationWords)
    (stops : s.head?.any isWord = false) (start : startsLine b = true) :
    ∃ x c, Entry.exportDeclaration.first? ⟨b, exported (w.toList ++ s)⟩ = some (x, ⟨c, s⟩) ∧
      x.1.text ++ x.2.text = w.toList := by
  have only : ∀ b (u : Unit) q, (u, q) ∈ Entry.keyword Entry.declarationWords
      ⟨b, w.toList ++ s⟩ → q = ⟨lastOr b w.toList, s⟩ := by
    intro b u q way
    obtain ⟨v, hv, t, parts, rfl, edges⟩ := mem_keyword way
    rw [lastOr_keyword _ hv] at edges
    obtain ⟨rfl, rfl⟩ := word_eq_of_append (declarationWord_letters known)
      (declarationWord_letters hv) stops (by simpa using edges) parts
    rfl
  have way := fun b => reaches_keyword (b := b) (s := s) known
    (by rw [lastOr_keyword _ known, stops]; decide)
  obtain ⟨u, word⟩ := first?_of_ends ⟨_, way (lastOr (lastOr (lastOr b []) "export".toList) [' '])⟩
    (only _)
  have opens : (w.toList ++ s).head?.any isBlank = false := by
    obtain ⟨c, more, word, letter⟩ := declarationWord_eq known
    rw [word]
    exact not_isBlank_of_isWord letter
  have whole : exported (w.toList ++ s) =
      [] ++ ("export".toList ++ ([' '] ++ (w.toList ++ s))) := rfl
  rw [whole]
  refine ⟨_, _, first?_then (first?_here start) (first?_then (first?_most noIndent rfl)
    (first?_then (first?_text "export") (first?_then (first?_most1 (by simp) blank_space opens)
      (first?_then (first?_span word) rfl)))), ?_⟩
  rw [Span.text_append, Span.text_append]
  rfl

theorem quoteless_of_declared {n : List Char} (h : Entry.Declared n) : Quoteless n := by
  intro c hc
  cases quote : isQuote c with
  | false => rfl
  | true =>
    have letter := h c hc
    simp only [isQuote, Bool.or_eq_true, beq_iff_eq] at quote
    rcases quote with rfl | rfl <;> exact absurd letter (by decide)

variable {q : Place} {w : Unit}

theorem closing_of_statementEnd (way : (w, q) ∈ Entry.statementEnd ⟨b, s⟩) :
    ∃ read, s = read ++ q.ahead ∧ Closing read ∧ firstLine q.ahead = [] := by
  have ends : firstLine q.ahead = [] := endsLine_statementEnd _ _ _ way
  obtain ⟨_, p₁, h₁, tail₁⟩ := mem_bind.mp way
  obtain ⟨gap, s₁, rfl, hg, rfl, -⟩ := mem_least.mp (mem_most.mp h₁)
  obtain ⟨_, p₂, h₂, tail₂⟩ := mem_bind.mp tail₁
  obtain ⟨_, p₃, h₃, tail₃⟩ := mem_bind.mp tail₂
  obtain ⟨gap', s₃, parts₃, hg', rfl, -⟩ := mem_least.mp (mem_most.mp h₃)
  obtain ⟨-, rfl⟩ := mem_here.mp tail₃
  rcases mem_opt.mp h₂ with ⟨c, hc, -⟩ | ⟨-, rfl⟩
  · obtain ⟨same, s₂, rfl, rfl⟩ := mem_char.mp hc
    obtain rfl : c = ';' := by simpa using same
    obtain rfl : s₂ = gap' ++ s₃ := parts₃
    exact ⟨gap ++ ([';'] ++ gap'), by simp, ⟨gap, [';'], gap', rfl, hg, hg', .inr rfl⟩, ends⟩
  · obtain rfl : s₁ = gap' ++ s₃ := parts₃
    exact ⟨gap ++ ([] ++ gap'), by simp, ⟨gap, [], gap', rfl, hg, hg', .inl rfl⟩, ends⟩

theorem filler_of_statementEnd (way : (w, q) ∈ Entry.statementEnd ⟨b, s⟩) :
    ∀ c ∈ firstLine s, Entry.isFiller c = true := by
  obtain ⟨read, rfl, closing, ends⟩ := closing_of_statementEnd way
  have unbroken : '\n' ∉ read := by
    obtain ⟨gap, semicolon, gap', rfl, hg, hg', rfl | rfl⟩ := closing
    · simp [hg.noBreak, hg'.noBreak]
    · simp [hg.noBreak, hg'.noBreak]
  rw [firstLine_append unbroken, ends, List.append_nil]
  exact closing_filler closing

theorem quotedModule_of_mem (way : (w, q) ∈ Entry.quotedModule ⟨b, s⟩) :
    ∃ c name d, s = c :: (name ++ d :: q.ahead) ∧ isQuote c = true ∧ Quoteless name ∧
      isQuote d = true := by
  obtain ⟨c, p₁, h₁, tail₁⟩ := mem_bind.mp way
  obtain ⟨hc, s₁, rfl, rfl⟩ := mem_char.mp h₁
  obtain ⟨_, p₂, h₂, tail₂⟩ := mem_bind.mp tail₁
  obtain ⟨name, s₂, rfl, hn, rfl, -⟩ := mem_least.mp (mem_most.mp h₂)
  obtain ⟨d, p₃, h₃, tail₃⟩ := mem_bind.mp tail₂
  obtain ⟨hd, s₃, rfl, rfl⟩ := mem_char.mp h₃
  obtain ⟨-, rfl⟩ := mem_pure.mp tail₃
  exact ⟨c, name, d, rfl, hc, fun e he => by simpa [isQuote] using hn e he, hd⟩

/-- If the name between quotes has a quote itself, the line does not end behind that one. -/
theorem Origin.unended (o : Origin) (mixed : ¬o.Plain) {name rest : List Char} {d : Char}
    (plain : Quoteless name) (same : o.name ++ o.quote :: s = name ++ d :: rest) :
    (w, q) ∉ Entry.statementEnd ⟨b, rest⟩ := by
  have inside : ∃ more, o.name = name ++ d :: more ∧ rest = more ++ o.quote :: s := by
    rcases List.append_eq_append_iff.mp same with ⟨more, rfl, behind⟩ | ⟨more, whole, behind⟩
    · cases more with
      | nil =>
        refine absurd (fun c hc => ?_) mixed
        simpa using plain c (by simpa using hc)
      | cons c more =>
        obtain ⟨rfl, -⟩ := List.cons.inj behind
        have quoteless : (!isQuote o.quote) = true := plain o.quote (by simp)
        simp [o.quotes] at quoteless
    · cases more with
      | nil =>
        refine absurd (fun c hc => ?_) mixed
        rw [whole, List.append_nil] at hc
        simpa using plain c hc
      | cons c more =>
        obtain ⟨rfl, rest⟩ := List.cons.inj behind
        exact ⟨more, whole, rest⟩
  obtain ⟨more, whole, rfl⟩ := inside
  intro way
  have unbroken : '\n' ∉ more := fun member => o.unbroken (by simp [whole, member])
  have feed : o.quote ≠ '\n' := by
    rcases o.quote_cases with same | same <;> rw [same] <;> decide
  have filler := filler_of_statementEnd way o.quote (by
    rw [firstLine_append unbroken, firstLine_cons feed]
    simp)
  rcases o.quote_cases with same | same <;> rw [same] at filler <;> exact absurd filler (by decide)

theorem listClose_reads (way : (w, q) ∈ listClose ⟨b, s⟩) :
    ∃ gap more, s = gap ++ more ∧ Blank gap ∧
      ((∃ b w, (w, q) ∈ Entry.statementEnd ⟨b, more⟩) ∨
        ∃ gap' c name d rest b w, more = "from".toList ++ (gap' ++ c :: (name ++ d :: rest)) ∧
          Blank gap' ∧ isQuote c = true ∧ Quoteless name ∧ isQuote d = true ∧
          (w, q) ∈ Entry.statementEnd ⟨b, rest⟩) := by
  obtain ⟨_, p₁, h₁, tail₁⟩ := mem_bind.mp way
  obtain ⟨gap, more, rfl, hg, rfl, -⟩ := mem_least.mp (mem_most.mp h₁)
  refine ⟨gap, more, rfl, hg, ?_⟩
  obtain ⟨_, p₂, h₂, tail₂⟩ := mem_bind.mp tail₁
  rcases mem_opt.mp h₂ with ⟨_, origin, -⟩ | ⟨-, rfl⟩
  · obtain ⟨_, p₃, h₃, tail₃⟩ := mem_bind.mp origin
    obtain ⟨s₃, rfl, rfl⟩ := mem_text.mp h₃
    obtain ⟨_, p₄, h₄, tail₄⟩ := mem_bind.mp tail₃
    obtain ⟨gap', s₄, rfl, hg', rfl, -⟩ := mem_least.mp (mem_most.mp h₄)
    obtain ⟨c, name, d, rfl, hc, hn, hd⟩ := quotedModule_of_mem tail₄
    exact .inr ⟨gap', c, name, d, p₂.ahead, p₂.behind, w, rfl, hg', hc, hn, hd, tail₂⟩
  · exact .inl ⟨_, w, tail₂⟩

theorem exportList_reads (way : (w, q) ∈ Entry.exportList ⟨b, s⟩) :
    ∃ indent gap word inner rest, s = indent ++ ("export".toList ++ (gap ++ (word ++
        '\x7b' :: (inner ++ '\x7d' :: rest)))) ∧ InlineBlank indent ∧ Blank gap ∧
      (word = [] ∨ ∃ g, word = "type".toList ++ g ∧ Blank g ∧ g ≠ []) ∧ '\x7d' ∉ inner ∧
      ∃ b w, (w, q) ∈ listClose ⟨b, rest⟩ := by
  rw [exportList_eq] at way
  obtain ⟨_, p, head, close⟩ := mem_bind.mp way
  obtain ⟨_, p₁, h₁, tail₁⟩ := mem_bind.mp head
  obtain ⟨-, rfl⟩ := mem_here.mp h₁
  obtain ⟨_, p₂, h₂, tail₂⟩ := mem_bind.mp tail₁
  obtain ⟨indent, s₂, rfl, hi, rfl, -⟩ := mem_least.mp (mem_most.mp h₂)
  obtain ⟨_, p₃, h₃, tail₃⟩ := mem_bind.mp tail₂
  obtain ⟨s₃, rfl, rfl⟩ := mem_text.mp h₃
  obtain ⟨_, p₄, h₄, tail₄⟩ := mem_bind.mp tail₃
  obtain ⟨gap, s₄, rfl, -, hg, rfl, -⟩ := mem_least1.mp (mem_most1.mp h₄)
  obtain ⟨_, p₅, h₅, tail₅⟩ := mem_bind.mp tail₄
  obtain ⟨_, p₆, h₆, tail₆⟩ := mem_bind.mp tail₅
  obtain ⟨s₆, parts₆, rfl⟩ := mem_text.mp h₆
  obtain ⟨_, p₇, h₇, tail₇⟩ := mem_bind.mp tail₆
  obtain ⟨inner, s₇, rfl, hn, rfl, -⟩ := mem_least.mp (mem_most.mp h₇)
  obtain ⟨rest, rfl, rfl⟩ := mem_text.mp tail₇
  have braceless : '\x7d' ∉ inner := fun member => by simpa using hn _ member
  have word : ∃ word, s₄ = word ++ p₅.ahead ∧
      (word = [] ∨ ∃ g, word = "type".toList ++ g ∧ Blank g ∧ g ≠ []) := by
    rcases mem_opt.mp h₅ with ⟨_, type, -⟩ | ⟨-, rfl⟩
    · obtain ⟨_, r, hr, tail⟩ := mem_bind.mp type
      obtain ⟨s', rfl, rfl⟩ := mem_text.mp hr
      obtain ⟨g, s'', rfl, some, hg', rfl, -⟩ := mem_least1.mp (mem_most1.mp tail)
      exact ⟨"type".toList ++ g, (List.append_assoc ..).symm, .inr ⟨g, rfl, hg', some⟩⟩
    · exact ⟨[], rfl, .inl rfl⟩
  obtain ⟨word, rfl, hw⟩ := word
  refine ⟨indent, gap, word, inner, rest, ?_, hi, hg, hw, braceless, _, w, close⟩
  rw [parts₆]
  rfl

theorem exportStar_reads (way : (w, q) ∈ Entry.exportStar ⟨b, s⟩) :
    ∃ indent gap lead c name d rest, s = indent ++ ("export".toList ++ (gap ++ '*' ::
        (lead ++ c :: (name ++ d :: rest)))) ∧ InlineBlank indent ∧ Blank gap ∧ Quoteless lead ∧
      isQuote c = true ∧ Quoteless name ∧ isQuote d = true ∧
      ∃ b w, (w, q) ∈ Entry.statementEnd ⟨b, rest⟩ := by
  obtain ⟨_, p₁, h₁, tail₁⟩ := mem_bind.mp way
  obtain ⟨-, rfl⟩ := mem_here.mp h₁
  obtain ⟨_, p₂, h₂, tail₂⟩ := mem_bind.mp tail₁
  obtain ⟨indent, s₂, rfl, hi, rfl, -⟩ := mem_least.mp (mem_most.mp h₂)
  obtain ⟨_, p₃, h₃, tail₃⟩ := mem_bind.mp tail₂
  obtain ⟨s₃, rfl, rfl⟩ := mem_text.mp h₃
  obtain ⟨_, p₄, h₄, tail₄⟩ := mem_bind.mp tail₃
  obtain ⟨gap, s₄, rfl, hg, rfl, -⟩ := mem_least.mp (mem_most.mp h₄)
  obtain ⟨_, p₅, h₅, tail₅⟩ := mem_bind.mp tail₄
  obtain ⟨s₅, rfl, rfl⟩ := mem_text.mp h₅
  obtain ⟨_, p₆, h₆, tail₆⟩ := mem_bind.mp tail₅
  obtain ⟨gap₆, s₆, rfl, hg₆, rfl, -⟩ := mem_least.mp (mem_most.mp h₆)
  obtain ⟨_, p₇, h₇, tail₇⟩ := mem_bind.mp tail₆
  obtain ⟨_, p₈, h₈, tail₈⟩ := mem_bind.mp tail₇
  obtain ⟨s₈, parts₈, rfl⟩ := mem_text.mp h₈
  obtain ⟨_, p₉, h₉, tail₉⟩ := mem_bind.mp tail₈
  obtain ⟨gap₉, s₉, rfl, hg₉, rfl, -⟩ := mem_least.mp (mem_most.mp h₉)
  obtain ⟨_, r, hr, close⟩ := mem_bind.mp tail₉
  obtain ⟨c, name, d, rfl, hc, hn, hd⟩ := quotedModule_of_mem hr
  have named : ∃ named, s₆ = named ++ p₇.ahead ∧ Quoteless named := by
    rcases mem_opt.mp h₇ with ⟨_, as, -⟩ | ⟨-, rfl⟩
    · obtain ⟨_, r₁, hr₁, more₁⟩ := mem_bind.mp as
      obtain ⟨t₁, rfl, rfl⟩ := mem_text.mp hr₁
      obtain ⟨_, r₂, hr₂, more₂⟩ := mem_bind.mp more₁
      obtain ⟨g, t₂, rfl, -, hg', rfl, -⟩ := mem_least1.mp (mem_most1.mp hr₂)
      obtain ⟨_, r₃, hr₃, more₃⟩ := mem_bind.mp more₂
      obtain ⟨n, hn, rfl, -⟩ := Entry.declaredName_reads hr₃
      obtain ⟨g', t₃, parts, -, hg'', rfl, -⟩ := mem_least1.mp (mem_most1.mp more₃)
      have word : Quoteless "as".toList := by simp [Quoteless, isQuote]
      refine ⟨"as".toList ++ (g ++ (n ++ g')), ?_, quoteless_append word (quoteless_append
        (quoteless_of_blank hg') (quoteless_append (quoteless_of_declared hn.declared)
          (quoteless_of_blank hg'')))⟩
      rw [parts]
      simp only [List.append_assoc]
    · exact ⟨[], rfl, fun _ member => absurd member List.not_mem_nil⟩
  obtain ⟨named, rfl, hnamed⟩ := named
  have word : Quoteless "from".toList := by simp [Quoteless, isQuote]
  refine ⟨indent, gap, gap₆ ++ (named ++ ("from".toList ++ gap₉)), c, name, d, r.ahead, ?_, hi, hg,
    quoteless_append (quoteless_of_blank hg₆) (quoteless_append hnamed
      (quoteless_append word (quoteless_of_blank hg₉))), hc, hn, hd, r.behind, w, close⟩
  rw [parts₈]
  simp only [List.append_assoc]
  rfl

theorem behind_export {indent gap : List Char} {c d : Char} (hi : InlineBlank indent)
    (hg : Blank gap) (hc : isBlank c = false) (hd : isBlank d = false)
    (same : exported (c :: s) = indent ++ ("export".toList ++ (gap ++ d :: t))) :
    c :: s = d :: t := by
  have word : "export".toList = 'e' :: "xport".toList := rfl
  rw [exported_eq, word, List.cons_append, List.cons_append] at same
  obtain ⟨rfl, -, behind⟩ := noIndent.blank.eq_of_append hi.blank (by decide) (by decide) same
  obtain ⟨-, rfl, rfl⟩ :=
    blank_space.eq_of_append hg hc hd (List.append_cancel_left behind)
  rfl

theorem behind_mark {c : Char} {read back : List Char} (free : c ∉ read)
    (same : back ++ c :: s = read ++ t) : ∃ more, back = read ++ more ∧ t = more ++ c :: s := by
  rcases List.append_eq_append_iff.mp same with ⟨more, rfl, behind⟩ | ⟨more, whole, behind⟩
  · cases more with
    | nil => exact ⟨[], by simp, behind.symm⟩
    | cons d more =>
      obtain ⟨rfl, -⟩ := List.cons.inj behind
      exact absurd (by simp) free
  · exact ⟨more, whole, behind⟩

def DefaultLed (s : List Char) : Prop :=
  ∃ head gap rest, s = head ++ (gap ++ rest) ∧ DefaultHead head ∧ Blank gap ∧ gap ≠ []

theorem DefaultLed.exportLed (h : DefaultLed s) : ExportLed s := by
  obtain ⟨head, gap, rest, rfl, ⟨indent, gap', rfl, hi, hg', some⟩, -⟩ := h
  refine ⟨indent, gap' ++ ("default".toList ++ (gap ++ rest)), ?_, hi, head?_of_blanks some hg'⟩
  simp only [List.append_assoc]

/-- What goes on with another character than a letter or a blank does not lengthen the words. -/
theorem DefaultLed.of_append {c : Char} (h : DefaultLed (t ++ c :: s)) (blank : isBlank c = false)
    (word : isWord c = false) : DefaultLed t := by
  obtain ⟨head, gap, rest, parts, hd, hg, some⟩ := h
  have free : c ∉ head ++ gap := by
    obtain ⟨indent, gap', rfl, hi, hg', -⟩ := hd
    have letters : ∀ d ∈ "export".toList ++ "default".toList, isWord d = true :=
      List.all_eq_true.mp rfl
    intro member
    have inside : isBlank c = true ∨ isWord c = true := by
      simp only [List.mem_append] at member
      rcases member with (hc | hc | hc | hc) | hc
      · exact .inl (hi.blank c hc)
      · exact .inr (letters c (List.mem_append_left _ hc))
      · exact .inl (hg' c hc)
      · exact .inr (letters c (List.mem_append_right _ hc))
      · exact .inl (hg c hc)
    simp [blank, word] at inside
  rw [← List.append_assoc] at parts
  obtain ⟨more, rfl, -⟩ := behind_mark free parts
  exact ⟨head, gap, more, List.append_assoc .., hd, hg, some⟩

section Opens

variable {c : Char} (hc : isBlank c = false)

include hc

theorem exportList_opens (way : (w, q) ∈ Entry.exportList ⟨b, exported (c :: s)⟩) :
    ∃ word inner rest, c :: s = word ++ '\x7b' :: (inner ++ '\x7d' :: rest) ∧
      (word = [] ∨ ∃ g, word = "type".toList ++ g ∧ Blank g ∧ g ≠ []) ∧ '\x7d' ∉ inner ∧
      ∃ b w, (w, q) ∈ listClose ⟨b, rest⟩ := by
  obtain ⟨indent, gap, word, inner, rest, parts, hi, hg, hw, braceless, close⟩ :=
    exportList_reads way
  refine ⟨word, inner, rest, ?_, hw, braceless, close⟩
  rcases hw with rfl | ⟨g, rfl, -⟩
  · exact behind_export hi hg hc (by decide) parts
  · exact behind_export (d := 't') hi hg hc (by decide) parts

theorem exportStar_opens (way : (w, q) ∈ Entry.exportStar ⟨b, exported (c :: s)⟩) :
    ∃ lead d name e rest, c :: s = '*' :: (lead ++ d :: (name ++ e :: rest)) ∧ Quoteless lead ∧
      isQuote d = true ∧ Quoteless name ∧ isQuote e = true ∧
      ∃ b w, (w, q) ∈ Entry.statementEnd ⟨b, rest⟩ := by
  obtain ⟨indent, gap, lead, d, name, e, rest, parts, hi, hg, hl, hd, hn, he, close⟩ :=
    exportStar_reads way
  exact ⟨lead, d, name, e, rest, behind_export hi hg hc (by decide) parts, hl, hd, hn, he, close⟩

theorem exportDeclaration_opens {x : Span × Span}
    (way : (x, q) ∈ Entry.exportDeclaration ⟨b, exported (c :: s)⟩) :
    ∃ v ∈ Entry.declarationWords, ∃ rest, c :: s = v.toList ++ rest ∧
      rest.head?.any isWord = false := by
  obtain ⟨indent, gap, v, hi, parts, -, -, hv, stops, hg, -⟩ := exportDeclaration_reads way
  obtain ⟨d, more, word, letter⟩ := declarationWord_eq hv
  refine ⟨v, hv, q.ahead, ?_, stops⟩
  dsimp only at parts
  rw [word] at parts ⊢
  exact behind_export hi hg hc (not_isBlank_of_isWord letter) parts

theorem defaultLed_opens (led : DefaultLed (exported (c :: s))) :
    ∃ rest, c :: s = "default".toList ++ rest ∧ rest.head?.any isWord = false := by
  obtain ⟨head, gap, rest, parts, ⟨indent, gap', rfl, hi, hg', -⟩, hg, some⟩ := led
  refine ⟨gap ++ rest, ?_, head?_of_blanks some hg⟩
  simp only [List.append_assoc] at parts
  exact behind_export (d := 'd') hi hg' hc (by decide) parts

theorem exportList_unread (brace : c ≠ '\x7b') (letter : c ≠ 't') :
    Entry.exportList.first? ⟨b, exported (c :: s)⟩ = none := by
  refine first?_eq_none fun w q way => ?_
  obtain ⟨word, inner, rest, parts, rfl | ⟨g, rfl, -⟩, -⟩ := exportList_opens hc way
  · exact brace (List.cons.inj parts).1
  · exact letter (List.cons.inj parts).1

theorem exportStar_unread (other : c ≠ '*') :
    Entry.exportStar.first? ⟨b, exported (c :: s)⟩ = none := by
  refine first?_eq_none fun w q way => ?_
  obtain ⟨lead, d, name, e, rest, parts, -⟩ := exportStar_opens hc way
  exact other (List.cons.inj parts).1

theorem exportDeclaration_unread (other : isWord c = false) :
    Entry.exportDeclaration.first? ⟨b, exported (c :: s)⟩ = none := by
  refine first?_eq_none fun x q way => ?_
  obtain ⟨v, hv, rest, parts, -⟩ := exportDeclaration_opens hc way
  obtain ⟨d, more, word, letter⟩ := declarationWord_eq hv
  rw [word] at parts
  rw [(List.cons.inj parts).1, letter] at other
  cases other

theorem leftoverDefault_unread (other : c ≠ 'd') :
    Entry.leftoverDefault.first? ⟨b, exported (c :: s)⟩ = none := by
  refine first?_eq_none fun x q way => ?_
  obtain ⟨r, u, begins⟩ := leftoverDefault_begins way
  obtain ⟨-, head, gap, parts, hd, hg, some⟩ := lineExportDefault_reads begins
  obtain ⟨rest, same, -⟩ := defaultLed_opens hc ⟨head, gap, r.ahead, parts, hd, hg, some⟩
  exact other (List.cons.inj same).1

end Opens

variable {isType : Bool} {inner : List Char} {origin : Option Origin}

theorem braced_reads
    (way : (w, q) ∈ Entry.exportList ⟨b, exported (braced isType inner origin) ++ s⟩) :
    ∃ front rest, '\x7d' ∉ front ∧
      front ++ '\x7d' :: rest = inner ++ '\x7d' :: (originText origin ++ ';' :: s) ∧
      ∃ b w, (w, q) ∈ listClose ⟨b, rest⟩ := by
  have shape : exported (braced isType inner origin) ++ s =
      exported ((if isType then "type".toList ++ [' '] else []) ++ '\x7b' :: (inner ++
        '\x7d' :: (originText origin ++ ';' :: s))) := by
    simp [exported_eq, braced]
  rw [shape] at way
  cases isType with
  | false =>
    obtain ⟨word, front, rest, parts, rfl | ⟨g, rfl, -⟩, braceless, close⟩ :=
      exportList_opens (c := '\x7b') (by decide) way
    · exact ⟨front, rest, braceless, (List.cons.inj parts).2.symm, close⟩
    · cases (List.cons.inj parts).1
  | true =>
    obtain ⟨word, front, rest, parts, rfl | ⟨g, rfl, hg, -⟩, braceless, close⟩ :=
      exportList_opens (c := 't') (by decide) way
    · cases (List.cons.inj parts).1
    · have behind : [' '] ++ '\x7b' :: (inner ++ '\x7d' :: (originText origin ++ ';' :: s)) =
          g ++ '\x7b' :: (front ++ '\x7d' :: rest) := by
        have whole : "type".toList ++ ([' '] ++ '\x7b' :: (inner ++
            '\x7d' :: (originText origin ++ ';' :: s))) =
          "type".toList ++ (g ++ '\x7b' :: (front ++ '\x7d' :: rest)) := by
          rw [← List.append_assoc _ g]
          exact parts
        exact List.append_cancel_left whole
      obtain ⟨-, -, same⟩ := blank_space.eq_of_append hg (by decide) (by decide) behind
      exact ⟨front, rest, braceless, same.symm, close⟩

theorem braceless_iff {t : List Char} : '\x7d' ∉ t ↔ ∀ c ∈ t, (c != '\x7d') = true := by
  simp only [bne_iff_ne]
  exact ⟨fun free c hc same => free (same ▸ hc), fun all member => all _ member rfl⟩

theorem braced_unread {o : Origin} (braceless : '\x7d' ∉ inner) (mixed : ¬o.Plain) :
    Entry.exportList.first? ⟨b, exported (braced isType inner (some o)) ++ s⟩ = none := by
  refine first?_eq_none fun w q way => ?_
  obtain ⟨front, rest, braceless', parts, b', w', close⟩ := braced_reads way
  obtain ⟨-, -, rfl⟩ := run_eq_of_append (braceless_iff.mp braceless') (braceless_iff.mp braceless)
    (by decide) (by decide) parts
  obtain ⟨gap, more, behind, hg, ⟨b'', w'', ends⟩ |
    ⟨gap', c, name, d, rest, b'', w'', rfl, hg', hc, hn, -, ends⟩⟩ := listClose_reads close
  · have letter : 'f' ∈ firstLine more := by
      cases gap with
      | nil =>
        obtain rfl : originText (some o) ++ ';' :: s = more := behind
        exact List.mem_cons_of_mem _ List.mem_cons_self
      | cons c gap =>
        have tail := (List.cons.inj behind).2
        obtain rfl : gap = [] := run_eq_nil (fun e he => hg e (by simp [he])) (by decide) tail.symm
        rw [← show _ = more from tail]
        exact List.mem_cons_self
    exact absurd (filler_of_statementEnd ends 'f' letter) (by decide)
  · have clause : [' '] ++ 'f' :: ("rom".toList ++ ([' '] ++ o.quote :: (o.name ++
        o.quote :: ';' :: s))) =
          gap ++ 'f' :: ("rom".toList ++ (gap' ++ c :: (name ++ d :: rest))) := by
      have text := o.text_append (';' :: s)
      exact (congrArg (' ' :: ·) text.symm).trans behind
    obtain ⟨-, -, same⟩ := blank_space.eq_of_append hg (by decide) (by decide) clause
    obtain ⟨-, -, same⟩ := blank_space.eq_of_append hg' (not_isBlank_of_isQuote o.quotes)
      (not_isBlank_of_isQuote hc) (List.append_cancel_left same)
    exact o.unended mixed hn same ends

theorem starred_unread {name : Option (List Char)} {o : Origin}
    (declared : ∀ n, name = some n → IsDeclaredName n) (mixed : ¬o.Plain) :
    Entry.exportStar.first? ⟨b, exported (starred name o) ++ s⟩ = none := by
  refine first?_eq_none fun w q way => ?_
  have shape : exported (starred name o) ++ s = exported ('*' :: (([' '] ++ ((name.map fun n =>
      "as".toList ++ ([' '] ++ (n ++ [' ']))).getD [] ++ ("from".toList ++ [' ']))) ++
        o.quote :: (o.name ++ o.quote :: ';' :: s))) := by
    simp [exported_eq, starred, Origin.text_eq]
  rw [shape] at way
  obtain ⟨lead, c, module, d, rest, parts, hl, hc, hn, -, b', w', ends⟩ :=
    exportStar_opens (by decide) way
  have word : Quoteless "as".toList ∧ Quoteless "from".toList := by simp [Quoteless, isQuote]
  have space : Quoteless [' '] := quoteless_of_blank blank_space
  have quoteless : Quoteless ([' '] ++ ((name.map fun n => "as".toList ++ ([' '] ++ (n ++
      [' ']))).getD [] ++ ("from".toList ++ [' ']))) := by
    refine quoteless_append space (quoteless_append ?_ (quoteless_append word.2 space))
    cases given : name with
    | none => exact fun _ member => absurd member List.not_mem_nil
    | some n =>
      exact quoteless_append word.1 (quoteless_append space
        (quoteless_append (quoteless_of_declared (declared n given).declared) space))
  obtain ⟨-, rfl, same⟩ := run_eq_of_append quoteless hl (by simp [o.quotes]) (by simp [hc])
    (List.cons.inj parts).2
  exact o.unended mixed hn same ends

/-- A list that a brace ends early is read up to the end of a line inside it, if it is read. -/
theorem braced_cut {front back : List Char} (braceless : '\x7d' ∉ front)
    (whole : inner = front ++ '\x7d' :: back)
    (noOrigin : ∀ gap more, Blank gap → back ≠ gap ++ ("from".toList ++ more))
    (way : (w, q) ∈ Entry.exportList ⟨b, exported (braced isType inner origin) ++ s⟩) :
    ∃ run rest, exported (braced isType inner origin) = run ++ rest ∧ q.ahead = rest ++ s ∧
      run ≠ [] ∧ rest ≠ [] ∧ firstLine rest = [] := by
  obtain ⟨-, -, run, some, ahead⟩ := (exportList_led.startsStatement (.inr rfl)) _ _ q way
  obtain ⟨front', rest, braceless', parts, b', w', close⟩ := braced_reads way
  subst whole
  rw [List.append_assoc, List.cons_append] at parts
  obtain ⟨-, -, rfl⟩ := run_eq_of_append (braceless_iff.mp braceless') (braceless_iff.mp braceless)
    (by decide) (by decide) parts
  obtain ⟨gap, more, behind, hg, ⟨b'', w'', ends⟩ |
    ⟨gap', c, name, d, rest, b'', w'', rfl, -⟩⟩ := listClose_reads close
  · obtain ⟨read, rfl, closing, line⟩ := closing_of_statementEnd ends
    have free : '\x7d' ∉ gap ++ read := by
      intro member
      rcases List.mem_append.mp member with blank | filler
      · exact absurd (hg _ blank) (by decide)
      · exact absurd (closing_filler closing _ filler) (by decide)
    rw [← List.append_assoc] at behind
    obtain ⟨more, rfl, here⟩ := behind_mark free behind
    refine ⟨run, more ++ '\x7d' :: (originText origin ++ [';']), ?_, by simp [here], some,
      by simp, ?_⟩
    · rw [here] at ahead
      have both : exported (braced isType (front ++ '\x7d' :: (gap ++ read ++ more)) origin) ++ s =
          run ++ (more ++ '\x7d' :: (originText origin ++ [';'])) ++ s := by
        rw [show exported _ ++ s = _ from ahead]
        simp
      exact List.append_cancel_right both
    · rw [here] at line
      cases more with
      | nil => exact absurd line (by simp [firstLine_cons])
      | cons c more =>
        rcases line_cases line with none | ⟨_, feed⟩
        · cases none
        · rw [(List.cons.inj feed).1]
          rfl
  · have free : '\x7d' ∉ gap ++ "from".toList := by
      intro member
      rcases List.mem_append.mp member with blank | letter
      · exact absurd (hg _ blank) (by decide)
      · exact absurd letter (by decide)
    rw [← List.append_assoc] at behind
    obtain ⟨more, rfl, -⟩ := behind_mark free behind
    exact absurd (List.append_assoc ..) (noOrigin gap more hg)

end PagePreview
