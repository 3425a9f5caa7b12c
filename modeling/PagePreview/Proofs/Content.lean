import PagePreview.Content
import PagePreview.Proofs.Names
import PagePreview.Proofs.Scan
import PagePreview.Proofs.Seams

/-!
# Page sources that import

A text that opens like neither an object nor a list is taken for a page source exactly if it says
`export default` or says an import. An import is said on one line, from what follows its first blanks
to `from`, and with a blank in front of the quote. The scan wants neither, so it finds imports that
are not said: whether one is, its layout tells.
-/

namespace PagePreview
open Text Matcher
open Reference (isQuote isModuleChar isClauseChar)

variable {s before after : List Char}

namespace Content

theorem isQuote_eq (c : Char) : Content.isQuote c = Reference.isQuote c := Bool.or_comm _ _

def SaysDefault (s : List Char) : Prop :=
  ∃ before gap after, s = before ++ ("export".toList ++ (gap ++ ("default".toList ++ after))) ∧
    Blank gap ∧ gap ≠ []

/-- `import`, blanks, a stretch of one line up to `from`, blanks, and a text in quotes. -/
def SaysImport (s : List Char) : Prop :=
  ∃ before gap run gap' quote name quote' after,
    s = before ++ ("import".toList ++ (gap ++ (run ++ ("from".toList ++ (gap' ++
      quote :: (name ++ quote' :: after)))))) ∧
    Blank gap ∧ gap ≠ [] ∧ run ≠ [] ∧ '\n' ∉ run ∧ Blank gap' ∧ gap' ≠ [] ∧
    isQuote quote = true ∧ name ≠ [] ∧ (∀ c ∈ name, isQuote c = false) ∧ isQuote quote' = true

theorem occurs_exportsDefault : exportsDefault.occurs s = true ↔ SaysDefault s := by
  rw [occurs_iff]
  constructor
  · rintro ⟨before, _, _, q, rfl, way⟩
    obtain ⟨_, p₁, h₁, tail₁⟩ := mem_bind.mp way
    obtain ⟨t, rfl, rfl⟩ := mem_text.mp h₁
    obtain ⟨_, p₂, h₂, tail₂⟩ := mem_bind.mp tail₁
    obtain ⟨gap, t₂, rfl, some, blank, rfl, -⟩ := mem_least1.mp (mem_most1.mp h₂)
    obtain ⟨t₃, rfl, -⟩ := mem_text.mp tail₂
    exact ⟨before, gap, t₃, rfl, blank, some⟩
  · rintro ⟨before, gap, after, rfl, blank, some⟩
    have reaches : exportsDefault.Reaches
        ⟨lastOr none before, "export".toList ++ (gap ++ ("default".toList ++ after))⟩ _ :=
      (reaches_text "export").bind fun _ => (reaches_most1 some blank).bind fun _ =>
        reaches_text "default"
    obtain ⟨a, way⟩ := reaches
    exact ⟨before, _, a, _, rfl, way⟩

theorem occurs_importsFrom : importsFrom.occurs s = true ↔ SaysImport s := by
  rw [occurs_iff]
  constructor
  · rintro ⟨before, _, _, q, rfl, way⟩
    obtain ⟨_, p₁, h₁, tail₁⟩ := mem_bind.mp way
    obtain ⟨t, rfl, rfl⟩ := mem_text.mp h₁
    obtain ⟨_, p₂, h₂, tail₂⟩ := mem_bind.mp tail₁
    obtain ⟨gap, t₂, rfl, gap_some, gap_blank, rfl, -⟩ := mem_least1.mp (mem_most1.mp h₂)
    obtain ⟨_, p₃, h₃, tail₃⟩ := mem_bind.mp tail₂
    obtain ⟨run, t₃, rfl, run_some, unbroken, rfl, -⟩ := mem_least1.mp (mem_most1.mp h₃)
    obtain ⟨_, p₄, h₄, tail₄⟩ := mem_bind.mp tail₃
    obtain ⟨t₄, rfl, rfl⟩ := mem_text.mp h₄
    obtain ⟨_, p₅, h₅, tail₅⟩ := mem_bind.mp tail₄
    obtain ⟨gap', t₅, rfl, gap'_some, gap'_blank, rfl, -⟩ := mem_least1.mp (mem_most1.mp h₅)
    obtain ⟨quote, p₆, h₆, tail₆⟩ := mem_bind.mp tail₅
    obtain ⟨quotes, t₆, rfl, rfl⟩ := mem_char.mp h₆
    obtain ⟨_, p₇, h₇, tail₇⟩ := mem_bind.mp tail₆
    obtain ⟨name, t₇, rfl, name_some, plain, rfl, -⟩ := mem_least1.mp (mem_most1.mp h₇)
    obtain ⟨quote', p₈, h₈, -⟩ := mem_bind.mp tail₇
    obtain ⟨quotes', t₈, rfl, -⟩ := mem_char.mp h₈
    refine ⟨before, gap, run, gap', quote, name, quote', t₈, rfl, gap_blank, gap_some, run_some,
      fun feed => by simpa using unbroken _ feed, gap'_blank, gap'_some, quotes, name_some,
      fun c hc => by simpa using plain c hc, quotes'⟩
  · rintro ⟨before, gap, run, gap', quote, name, quote', after, rfl, gap_blank, gap_some, run_some,
      unbroken, gap'_blank, gap'_some, quotes, name_some, plain, quotes'⟩
    have line : ∀ c ∈ run, (c != '\n') = true := by
      intro c hc
      rw [bne_iff_ne]
      rintro rfl
      exact unbroken hc
    have inner : ∀ c ∈ name, (!isQuote c) = true := fun c hc => by simp [plain c hc]
    have reaches : importsFrom.Reaches ⟨lastOr none before, "import".toList ++ (gap ++ (run ++
        ("from".toList ++ (gap' ++ quote :: (name ++ quote' :: after)))))⟩ _ :=
      (reaches_text "import").bind fun _ => (reaches_most1 gap_some gap_blank).bind fun _ =>
        (reaches_most1 run_some line).bind fun _ => (reaches_text "from").bind fun _ =>
          (reaches_most1 gap'_some gap'_blank).bind fun _ => (reaches_char quotes).bind fun _ =>
            (reaches_most1 name_some inner).bind fun _ => (reaches_char quotes').bind fun _ =>
              reaches_pure ()
    obtain ⟨a, way⟩ := reaches
    exact ⟨before, _, a, _, rfl, way⟩

theorem saysDefault_trim : SaysDefault (trim s) ↔ SaysDefault s := by
  constructor
  · rintro ⟨before, gap, after, parts, blank, some⟩
    obtain ⟨g, h, whole, -, -⟩ := trim_split s
    refine ⟨g ++ before, gap, after ++ h, ?_, blank, some⟩
    rw [whole, parts]
    simp only [List.append_assoc]
  · rintro ⟨before, gap, after, rfl, blank, some⟩
    have core : Trimmed ("export".toList ++ (gap ++ "default".toList)) :=
      Trimmed.enclose ⟨by decide, by decide⟩ (by decide) ⟨by decide, by decide⟩
        (by decide) gap
    obtain ⟨before', after', kept⟩ := core.within (by simp) before after
    refine ⟨before', gap, after', ?_, blank, some⟩
    simpa only [List.append_assoc] using kept

theorem saysImport_trim : SaysImport (trim s) ↔ SaysImport s := by
  constructor
  · rintro ⟨before, gap, run, gap', quote, name, quote', after, parts, rest⟩
    obtain ⟨g, h, whole, -, -⟩ := trim_split s
    refine ⟨g ++ before, gap, run, gap', quote, name, quote', after ++ h, ?_, rest⟩
    rw [whole, parts]
    simp only [List.append_assoc, List.cons_append]
  · rintro ⟨before, gap, run, gap', quote, name, quote', after, rfl, gap_blank, gap_some, run_some,
      unbroken, gap'_blank, gap'_some, quotes, name_some, plain, quotes'⟩
    have close : isBlank quote' = false := not_isBlank_of_isQuote (by rwa [← isQuote_eq])
    have core : Trimmed ("import".toList ++
        ((gap ++ (run ++ ("from".toList ++ (gap' ++ quote :: name)))) ++ [quote'])) :=
      Trimmed.enclose ⟨by decide, by decide⟩ (by decide)
        (trimmed_of_unblank (by simpa using close)) (by simp) _
    obtain ⟨before', after', kept⟩ := core.within (by simp) before after
    refine ⟨before', gap, run, gap', quote, name, quote', after', ?_, gap_blank, gap_some, run_some,
      unbroken, gap'_blank, gap'_some, quotes, name_some, plain, quotes'⟩
    simpa only [List.append_assoc, List.cons_append, List.nil_append] using kept

theorem isPageSource_iff {text : String} {c : Char} {rest : List Char}
    (opens : trim text.toList = c :: rest) (brace : c ≠ '\x7b') (bracket : c ≠ '[') :
    isPageSource (some text) = true ↔ SaysDefault text.toList ∨ SaysImport text.toList := by
  rw [← saysDefault_trim, ← saysImport_trim, ← occurs_exportsDefault, ← occurs_importsFrom]
  unfold isPageSource
  simp [opens, brace, bracket]

end Content

namespace BoundParts

/-- The clause is on the line of `from`, and a blank follows that word. -/
def IsInline (p : BoundParts) : Prop := p.gap'' ≠ [] ∧ '\n' ∉ p.clause ∧ '\n' ∉ p.gap'

theorem says_of_inline {p : BoundParts} (inline : p.IsInline) (before after : List Char) :
    Content.SaysImport (before ++ (p.text ++ after)) := by
  obtain ⟨some, clause, blanks⟩ := inline
  refine ⟨before, p.gap, p.clause ++ p.gap', p.gap'', p.quote, p.name, p.quote', after, ?_, p.gap_blank,
    p.gap_nonempty, by simp [p.clause_nonempty], by simp [clause, blanks], p.gap''_blank, some,
    ?_, p.name_nonempty, ?_, ?_⟩
  · rw [p.text_append]
    simp only [List.append_assoc]
  · rw [Content.isQuote_eq, p.quotes]
  · exact fun c hc => by simpa [isModuleChar, Content.isQuote_eq] using p.name_plain c hc
  · rw [Content.isQuote_eq, p.quotes']

/-- Where neither word stands anywhere else, an import is said only by its own layout. -/
theorem inline_of_says {p : BoundParts} (trimmed : Trimmed p.clause)
    (parts : s = before ++ (p.text ++ after))
    (one : ∀ x y, s = x ++ ("import".toList ++ y) → x = before)
    (one' : ∀ x y, s = x ++ ("from".toList ++ y) →
      x = before ++ ("import".toList ++ (p.gap ++ (p.clause ++ p.gap'))))
    (imports : Content.SaysImport s) : p.IsInline := by
  obtain ⟨before', gap, run, gap', quote, name, quote', after', said, gap_blank, gap_some, run_some,
    unbroken, gap'_blank, gap'_some, quotes, -⟩ := imports
  rw [Content.isQuote_eq] at quotes
  obtain rfl := one before' _ said
  have front : before' ++ ("import".toList ++ (gap ++ run)) =
      before' ++ ("import".toList ++ (p.gap ++ (p.clause ++ p.gap'))) :=
    one' _ (gap' ++ quote :: (name ++ quote' :: after')) (by simpa using said)
  have middle : gap ++ run = p.gap ++ (p.clause ++ p.gap') :=
    List.append_cancel_left (List.append_cancel_left front)
  have behind : gap' ++ quote :: (name ++ quote' :: after') =
      p.gap'' ++ p.quote :: (p.name ++ p.quote' :: after) := by
    have whole := said.symm.trans parts
    rw [p.text_append] at whole
    refine (List.append_right_inj
      (before' ++ ("import".toList ++ (gap ++ (run ++ "from".toList))))).mp ?_
    have same : before' ++ ("import".toList ++ (gap ++ (run ++ "from".toList))) =
        before' ++ ("import".toList ++ (p.gap ++ (p.clause ++ (p.gap' ++ "from".toList)))) := by
      simpa using congrArg (· ++ "from".toList) front
    conv_rhs => rw [same]
    simpa using whole
  obtain ⟨spaced, -, -⟩ := run_eq_of_append gap'_blank p.gap''_blank (not_isBlank_of_isQuote quotes)
    (not_isBlank_of_isQuote p.quotes) behind
  -- the blanks that are read end where the clause begins, or before
  have held : ∃ x, run = x ++ (p.clause ++ p.gap') := by
    rcases List.append_eq_append_iff.mp middle with ⟨x, -, rest⟩ | ⟨x, parts, rest⟩
    · exact ⟨x, rest⟩
    · obtain ⟨c, clause, opens⟩ := List.exists_cons_of_ne_nil p.clause_nonempty
      have solid : isBlank c = false := by simpa [opens] using trimmed.1
      have blank : ∀ d ∈ x, isBlank d = true := fun d hd => gap_blank d (by simp [parts, hd])
      rw [opens] at rest
      obtain rfl : x = [] := run_eq_nil blank solid rest.symm
      exact ⟨[], by rw [opens]; exact rest.symm⟩
  obtain ⟨x, rfl⟩ := held
  refine ⟨spaced ▸ gap'_some, ?_, ?_⟩
  · exact fun feed => unbroken (by simp [feed])
  · exact fun feed => unbroken (by simp [feed])

theorem exists_trimmed (p : BoundParts) (some : trim p.clause ≠ []) :
    ∃ p' : BoundParts, p'.text = p.text ∧ Trimmed p'.clause := by
  obtain ⟨g, h, parts, hg, hh⟩ := trim_split p.clause
  have blank : ∀ {s t : List Char}, Blank s → Blank t → Blank (s ++ t) :=
    fun hs ht c hc => (List.mem_append.mp hc).elim (hs c) (ht c)
  refine ⟨{ p with
    gap := p.gap ++ g
    clause := trim p.clause
    gap' := h ++ p.gap'
    gap_blank := blank p.gap_blank hg
    gap_nonempty := by simp [p.gap_nonempty]
    clause_nonempty := some
    clause_plain := fun c hc => p.clause_plain c (mem_of_mem_trim hc)
    gap'_blank := blank hh p.gap'_blank
    gap'_nonempty := by simp [p.gap'_nonempty] }, ?_, trimmed_trim _⟩
  rw [text, text, head_eq, head_eq]
  conv_rhs => rw [parts]
  simp only [List.append_assoc]

end BoundParts

theorem trim_clause_ne_nil {p : BoundParts} {indent closing : List Char} {r : Reference}
    (hi : Blank indent) (h : Reference.parse (indent ++ (p.text ++ closing)) = .ok r) :
    trim p.clause ≠ [] := by
  intro none
  have word : p.text ++ closing = 'i' :: ("mport".toList ++ (p.gap ++ (p.clause ++ (p.gap' ++
      ("from".toList ++ (p.gap'' ++ (p.quote :: (p.name ++ p.quote' :: closing)))))))) := p.text_append _
  have here : ∀ {gap rest : List Char}, indent ++ (p.text ++ closing) = gap ++ rest → Blank gap →
      rest.head? = some 'i' → rest = p.text ++ closing := by
    intro gap rest parts hg first
    obtain ⟨tail, rfl⟩ := List.head?_eq_some_iff.mp first
    rw [word] at parts ⊢
    obtain ⟨-, -, rfl⟩ := run_eq_of_append hi hg (by decide) (by decide) parts
    rfl
  have blank : Blank p.clause := by
    obtain ⟨g, h, parts, hg, hh⟩ := trim_split p.clause
    rw [none, List.nil_append] at parts
    rw [parts]
    exact fun c hc => (List.mem_append.mp hc).elim (hg c) (hh c)
  have read : ∃ r, Reference.ofStatement (indent ++ (p.text ++ closing)) = .ok r := by
    unfold Reference.parse at h
    cases read : Reference.ofStatement (indent ++ (p.text ++ closing)) with
    | error fault =>
      rw [read] at h
      cases h
    | ok r' => exact ⟨r', rfl⟩
  obtain ⟨r', read⟩ := read
  unfold Reference.ofStatement at read
  split at read
  · -- behind `import` stand blanks and `from`, where an import for effect has its quote
    rename_i x rest found
    obtain ⟨gap, t, q, parts, hg, way⟩ := matchStart?_whole_reads found
    obtain ⟨_, p₁, h₁, tail₁⟩ := mem_bind.mp way
    obtain ⟨t₁, rfl, rfl⟩ := mem_text.mp h₁
    obtain ⟨_, p₂, h₂, tail₂⟩ := mem_bind.mp tail₁
    obtain ⟨gap', t₂, rfl, hg', rfl, -⟩ := mem_least.mp (mem_most.mp h₂)
    obtain ⟨d, p₃, h₃, -⟩ := mem_bind.mp tail₂
    obtain ⟨quotes, t₃, parts₃, -⟩ := mem_char.mp h₃
    dsimp only at parts₃
    subst parts₃
    have same := here parts hg rfl
    rw [p.text_append] at same
    have behind : gap' ++ d :: t₃ = (p.gap ++ (p.clause ++ p.gap')) ++ 'f' :: ("rom".toList ++ (p.gap'' ++
        (p.quote :: (p.name ++ p.quote' :: closing)))) := by
      refine (List.append_right_inj "import".toList).mp ?_
      simpa using same
    have blanks : Blank (p.gap ++ (p.clause ++ p.gap')) := by
      intro c hc
      rcases List.mem_append.mp hc with hc | hc
      · exact p.gap_blank c hc
      · exact (List.mem_append.mp hc).elim (blank c) (p.gap'_blank c)
    obtain ⟨-, rfl, -⟩ := run_eq_of_append hg' blanks (not_isBlank_of_isQuote quotes) (by decide) behind
    exact absurd quotes (by decide)
  · split at read
    · cases read
    · rename_i clause x rest found
      obtain ⟨gap, t, q, parts, hg, way⟩ := matchStart?_whole_reads found
      obtain ⟨p', whole, -, clause_eq, -⟩ := boundImport_reads way
      dsimp only at whole clause_eq
      have same := here parts hg (by rw [whole, p'.text_append]; rfl)
      have empty : trim clause.text = [] := by
        rw [clause_eq, BoundParts.trim_clause_eq (whole.symm.trans same), none]
      rw [empty] at read
      cases read

namespace Scan

/-- The statements that a scan cuts because they bind names, in text order. -/
def boundTexts (source : List Char) : List (List Char) :=
  ((Reference.onLines Reference.boundImport).pieces source).filterMap fun
    | .kept _ => none
    | .hit _ statement => some statement

theorem readStatements_parses {pieces : List (Piece (Span × Span))} {rs : List Reference}
    (h : readStatements pieces = .ok rs) {value : Span × Span} {statement : List Char}
    (member : .hit value statement ∈ pieces) : ∃ r, Reference.parse statement = .ok r := by
  induction pieces generalizing rs with
  | nil => cases member
  | cons piece pieces ih =>
    cases piece with
    | kept c => exact ih h ((List.mem_cons.mp member).resolve_left nofun)
    | hit value' statement' =>
      obtain ⟨r, read, h⟩ := ok_of_bind h
      obtain ⟨rs', rest, h⟩ := ok_of_bind h
      rcases List.mem_cons.mp member with here | later
      · cases here
        exact ⟨r, read⟩
      · exact ih rest later

/-- Each statement that a scan cuts stands in the source with its parts, and has a clause. -/
theorem boundTexts_parts {config : Config} {source : List Char} {scan : Scan}
    (scanned : ofSource config source = .ok scan) {statement : List Char}
    (found : statement ∈ boundTexts source) :
    ∃ (p : BoundParts) (indent closing before after : List Char),
      statement = indent ++ (p.text ++ closing) ∧ InlineBlank indent ∧ Statement.Closing closing ∧
        source = before ++ (p.text ++ after) ∧ Trimmed p.clause := by
  obtain ⟨references, read, -⟩ := ok_of_bind scanned
  obtain ⟨piece, member, is_hit⟩ := List.mem_filterMap.mp found
  cases piece with
  | kept c => cases is_hit
  | hit value statement' =>
    obtain rfl := Option.some.inj is_hit
    obtain ⟨r, parsed⟩ := readStatements_parses read member
    have consumes : (Reference.onLines Reference.boundImport).Consumes :=
      (onLines_startsStatement boundImport_beginsWith).consumes
    obtain ⟨before, q, whole, way⟩ := (cut_pieces consumes source).mem_hit member
    obtain ⟨indent, t, r', gap, semicolon, gap', -, ahead, hi, inner, behind, -, hg, hg', hs, -⟩ :=
      onLines_reads way
    obtain ⟨p, parts, -⟩ := boundImport_reads inner
    dsimp only at ahead behind parts
    have statement_eq : statement' = indent ++ (p.text ++ (gap ++ (semicolon ++ gap'))) := by
      refine (List.append_left_inj q.ahead).mp ?_
      rw [ahead, parts, behind]
      simp only [List.append_assoc]
    rw [statement_eq] at parsed
    obtain ⟨p', text_eq, trimmed⟩ := p.exists_trimmed (trim_clause_ne_nil hi.blank parsed)
    refine ⟨p', indent, gap ++ (semicolon ++ gap'), before ++ indent,
      gap ++ (semicolon ++ (gap' ++ q.ahead)), by rw [text_eq]; exact statement_eq, hi,
      ⟨gap, semicolon, gap', rfl, hg, hg', hs⟩, ?_, trimmed⟩
    rw [whole, statement_eq, text_eq]
    simp only [List.append_assoc]

end Scan

/-- A source in which an import is found is taken for a page source exactly if it says
`export default` or says an import. An import on one line that has a blank in front of its module is
said, wherever it stands, and one whose words stand nowhere else is said in no other way. -/
theorem isPageSource_of_import {config : Config} {text : String} {scan : Scan} {c : Char}
    {rest : List Char} (scanned : Scan.ofSource config text.toList = .ok scan)
    (opens : trim text.toList = c :: rest) (brace : c ≠ '\x7b') (bracket : c ≠ '[') :
    (Content.isPageSource (some text) = true ↔
      Content.SaysDefault text.toList ∨ Content.SaysImport text.toList) ∧
    ∀ statement ∈ Scan.boundTexts text.toList,
      ∃ (p : BoundParts) (indent closing before after : List Char),
        statement = indent ++ (p.text ++ closing) ∧ InlineBlank indent ∧ Statement.Closing closing ∧
          text.toList = before ++ (p.text ++ after) ∧ Trimmed p.clause ∧
          (p.IsInline → Content.isPageSource (some text) = true) ∧
          ((∀ x y, text.toList = x ++ ("import".toList ++ y) → x = before) →
            (∀ x y, text.toList = x ++ ("from".toList ++ y) →
              x = before ++ ("import".toList ++ (p.gap ++ (p.clause ++ p.gap')))) →
            (Content.isPageSource (some text) = true ↔
              Content.SaysDefault text.toList ∨ p.IsInline)) := by
  have exact_iff := Content.isPageSource_iff opens brace bracket
  refine ⟨exact_iff, fun statement member => ?_⟩
  obtain ⟨p, indent, closing, before, after, parts, hi, hc, whole, trimmed⟩ :=
    Scan.boundTexts_parts scanned member
  refine ⟨p, indent, closing, before, after, parts, hi, hc, whole, trimmed, fun inline => ?_,
    fun one one' => ?_⟩
  · refine exact_iff.mpr (.inr ?_)
    rw [whole]
    exact BoundParts.says_of_inline inline before after
  · rw [exact_iff]
    refine or_congr_right ⟨BoundParts.inline_of_says trimmed whole one one', fun inline => ?_⟩
    rw [whole]
    exact BoundParts.says_of_inline inline before after

theorem isPageSource_of_import_on_one_line :
    let text := "import \x7b a \x7d from 'b';\nf();\n"
    (∃ scan, Scan.ofSource {} text.toList = .ok scan) ∧
      Scan.boundTexts text.toList = ["import \x7b a \x7d from 'b';".toList] ∧
        Content.isPageSource (some text) = true := by
  intro text
  have scanned : (Scan.ofSource {} text.toList).toOption.isSome = true := by decide +kernel
  cases found : Scan.ofSource {} text.toList with
  | error e =>
    rw [found] at scanned
    cases scanned
  | ok scan =>
    have opens : trim text.toList = 'i' :: "mport \x7b a \x7d from 'b';\nf();".toList := by
      decide +kernel
    have said : Content.SaysImport text.toList :=
      ⟨[], [' '], "\x7b a \x7d ".toList, [' '], '\'', ['b'], '\'', ";\nf();\n".toList, by decide,
        List.all_eq_true.mp rfl, by decide, by decide, by decide, List.all_eq_true.mp rfl, by decide,
        by decide, by decide, List.forall_mem_singleton.mpr rfl, by decide⟩
    exact ⟨⟨scan, rfl⟩, by decide +kernel,
      (isPageSource_of_import found opens (by decide) (by decide)).1.mpr (.inr said)⟩

/-- An import over several lines is found and is not said. -/
theorem isPageSource_of_import_over_lines :
    let text := "import \x7b\n  Button,\n\x7d from '@/ui';\n"
    ((Scan.ofSource {} text.toList).toOption.map Scan.references =
        some [⟨"@/ui", none, [⟨"Button", "Button"⟩], none, false⟩]) ∧
      Scan.boundTexts text.toList = ["import \x7b\n  Button,\n\x7d from '@/ui';".toList] ∧
        (trim text.toList).head? = some 'i' ∧ Content.isPageSource (some text) = false := by
  decide +kernel

end PagePreview
