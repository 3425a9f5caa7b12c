import PagePreview.Proofs.Statement
import PagePreview.Sanitized

/-!
# The passes over a page

Each pass edits a text at starts of lines and leaves none of the statements that it is for.
-/

namespace PagePreview
open Text Matcher Statement
open Reference (isQuote isModuleChar isClauseChar)

variable {α : Type} {m : Matcher α} {b : Option Char} {s : List Char}

theorem reaches_lineStart (start : startsLine b = true) : lineStart.Reaches ⟨b, s⟩ ⟨b, s⟩ :=
  reaches_here start

theorem reaches_semicolon {semicolon : List Char} (h : semicolon = [] ∨ semicolon = [';']) :
    (opt (char (· == ';'))).Reaches ⟨b, semicolon ++ s⟩ ⟨lastOr b semicolon, s⟩ := by
  rcases h with rfl | rfl
  · exact reaches_opt_none _ _
  · exact (reaches_char rfl).opt

theorem closing_parts (h : Closing (firstLine s)) :
    ∃ gap semicolon gap' rest, s = gap ++ (semicolon ++ (gap' ++ rest)) ∧ InlineBlank gap ∧
      InlineBlank gap' ∧ (semicolon = [] ∨ semicolon = [';']) ∧
      ∀ b, lineEnd.Reaches ⟨b, rest⟩ ⟨b, rest⟩ := by
  obtain ⟨rest, parts, ends⟩ := firstLine_split s
  obtain ⟨gap, semicolon, gap', line, hg, hg', hs⟩ := h
  refine ⟨gap, semicolon, gap', rest, ?_, hg, hg', hs, fun b => reaches_here ?_⟩
  · rw [line] at parts
    simpa only [List.append_assoc] using parts
  · rcases ends with rfl | ⟨t, rfl⟩ <;> rfl

theorem reaches_statementEnd (h : Closing (firstLine s)) :
    ∃ tail rest, ∀ b, Entry.statementEnd.Reaches ⟨b, s⟩ ⟨lastOr b tail, rest⟩ := by
  obtain ⟨gap, semicolon, gap', rest, rfl, hg, hg', hs, ends⟩ := closing_parts h
  refine ⟨gap ++ (semicolon ++ gap'), rest, fun b => ?_⟩
  rw [lastOr_append, lastOr_append]
  exact (reaches_most hg).bind fun _ => (reaches_semicolon hs).bind fun _ =>
    (reaches_most hg').bind fun _ => ends _

theorem reaches_onLines {indent t rest : List Char} {b' : Option Char}
    (start : startsLine b = true) (hi : InlineBlank indent)
    (hm : m.Reaches ⟨lastOr b indent, t⟩ ⟨b', rest⟩) (h : Closing (firstLine rest)) :
    ∃ q, (Reference.onLines m).Reaches ⟨b, indent ++ t⟩ q := by
  obtain ⟨gap, semicolon, gap', rest, rfl, hg, hg', hs, ends⟩ := closing_parts h
  exact ⟨_, (reaches_lineStart start).bind fun _ => (reaches_most hi).bind fun _ =>
    hm.bind fun value => (reaches_most hg).bind fun _ => (reaches_semicolon hs).bind fun _ =>
      (reaches_most hg').bind fun _ => (ends _).bind fun _ => reaches_pure value⟩

theorem reaches_quotedModule {name rest : List Char} (h : Quoted s name rest) (some : name ≠ []) :
    ∃ c, ∀ b, Reference.quotedModule.Reaches ⟨b, s⟩ ⟨c, rest⟩ := by
  obtain ⟨q, q', rfl, hq, hq', hn⟩ := h
  exact ⟨_, fun _ => (reaches_char hq).bind fun _ => (reaches_most1 some hn).bind fun name =>
    (reaches_char hq').bind fun _ => reaches_pure name⟩

theorem reaches_exportModule {name rest : List Char} (h : Quoted s name rest) :
    ∃ c, ∀ b, Entry.quotedModule.Reaches ⟨b, s⟩ ⟨c, rest⟩ := by
  obtain ⟨q, q', rfl, hq, hq', hn⟩ := h
  exact ⟨_, fun _ => (reaches_char hq).bind fun _ => (reaches_most fun c hc => by
    simpa [isModuleChar, isQuote] using hn c hc).bind fun _ => (reaches_char hq').bind fun _ =>
      reaches_pure ()⟩

theorem effect_reaches (start : startsLine b = true) (h : Effect s) :
    ∃ q, (Reference.onLines Reference.effectImport).Reaches ⟨b, s⟩ q := by
  obtain ⟨indent, gap, t, name, rest, line, hi, hg, quoted, some, hc⟩ := h
  obtain ⟨s₁, rfl, line₁⟩ := of_firstLine_append line
  obtain ⟨s₂, rfl, line₂⟩ := of_firstLine_append line₁
  obtain ⟨s₃, rfl, rfl⟩ := of_firstLine_append line₂
  obtain ⟨rest', quoted', rfl⟩ := quoted_of_firstLine quoted
  obtain ⟨c, hq⟩ := reaches_quotedModule quoted' some
  exact reaches_onLines start hi ((reaches_text "import").bind fun _ =>
    (reaches_most hg).bind fun _ => hq _) hc

theorem bound_reaches (start : startsLine b = true) (h : Bound s) :
    ∃ q, (Reference.onLines Reference.boundImport).Reaches ⟨b, s⟩ q := by
  obtain ⟨head, u, rfl, ⟨indent, c, clause, d, rfl, hi, hc, hd, some, hcl⟩, -, hu⟩ := h
  obtain ⟨gap, t, name, rest, line, hg, quoted, named, closing⟩ := hu
  obtain ⟨u, rfl, rfl⟩ := of_firstLine_append line
  obtain ⟨rest', quoted', rfl⟩ := quoted_of_firstLine quoted
  obtain ⟨c', hq⟩ := reaches_quotedModule quoted' named
  have shape : indent ++ ("import".toList ++ (c :: (clause ++ d :: "from".toList))) ++ (gap ++ u) =
      indent ++ ("import".toList ++ ([c] ++ (clause ++ ([d] ++ ("from".toList ++ (gap ++ u)))))) := by
    simp
  rw [shape]
  exact reaches_onLines start hi ((reaches_text "import").bind fun _ =>
    (reaches_most1 (by simp) (by simpa using hc)).bind fun _ =>
      (reaches_least1 some hcl).bind fun _ =>
        (reaches_most1 (by simp) (by simpa using hd)).bind fun _ =>
          (reaches_text "from").bind fun _ => (reaches_most hg).bind fun _ =>
            (hq _).bind fun module => reaches_pure (_, module)) closing

theorem exportList_reaches (start : startsLine b = true) (h : ExportList s) :
    ∃ q, Entry.exportList.Reaches ⟨b, s⟩ q := by
  obtain ⟨head, u, rfl, ⟨indent, gap, type, inner, rfl, hi, hg, some, hin, htype⟩, -, hu⟩ := h
  have shape : indent ++ ("export".toList ++ (gap ++ (type ++ '\x7b' :: (inner ++ ['\x7d'])))) ++ u =
      indent ++ ("export".toList ++ (gap ++ (type ++ ("\x7b".toList ++ (inner ++
        ("\x7d".toList ++ u)))))) := by
    simp
  have typed : ∀ b s, (opt (do text "type"; blanks1)).Reaches ⟨b, type ++ s⟩ ⟨lastOr b type, s⟩ := by
    intro b s
    rcases htype with rfl | ⟨gap', rfl, hg', some'⟩
    · exact reaches_opt_none _ _
    · rw [List.append_assoc, lastOr_append]
      exact ((reaches_text "type").bind fun _ => reaches_most1 some' hg').opt
  have inside : ∀ c ∈ inner, (c != '\x7d') = true := by
    intro c hc
    have other : c ≠ '\x7d' := fun same => hin (same ▸ hc)
    simpa using other
  have tail : ∃ (c : Option Char → Option Char) (rest : List Char), ∀ b, (do
      let _ ← blanks
      let _ ← opt (do
        text "from"
        let _ ← blanks
        Entry.quotedModule)
      Entry.statementEnd).Reaches ⟨b, u⟩ ⟨c b, rest⟩ := by
    rcases hu with closing | ⟨gap', gap'', t, name, rest, line, hg', hg'', quoted, closing⟩
    · obtain ⟨tail, rest, ends⟩ := reaches_statementEnd closing
      have none : ∀ b, blanks.Reaches ⟨b, u⟩ ⟨b, u⟩ := fun b =>
        reaches_most fun c hc => absurd hc (List.not_mem_nil (a := c))
      exact ⟨fun b => lastOr b tail, rest, fun b => (none b).bind fun _ =>
        (reaches_opt_none _ _).bind fun _ => ends b⟩
    · obtain ⟨u₁, rfl, line₁⟩ := of_firstLine_append line
      obtain ⟨u₂, rfl, line₂⟩ := of_firstLine_append line₁
      obtain ⟨u₃, rfl, rfl⟩ := of_firstLine_append line₂
      obtain ⟨rest', quoted', rfl⟩ := quoted_of_firstLine quoted
      obtain ⟨c, hq⟩ := reaches_exportModule quoted'
      obtain ⟨tail, rest, ends⟩ := reaches_statementEnd closing
      exact ⟨fun _ => _, _, fun b => (reaches_most hg').bind fun _ =>
        (Reaches.opt ((reaches_text "from").bind fun _ => (reaches_most hg'').bind fun _ =>
          hq _)).bind fun _ => ends _⟩
  obtain ⟨c, rest, ends⟩ := tail
  rw [shape]
  exact ⟨_, (reaches_lineStart start).bind fun _ => (reaches_most hi).bind fun _ =>
    (reaches_text "export").bind fun _ => (reaches_most1 some hg).bind fun _ =>
      (typed _ _).bind fun _ => (reaches_text "\x7b").bind fun _ =>
        (reaches_most inside).bind fun _ => (reaches_text "\x7d").bind fun _ => ends _⟩

theorem star_reaches (start : startsLine b = true) (h : Star s) :
    ∃ q, Entry.exportStar.Reaches ⟨b, s⟩ q := by
  obtain ⟨indent, gap, gap', name, gap'', t, module, rest, line, hi, hg, hg', hg'', quoted, closing,
    named⟩ := h
  obtain ⟨s₁, rfl, line₁⟩ := of_firstLine_append line
  obtain ⟨s₂, rfl, line₂⟩ := of_firstLine_append line₁
  obtain ⟨s₃, rfl, line₃⟩ := of_firstLine_append line₂
  have line₃ : firstLine s₃ = "*".toList ++ (gap' ++ (name ++ ("from".toList ++ (gap'' ++ t)))) :=
    line₃
  obtain ⟨s₄, rfl, line₄⟩ := of_firstLine_append line₃
  obtain ⟨s₅, rfl, line₅⟩ := of_firstLine_append line₄
  obtain ⟨s₆, rfl, line₆⟩ := of_firstLine_append line₅
  obtain ⟨s₇, rfl, line₇⟩ := of_firstLine_append line₆
  obtain ⟨s₈, rfl, rfl⟩ := of_firstLine_append line₇
  obtain ⟨rest', quoted', rfl⟩ := quoted_of_firstLine quoted
  obtain ⟨c, hq⟩ := reaches_exportModule quoted'
  obtain ⟨tail, rest, ends⟩ := reaches_statementEnd closing
  have renamed : ∀ b s, (opt (do
      text "as"
      let _ ← blanks1
      let _ ← Entry.declaredName
      blanks1)).Reaches ⟨b, name ++ s⟩ ⟨lastOr b name, s⟩ := by
    intro b s
    rcases named with rfl | ⟨g, declared, g', rfl, hg, some, ⟨d, more, rfl, hd, hmore⟩, hg', some'⟩
    · exact reaches_opt_none _ _
    · simp only [List.append_assoc, lastOr_append]
      exact Reaches.opt ((reaches_text "as").bind fun _ => (reaches_most1 some hg).bind fun _ =>
        (Reaches.span ((reaches_char hd).bind fun _ => reaches_most hmore)).bind fun _ =>
          reaches_most1 some' hg')
  exact ⟨_, (reaches_lineStart start).bind fun _ => (reaches_most hi).bind fun _ =>
    (reaches_text "export").bind fun _ => (reaches_most hg).bind fun _ =>
      (reaches_text "*").bind fun _ => (reaches_most hg').bind fun _ => (renamed _ _).bind fun _ =>
        (reaches_text "from").bind fun _ => (reaches_most hg'').bind fun _ => (hq _).bind fun _ =>
          ends _⟩

/-- Keywords end in a letter, so an edge behind one is before something that is no letter. -/
theorem lastOr_keyword (b : Option Char) {w : String} (h : w ∈ Entry.declarationWords) :
    (lastOr b w.toList).any isWord = true := by
  have table : ∀ w ∈ Entry.declarationWords, (lastOr b w.toList).any isWord = true := by
    simp only [Entry.declarationWords, List.forall_mem_cons, List.not_mem_nil, false_imp_iff,
      implies_true, and_true]
    refine ⟨?_, ?_, ?_, ?_, ?_, ?_, ?_, ?_, ?_, ?_, ?_⟩ <;> rfl
  exact table w h

theorem reaches_keyword {ws : List String} {w : String} (h : w ∈ ws)
    (edges : (lastOr b w.toList).any isWord ≠ s.head?.any isWord) :
    (Entry.keyword ws).Reaches ⟨b, w.toList ++ s⟩ ⟨lastOr b w.toList, s⟩ := by
  induction ws with
  | nil => cases h
  | cons v ws ih =>
    by_cases same : w = v
    · subst same
      exact ((reaches_text w).bind fun _ => reaches_here (by simpa using edges)).left
    · exact (ih ((List.mem_cons.mp h).resolve_left same)).right

theorem declaration_reaches (start : startsLine b = true) (h : Declaration s) :
    ∃ q, Entry.exportDeclaration.Reaches ⟨b, s⟩ q := by
  obtain ⟨indent, gap, w, rest, line, hi, hg, some, hw, ends⟩ := h
  obtain ⟨s₁, rfl, line₁⟩ := of_firstLine_append line
  obtain ⟨s₂, rfl, line₂⟩ := of_firstLine_append line₁
  obtain ⟨s₃, rfl, line₃⟩ := of_firstLine_append line₂
  obtain ⟨s₄, rfl, rfl⟩ := of_firstLine_append line₃
  have ends' : s₄.head?.any isWord = false := by
    cases s₄ with
    | nil => rfl
    | cons c s₄ =>
      by_cases hc : c = '\n'
      · subst hc
        rfl
      · simpa [firstLine_cons hc] using ends
  exact ⟨_, (reaches_lineStart start).bind fun _ => (reaches_most hi).bind fun _ =>
    (reaches_text "export").bind fun _ => (reaches_most1 some hg).bind fun _ =>
      (Reaches.span (reaches_keyword hw (by rw [lastOr_keyword _ hw, ends']; decide))).bind
        fun _ => reaches_pure _⟩

theorem default_reaches (start : startsLine b = true) (h : Default s) :
    ∃ q, Entry.leftoverDefault.Reaches ⟨b, s⟩ q := by
  obtain ⟨indent, gap, c, rest, line, hi, hg, some, hc⟩ := h
  obtain ⟨s₁, rfl, line₁⟩ := of_firstLine_append line
  obtain ⟨s₂, rfl, line₂⟩ := of_firstLine_append line₁
  obtain ⟨s₃, rfl, line₃⟩ := of_firstLine_append line₂
  obtain ⟨s₄, rfl, line₄⟩ := of_firstLine_append line₃
  have line₄ : firstLine s₄ = [c] ++ rest := line₄
  obtain ⟨s₅, rfl, -⟩ := of_firstLine_append line₄
  exact ⟨_, (reaches_lineStart start).bind fun _ => (reaches_most hi).bind fun _ =>
    (Reaches.bind (reaches_text "export") fun _ => (reaches_most1 some hg).bind fun _ =>
      (reaches_text "default").bind fun _ =>
        (reaches_most1 (by simp) (by simpa using hc)).bind fun _ => reaches_pure _).bind fun _ =>
      (reaches_opt_none _ _).bind fun _ => reaches_pure _⟩

/-- Every match is at the start of a line that opens a statement, and reads something there. -/
def StartsStatement (m : Matcher α) : Prop :=
  ∀ p a q, (a, q) ∈ m p → startsLine p.behind = true ∧ Opening p.ahead ∧
    ∃ run, run ≠ [] ∧ p.ahead = run ++ q.ahead

def EndsLine (m : Matcher α) : Prop := ∀ p a q, (a, q) ∈ m p → firstLine q.ahead = []

def BeginsWith (w : String) (m : Matcher α) : Prop :=
  ∀ p a q, (a, q) ∈ m p → ∃ run, p.ahead = w.toList ++ (run ++ q.ahead) ∧
    (run ++ q.ahead).head?.any isWord = false

def LineLed (w : String) (m : Matcher α) : Prop :=
  ∀ p a q, (a, q) ∈ m p → startsLine p.behind = true ∧ ∃ indent run, InlineBlank indent ∧
    p.ahead = indent ++ (w.toList ++ (run ++ q.ahead)) ∧ (run ++ q.ahead).head?.any isWord = false

def EndsWord (m : Matcher α) : Prop :=
  m.Advances ∧ ∀ p a q, (a, q) ∈ m p → p.ahead.head?.any isWord = false

theorem EndsWord.bind {β : Type} {f : α → Matcher β} (hm : EndsWord m)
    (hf : ∀ a, (f a).Advances) : EndsWord (m >>= f) := by
  refine ⟨hm.1.bind hf, ?_⟩
  rintro p b r h
  obtain ⟨a, q, hq, -⟩ := mem_bind.mp h
  exact hm.2 p a q hq

theorem endsWord_blanks1 : EndsWord blanks1 := by
  refine ⟨advances_most1 _, ?_⟩
  rintro p x q h
  obtain ⟨run, rest, parts, some, blank, -⟩ := mem_least1.mp (mem_most1.mp h)
  rw [parts]
  exact head?_of_blanks some blank

theorem endsWord_blanks {f : Span → Matcher α} (hf : ∀ x, EndsWord (f x)) :
    EndsWord (blanks >>= f) := by
  refine ⟨(advances_most _).bind fun x => (hf x).1, ?_⟩
  rintro p a r h
  obtain ⟨x, q, hq, hr⟩ := mem_bind.mp h
  obtain ⟨run, rest, parts, blank, rfl, -⟩ := mem_least.mp (mem_most.mp hq)
  rw [parts]
  exact head?_of_gap blank ((hf x).2 _ a r hr)

theorem endsWord_char {test : Char → Bool} (other : ∀ c, test c = true → isWord c = false) :
    EndsWord (char test) := by
  refine ⟨advances_char _, ?_⟩
  rintro p c q h
  obtain ⟨hc, s, parts, -⟩ := mem_char.mp h
  rw [parts]
  exact other c hc

theorem endsWord_text {w : String} (other : ∀ s, (w.toList ++ s).head?.any isWord = false) :
    EndsWord (text w) := by
  refine ⟨advances_text w, ?_⟩
  rintro p u q h
  obtain ⟨s, parts, -⟩ := mem_text.mp h
  rw [parts]
  exact other s

theorem beginsWith_text {w : String} {f : Unit → Matcher α} (hf : ∀ u, EndsWord (f u)) :
    BeginsWith w (text w >>= f) := by
  rintro p a r h
  obtain ⟨u, q, hq, hr⟩ := mem_bind.mp h
  obtain ⟨s, parts, rfl⟩ := mem_text.mp hq
  obtain ⟨run, rfl⟩ : ∃ run, s = run ++ r.ahead := (hf u).1 _ a r hr
  exact ⟨run, parts, (hf u).2 _ a r hr⟩

theorem BeginsWith.bind {β : Type} {w : String} {f : α → Matcher β} (hm : BeginsWith w m)
    (hf : ∀ a, (f a).Advances) : BeginsWith w (m >>= f) := by
  rintro p b r h
  obtain ⟨a, q, hq, hr⟩ := mem_bind.mp h
  obtain ⟨run, parts, ends⟩ := hm p a q hq
  obtain ⟨run', parts'⟩ := hf a q b r hr
  rw [parts', ← List.append_assoc run] at parts ends
  exact ⟨run ++ run', parts, ends⟩

theorem lineLed {w : String} {m : Span → Matcher α} (hm : ∀ indent, BeginsWith w (m indent)) :
    LineLed w (do
      lineStart
      let indent ← inlineBlanks
      m indent) := by
  rintro p a q h
  obtain ⟨_, p₁, h₁, tail₁⟩ := mem_bind.mp h
  obtain ⟨start, rfl⟩ := mem_here.mp h₁
  obtain ⟨_, p₂, h₂, tail₂⟩ := mem_bind.mp tail₁
  obtain ⟨indent, rest, parts, hi, rfl, -⟩ := mem_least.mp (mem_most.mp h₂)
  obtain ⟨run, rfl, ends⟩ := hm _ _ a q tail₂
  exact ⟨start, indent, run, hi, parts, ends⟩

theorem LineLed.startsStatement {w : String} (hm : LineLed w m)
    (hw : w = "import" ∨ w = "export") : StartsStatement m := by
  rintro p a q h
  obtain ⟨start, indent, run, hi, parts, ends⟩ := hm p a q h
  refine ⟨start, ⟨indent, _, parts, hi, w, _, hw, rfl, ends⟩, indent ++ (w.toList ++ run), ?_, ?_⟩
  · rcases hw with rfl | rfl <;> simp
  · simp only [parts, List.append_assoc]

theorem StartsStatement.bind {β : Type} {f : α → Matcher β} (hm : StartsStatement m)
    (hf : ∀ a, (f a).Advances) : StartsStatement (m >>= f) := by
  rintro p b r h
  obtain ⟨a, q, hq, hr⟩ := mem_bind.mp h
  obtain ⟨start, opening, run, some, parts⟩ := hm p a q hq
  obtain ⟨run', parts'⟩ := hf a q b r hr
  exact ⟨start, opening, run ++ run', by simp [some], by rw [parts, parts', List.append_assoc]⟩

theorem StartsStatement.consumes (h : StartsStatement m) : m.Consumes :=
  fun p a q hq => (h p a q hq).2.2

theorem endsLine_lineEnd : EndsLine lineEnd := by
  rintro p u q h
  obtain ⟨ends, rfl⟩ := mem_here.mp h
  obtain ⟨b, s⟩ := q
  cases s with
  | nil => rfl
  | cons c s =>
    have hc : c = '\n' := by simpa using ends
    subst hc
    rfl

theorem endsLine_pure {β : Type} (v : β) : EndsLine (do lineEnd; (pure v : Matcher β)) := by
  rintro p a r h
  obtain ⟨u, q, hq, hr⟩ := mem_bind.mp h
  obtain ⟨-, rfl⟩ := mem_pure.mp hr
  exact endsLine_lineEnd p u r hq

theorem EndsLine.bind {β : Type} {f : α → Matcher β} (h : ∀ a, EndsLine (f a)) :
    EndsLine (m >>= f) := by
  rintro p b r hb
  obtain ⟨a, q, -, hr⟩ := mem_bind.mp hb
  exact h a q b r hr

/-- A pass leaves none of the statements that it can read, if what it writes for a match is an
edit. -/
theorem edited_rewrite {Own : List Char → Prop} {f : α → List Char → List Char}
    (consumes : m.Consumes)
    (reads : ∀ {b s}, startsLine b = true → Own s → ∃ q, m.Reaches ⟨b, s⟩ q)
    (edits : ∀ {b run a q t}, (a, q) ∈ m ⟨b, run ++ q.ahead⟩ →
      Edited Own (lastOr b run) q.ahead t → Edited Own b (run ++ q.ahead) (f a run ++ t))
    (s : List Char) : Edited Own none s (m.rewrite f s) := by
  have cuts := cut_pieces consumes s
  unfold rewrite
  generalize none = b, m.pieces s = ps at cuts
  induction cuts with
  | nil b => exact .nil b
  | @kept b c s ps unread _ ih =>
    refine .keep (fun start own => ?_) ih
    obtain ⟨q, reaches⟩ := reads start own
    simpa [unread] using reaches.first?
  | @hit b run a q ps _ found _ ih => exact edits (mem_of_first? found) ih

theorem edited_erase {Own : List Char → Prop} (starts : StartsStatement m) (ends : EndsLine m)
    (reads : ∀ {b s}, startsLine b = true → Own s → ∃ q, m.Reaches ⟨b, s⟩ q) (s : List Char) :
    Edited Own none s (m.erase s) := by
  refine edited_rewrite starts.consumes reads (fun {b run a q t} way rest => ?_) s
  obtain ⟨start, opening, -⟩ := starts _ a q way
  exact .cut start opening (ends _ a q way) rest

theorem advances_quotedModule : Reference.quotedModule.Advances :=
  (advances_char _).bind fun _ => (advances_most1 _).bind fun _ => (advances_char _).bind fun _ =>
    advances_pure _

theorem endsWord_quotedModule : EndsWord Reference.quotedModule :=
  (endsWord_char fun _ => isWord_of_isQuote).bind fun _ => (advances_most1 _).bind fun _ =>
    (advances_char _).bind fun _ => advances_pure _

theorem advances_exportModule : Entry.quotedModule.Advances :=
  (advances_char _).bind fun _ => (advances_most _).bind fun _ => (advances_char _).bind fun _ =>
    advances_pure _

theorem advances_statementEnd : Entry.statementEnd.Advances :=
  (advances_most _).bind fun _ => (advances_char _).opt.bind fun _ => (advances_most _).bind fun _ =>
    advances_here _

theorem advances_declaredName : Entry.declaredName.Advances :=
  Advances.span ((advances_char _).bind fun _ => advances_most _)

theorem first?_declaredName {name : List Char} (hn : IsDeclaredName name)
    (stops : s.head?.any isDeclaredRest = false) :
    Entry.declaredName.first? ⟨b, name ++ s⟩ = some (⟨name ++ s, s⟩, ⟨lastOr b name, s⟩) := by
  obtain ⟨c, more, rfl, start, all⟩ := hn
  have read : (do let _ ← char isPlainStart; most isDeclaredRest : Matcher Span).first?
      ⟨b, c :: (more ++ s)⟩ = some (⟨more ++ s, s⟩, ⟨lastOr (some c) more, s⟩) :=
    first?_then (first?_char start) (first?_most all stops)
  exact first?_span read

theorem endsLine_statementEnd : EndsLine Entry.statementEnd :=
  EndsLine.bind fun _ => EndsLine.bind fun _ => EndsLine.bind fun _ => endsLine_lineEnd

theorem onLines_startsStatement (hm : BeginsWith "import" m) :
    StartsStatement (Reference.onLines m) :=
  LineLed.startsStatement (lineLed fun _ => hm.bind fun _ => (advances_most _).bind fun _ =>
    (advances_char _).opt.bind fun _ => (advances_most _).bind fun _ => (advances_here _).bind fun _ =>
      advances_pure _) (.inl rfl)

theorem onLines_endsLine : EndsLine (Reference.onLines m) :=
  EndsLine.bind fun _ => EndsLine.bind fun _ => EndsLine.bind fun _ => EndsLine.bind fun _ =>
    EndsLine.bind fun _ => EndsLine.bind fun _ => endsLine_pure _

theorem boundImport_beginsWith : BeginsWith "import" Reference.boundImport :=
  beginsWith_text fun _ => endsWord_blanks1.bind fun _ => (advances_least1 _).bind fun _ =>
    (advances_most1 _).bind fun _ => (advances_text _).bind fun _ => (advances_most _).bind fun _ =>
      advances_quotedModule.bind fun _ => advances_pure _

theorem effectImport_beginsWith : BeginsWith "import" Reference.effectImport :=
  beginsWith_text fun _ => endsWord_blanks fun _ => endsWord_quotedModule

theorem boundImport_edited (s : List Char) :
    Edited Bound none s ((Reference.onLines Reference.boundImport).erase s) :=
  edited_erase (onLines_startsStatement boundImport_beginsWith) onLines_endsLine bound_reaches s

theorem effectImport_edited (s : List Char) :
    Edited Effect none s ((Reference.onLines Reference.effectImport).erase s) :=
  edited_erase (onLines_startsStatement effectImport_beginsWith) onLines_endsLine effect_reaches s

theorem exportList_led : LineLed "export" Entry.exportList :=
  lineLed fun _ => beginsWith_text fun _ => endsWord_blanks1.bind fun _ =>
    Advances.bind (Advances.opt ((advances_text _).bind fun _ => advances_most1 _)) fun _ =>
      (advances_text _).bind fun _ => (advances_most _).bind fun _ => (advances_text _).bind fun _ =>
        (advances_most _).bind fun _ => Advances.bind (Advances.opt ((advances_text _).bind fun _ =>
          (advances_most _).bind fun _ => advances_exportModule)) fun _ => advances_statementEnd

theorem exportList_edited (s : List Char) : Edited ExportList none s (Entry.exportList.erase s) :=
  edited_erase (exportList_led.startsStatement (.inr rfl))
    (EndsLine.bind fun _ => EndsLine.bind fun _ => EndsLine.bind fun _ => EndsLine.bind fun _ =>
      EndsLine.bind fun _ => EndsLine.bind fun _ => EndsLine.bind fun _ => EndsLine.bind fun _ =>
        EndsLine.bind fun _ => EndsLine.bind fun _ => endsLine_statementEnd) exportList_reaches s

theorem exportStar_led : LineLed "export" Entry.exportStar :=
  lineLed fun _ => beginsWith_text fun _ => endsWord_blanks fun _ =>
    (endsWord_text fun _ => rfl).bind fun _ => (advances_most _).bind fun _ =>
      Advances.bind (Advances.opt ((advances_text _).bind fun _ => (advances_most1 _).bind fun _ =>
        advances_declaredName.bind fun _ => advances_most1 _)) fun _ =>
          (advances_text _).bind fun _ => (advances_most _).bind fun _ =>
            advances_exportModule.bind fun _ => advances_statementEnd

theorem exportStar_edited (s : List Char) : Edited Star none s (Entry.exportStar.erase s) :=
  edited_erase (exportStar_led.startsStatement (.inr rfl))
    (EndsLine.bind fun _ => EndsLine.bind fun _ => EndsLine.bind fun _ => EndsLine.bind fun _ =>
      EndsLine.bind fun _ => EndsLine.bind fun _ => EndsLine.bind fun _ => EndsLine.bind fun _ =>
        EndsLine.bind fun _ => EndsLine.bind fun _ => endsLine_statementEnd) star_reaches s

theorem mem_keyword {ws : List String} {p q : Place} {u : Unit} (h : (u, q) ∈ Entry.keyword ws p) :
    ∃ w ∈ ws, ∃ s, p.ahead = w.toList ++ s ∧ q = ⟨lastOr p.behind w.toList, s⟩ ∧
      (lastOr p.behind w.toList).any isWord ≠ s.head?.any isWord := by
  induction ws with
  | nil => cases h
  | cons w ws ih =>
    rcases mem_orElse.mp h with h | h
    · obtain ⟨_, q', h₁, h₂⟩ := mem_bind.mp h
      obtain ⟨s, parts, rfl⟩ := mem_text.mp h₁
      obtain ⟨edges, rfl⟩ := mem_here.mp h₂
      exact ⟨w, by simp, s, parts, rfl, by simpa using edges⟩
    · obtain ⟨w', member, rest⟩ := ih h
      exact ⟨w', List.mem_cons_of_mem _ member, rest⟩

theorem advances_keyword (ws : List String) : (Entry.keyword ws).Advances := by
  rintro p u q h
  obtain ⟨w, -, s, parts, rfl, -⟩ := mem_keyword h
  exact ⟨w.toList, parts⟩

theorem not_startsLine_of_isWord {b : Option Char} (h : b.any isWord = true) :
    startsLine b = false := by
  cases b with
  | none => cases h
  | some c =>
    by_cases hc : c = '\n'
    · subst hc
      cases h
    · simp [startsLine, hc]

theorem exportDeclaration_reads {p q : Place} {indent first : Span}
    (h : ((indent, first), q) ∈ Entry.exportDeclaration p) :
    ∃ before gap w, InlineBlank before ∧
      p.ahead = before ++ ("export".toList ++ (gap ++ (w.toList ++ q.ahead))) ∧
      indent.text = before ∧ first.text = w.toList ∧ w ∈ Entry.declarationWords ∧
      q.ahead.head?.any isWord = false ∧ Blank gap ∧ gap ≠ [] := by
  obtain ⟨_, p₁, h₁, tail₁⟩ := mem_bind.mp h
  obtain ⟨-, rfl⟩ := mem_here.mp h₁
  obtain ⟨_, p₂, h₂, tail₂⟩ := mem_bind.mp tail₁
  obtain ⟨before, s, parts, hi, rfl, rfl⟩ := mem_least.mp (mem_most.mp h₂)
  obtain ⟨_, p₃, h₃, tail₃⟩ := mem_bind.mp tail₂
  obtain ⟨s₃, rfl, rfl⟩ := mem_text.mp h₃
  obtain ⟨_, p₄, h₄, tail₄⟩ := mem_bind.mp tail₃
  obtain ⟨gap, s₄, rfl, some, hg, rfl, -⟩ := mem_least1.mp (mem_most1.mp h₄)
  obtain ⟨_, p₅, h₅, tail₅⟩ := mem_bind.mp tail₄
  obtain ⟨⟨_, keyword⟩, rfl⟩ := mem_span.mp h₅
  obtain ⟨w, hw, s₅, rfl, rfl, edges⟩ := mem_keyword keyword
  obtain ⟨same, rfl⟩ := mem_pure.mp tail₅
  obtain ⟨rfl, rfl⟩ := Prod.mk.inj same
  rw [lastOr_keyword _ hw] at edges
  refine ⟨before, gap, w, hi, parts, ?_, Span.text_append _ _, hw, by simpa using edges, hg, some⟩
  rw [parts, Span.text_append]

theorem unbroken_putWords {w : String} (h : w ∈ putWords) :
    w.toList ≠ [] ∧ Unbroken w.toList := by
  have table : (putWords.all fun w => !w.toList.isEmpty && w.toList.all fun c => !isBreak c) = true := by
    decide
  have found := List.all_eq_true.mp table w h
  rw [Bool.and_eq_true] at found
  exact ⟨by simpa using found.1, unbroken_of_all found.2⟩

theorem editedLine_of_word {indent t : List Char} {w : String} (hi : InlineBlank indent)
    (hw : w ∈ putWords) (ends : t.head?.any isWord = false) :
    EditedLine (firstLine (indent ++ (w.toList ++ t))) := by
  refine .inr ⟨indent, w, firstLine t, ?_, hi, .inr ⟨hw, by rwa [head?_firstLine]⟩⟩
  rw [firstLine_append hi.noBreak, firstLine_append (unbroken_putWords hw).2.noBreak]

theorem editedLine_of_function {indent : List Char} (hi : InlineBlank indent) (t : List Char) :
    EditedLine (firstLine (indent ++ ("function".toList ++ t))) := by
  refine .inr ⟨indent, "function", firstLine t, ?_, hi, .inl rfl⟩
  rw [firstLine_append hi.noBreak, firstLine_append (by decide)]

theorem mem_putWords {w : String} (h : w ∈ Entry.declarationWords) : w ∈ putWords :=
  List.mem_cons_of_mem _ h

theorem exportDeclaration_led : LineLed "export" Entry.exportDeclaration :=
  lineLed fun _ => beginsWith_text fun _ => endsWord_blanks1.bind fun _ =>
    (advances_keyword _).span.bind fun _ => advances_pure _

theorem exportDeclaration_startsStatement : StartsStatement Entry.exportDeclaration :=
  exportDeclaration_led.startsStatement (.inr rfl)

theorem exportDeclaration_edited (s : List Char) :
    Edited Declaration none s (Entry.exportDeclaration.rewrite
      (fun (indent, first) _ => indent.text ++ first.text) s) := by
  refine edited_rewrite exportDeclaration_startsStatement.consumes declaration_reaches ?_ s
  rintro b run ⟨indent, first⟩ q t way rest
  obtain ⟨before, gap, w, hi, parts, hindent, hfirst, hw, ends, -⟩ := exportDeclaration_reads way
  obtain ⟨start, opening, -⟩ := exportDeclaration_startsStatement _ _ q way
  have shape : run = before ++ ("export".toList ++ (gap ++ w.toList)) :=
    List.append_cancel_right (parts.trans (by simp))
  subst shape
  have letter : startsLine (lastOr b (before ++ ("export".toList ++ (gap ++ w.toList)))) = false := by
    rw [lastOr_append, lastOr_append, lastOr_append]
    exact not_startsLine_of_isWord (lastOr_keyword _ hw)
  obtain ⟨some, unbroken⟩ := unbroken_putWords (mem_putWords hw)
  dsimp only at opening ⊢
  rw [hindent, hfirst]
  refine .put start opening (by simp [some]) (hi.unbroken.append unbroken) ?_ rest
  rw [List.append_assoc]
  exact editedLine_of_word hi (mem_putWords hw) (by rw [rest.head? letter, ends])

theorem exportDefault_reads {p q : Place} {u : Unit} (h : (u, q) ∈ Entry.exportDefault p) :
    ∃ gap gap', p.ahead = "export".toList ++ (gap ++ ("default".toList ++ (gap' ++ q.ahead))) := by
  obtain ⟨_, p₁, h₁, tail₁⟩ := mem_bind.mp h
  obtain ⟨s₁, parts, rfl⟩ := mem_text.mp h₁
  obtain ⟨_, p₂, h₂, tail₂⟩ := mem_bind.mp tail₁
  obtain ⟨gap, s₂, rfl, -, -, rfl, -⟩ := mem_least1.mp (mem_most1.mp h₂)
  obtain ⟨_, p₃, h₃, tail₃⟩ := mem_bind.mp tail₂
  obtain ⟨s₃, rfl, rfl⟩ := mem_text.mp h₃
  obtain ⟨_, p₄, h₄, tail₄⟩ := mem_bind.mp tail₃
  obtain ⟨gap', s₄, rfl, -, -, rfl, -⟩ := mem_least1.mp (mem_most1.mp h₄)
  obtain ⟨-, rfl⟩ := mem_pure.mp tail₄
  exact ⟨gap, gap', parts⟩

/-- The words that a default declaration can begin with: one word, or two with blanks between. -/
def DefaultWords (words rest : List Char) : Prop :=
  words = "function".toList ∨ words = "class".toList ∧ rest.head?.any isWord = false ∨
    ∃ gap, words = "async".toList ++ (gap ++ "function".toList) ∧ Blank gap ∧ gap ≠ []

theorem exportDefault_beginsWith : BeginsWith "export" Entry.exportDefault :=
  beginsWith_text fun _ => endsWord_blanks1.bind fun _ => (advances_text _).bind fun _ =>
    (advances_most1 _).bind fun _ => advances_pure _

theorem leftoverDefault_led : LineLed "export" Entry.leftoverDefault := by
  have async : Entry.asyncWord.Advances :=
    (advances_text _).bind fun _ => (advances_most1 _).bind fun _ => advances_pure _
  have function : Advances (do
      let _ ← opt Entry.asyncWord
      Entry.keyword ["function"]) := async.opt.bind fun _ => advances_keyword _
  exact lineLed fun _ => exportDefault_beginsWith.bind fun _ =>
    Advances.bind (Advances.opt (Advances.span (function.orElse (advances_keyword _)))) fun _ =>
      advances_pure _

theorem leftoverDefault_startsStatement : StartsStatement Entry.leftoverDefault :=
  leftoverDefault_led.startsStatement (.inr rfl)

theorem leftoverDefault_reads {p q : Place} {indent : Span} {declared : Option Span}
    (h : ((indent, declared), q) ∈ Entry.leftoverDefault p) :
    ∃ before gap gap' words, InlineBlank before ∧
      p.ahead = before ++ ("export".toList ++ (gap ++ ("default".toList ++ (gap' ++
        (words ++ q.ahead))))) ∧
      indent.text = before ∧
      (declared = none ∧ words = [] ∨
        ∃ d, declared = some d ∧ d.text = words ∧ DefaultWords words q.ahead) := by
  obtain ⟨_, p₁, h₁, tail₁⟩ := mem_bind.mp h
  obtain ⟨-, rfl⟩ := mem_here.mp h₁
  obtain ⟨_, p₂, h₂, tail₂⟩ := mem_bind.mp tail₁
  obtain ⟨before, s, parts, hi, rfl, rfl⟩ := mem_least.mp (mem_most.mp h₂)
  obtain ⟨_, p₃, h₃, tail₃⟩ := mem_bind.mp tail₂
  obtain ⟨gap, gap', rfl⟩ := exportDefault_reads h₃
  obtain ⟨x, p₄, h₄, tail₄⟩ := mem_bind.mp tail₃
  obtain ⟨same, rfl⟩ := mem_pure.mp tail₄
  obtain ⟨rfl, rfl⟩ := Prod.mk.inj same
  refine ⟨before, gap, gap', ?_⟩
  rcases mem_opt.mp h₄ with ⟨d, hd, rfl⟩ | ⟨rfl, rfl⟩
  · obtain ⟨⟨_, ways⟩, rfl⟩ := mem_span.mp hd
    rcases mem_orElse.mp ways with function | class_
    · obtain ⟨_, p₅, h₅, tail₅⟩ := mem_bind.mp function
      obtain ⟨w, hw, s₅, parts₅, rfl, -⟩ := mem_keyword tail₅
      obtain rfl := List.mem_singleton.mp hw
      rcases mem_opt.mp h₅ with ⟨_, async, -⟩ | ⟨-, rfl⟩
      · obtain ⟨_, p₆, h₆, tail₆⟩ := mem_bind.mp async
        obtain ⟨s₆, parts₆, rfl⟩ := mem_text.mp h₆
        obtain ⟨_, p₇, h₇, tail₇⟩ := mem_bind.mp tail₆
        obtain ⟨gap'', s₇, rfl, some, hg, rfl, -⟩ := mem_least1.mp (mem_most1.mp h₇)
        obtain ⟨-, rfl⟩ := mem_pure.mp tail₇
        dsimp only at parts₅
        subst parts₅
        have words : p₃.ahead = ("async".toList ++ (gap'' ++ "function".toList)) ++ s₅ := by
          simp only [parts₆, List.append_assoc]
        exact ⟨_, hi, by rw [parts, words], by rw [parts, Span.text_append], .inr
          ⟨_, rfl, by rw [words, Span.text_append], .inr (.inr ⟨gap'', rfl, hg, some⟩)⟩⟩
      · exact ⟨_, hi, by rw [parts, parts₅], by rw [parts, Span.text_append], .inr
          ⟨_, rfl, by rw [parts₅, Span.text_append], .inl rfl⟩⟩
    · obtain ⟨w, hw, s₅, parts₅, rfl, edges⟩ := mem_keyword class_
      obtain rfl := List.mem_singleton.mp hw
      rw [lastOr_keyword _ (by simp [Entry.declarationWords])] at edges
      exact ⟨_, hi, by rw [parts, parts₅], by rw [parts, Span.text_append], .inr
        ⟨_, rfl, by rw [parts₅, Span.text_append], .inr (.inl ⟨rfl, by simpa using edges⟩)⟩⟩
  · exact ⟨[], hi, by simpa using parts, by rw [parts, Span.text_append], .inl ⟨rfl, rfl⟩⟩

theorem not_opening_function {gap front rest t : List Char} {b : Option Char} (hg : Blank gap)
    (parts : gap ++ "function".toList = front ++ rest)
    (start : startsLine (lastOr b front) = true) : ¬Opening (rest ++ t) := by
  have blankFirst : ∀ gap, Blank gap → ¬Opening (gap ++ "function".toList ++ t) := by
    rintro gap hg ⟨indent, more, opening, hi, keyword⟩
    obtain ⟨c, d, more, rfl, hc, letters⟩ := keyword.letters
    rw [List.append_assoc] at opening
    obtain ⟨-, same, -⟩ := hg.eq_of_append (c := 'f') hi.blank (by decide) hc opening
    rw [← same] at letters
    rcases letters with letters | letters
    · exact absurd (Prod.mk.inj letters).1 (by decide)
    · exact absurd (Prod.mk.inj letters).1 (by decide)
  rcases List.append_eq_append_iff.mp parts with ⟨inside, rfl, word⟩ | ⟨gap', rfl, rfl⟩
  · rcases inside.eq_nil_or_concat with rfl | ⟨letters, c, rfl⟩
    · rw [List.nil_append] at word
      exact word ▸ blankFirst [] (by simp [Blank])
    · rw [List.concat_eq_append] at start word
      have hc : c = '\n' := by simpa [lastOr_append, startsLine] using start
      subst hc
      have member : '\n' ∈ "function".toList := by simp [word]
      exact absurd member (by decide)
  · exact blankFirst gap' fun c hc => hg c (by simp [hc])

theorem mem_putWords_void : "void" ∈ putWords := List.mem_cons_self

theorem leftoverDefault_edited (s : List Char) :
    Edited Default none s (Entry.leftoverDefault.rewrite Entry.neutralise s) := by
  refine edited_rewrite leftoverDefault_startsStatement.consumes default_reaches ?_ s
  rintro b run ⟨indent, declared⟩ q t way rest
  obtain ⟨before, gap, gap', words, hi, parts, hindent, found⟩ := leftoverDefault_reads way
  obtain ⟨start, opening, -⟩ := leftoverDefault_startsStatement _ _ q way
  have shape : run = before ++ ("export".toList ++ (gap ++ ("default".toList ++ (gap' ++ words)))) :=
    List.append_cancel_right (parts.trans (by simp))
  subst shape
  rcases found with ⟨rfl, rfl⟩ | ⟨d, rfl, hd, chosen⟩
  · -- an expression
    have put : Entry.neutralise (indent, none) (before ++ ("export".toList ++ (gap ++
        ("default".toList ++ (gap' ++ []))))) = before ++ "void ".toList := by
      rw [← hindent]
      rfl
    rw [put]
    refine .put start opening (by simp) (hi.unbroken.append (unbroken_of_all (by decide))) ?_ rest
    rw [List.append_assoc]
    exact editedLine_of_word (t := ' ' :: t) hi mem_putWords_void rfl
  · have put : Entry.neutralise (indent, some d) (before ++ ("export".toList ++ (gap ++
        ("default".toList ++ (gap' ++ words))))) = before ++ words := by
      rw [← hindent, ← hd]
      rfl
    rw [put]
    rcases chosen with rfl | ⟨rfl, ends⟩ | ⟨gap'', rfl, hg, some⟩
    · refine .put start opening (by simp) (hi.unbroken.append (unbroken_of_all (by decide))) ?_ rest
      rw [List.append_assoc]
      exact editedLine_of_function hi t
    · have hw : "class" ∈ Entry.declarationWords := by simp [Entry.declarationWords]
      have letter : startsLine (lastOr b (before ++ ("export".toList ++ (gap ++ ("default".toList ++
          (gap' ++ "class".toList)))))) = false := by
        simp only [lastOr_append]
        exact not_startsLine_of_isWord (lastOr_keyword _ hw)
      refine .put start opening (by simp) (hi.unbroken.append (unbroken_of_all (by decide))) ?_ rest
      rw [List.append_assoc]
      exact editedLine_of_word hi (mem_putWords hw) (by rw [rest.head? letter, ends])
    · have old : before ++ ("export".toList ++ (gap ++ ("default".toList ++ (gap' ++
          ("async".toList ++ (gap'' ++ "function".toList)))))) =
          (before ++ ("export".toList ++ (gap ++ ("default".toList ++ (gap' ++ "async".toList))))) ++
            (gap'' ++ "function".toList) := by
        simp
      have new : before ++ ("async".toList ++ (gap'' ++ "function".toList)) ++ t =
          (before ++ "async".toList) ++ ((gap'' ++ "function".toList) ++ t) := by
        simp
      rw [old, lastOr_append] at rest
      dsimp only at opening
      rw [old, List.append_assoc] at opening
      rw [old, new, List.append_assoc]
      refine .put start opening (by simp) (hi.unbroken.append (unbroken_of_all (by decide))) ?_
        (rest.keeps _ ?_)
      · rw [List.append_assoc, List.append_assoc]
        exact editedLine_of_word hi (mem_putWords (by simp [Entry.declarationWords]))
          (head?_of_blanks some hg)
      · intro front tail parts start' own
        exact not_opening_function hg parts start' (form_default.opens own)

end PagePreview
