import PagePreview.Proofs.Entry
import PagePreview.Proofs.Text.Seam

/-!
# Statements at the end of a text

What a pass reads in a text with more text behind it, it reads in the text alone, provided the text
behind has no character that ends a statement. The one exception is a default export that the text
ends with: the blank behind the word `default` is then a character of the text behind.
-/

namespace PagePreview
open Text Matcher
open Reference (isQuote isModuleChar isClauseChar)

variable {α : Type} {m : Matcher α} {tail : List Char}

instance : LawfulMonad Matcher := by
  refine LawfulMonad.mk' Matcher (fun m => ?_) (fun a f => ?_) fun m f g => ?_
  · funext p
    change (m p).flatMap (fun way => [(way.1, way.2)]) = m p
    simp
  · funext p
    change ([(a, p)].flatMap fun way => f way.1 way.2) = f a p
    simp
  · funext p
    exact List.flatMap_assoc

def Unread (m : Matcher α) (s : List Char) : Prop :=
  ∀ before after, s = before ++ after → ∀ a q, (a, q) ∉ m ⟨lastOr none before, after⟩

theorem unread_of_occurs {s : List Char} (h : m.occurs s = false) : Unread m s := by
  have none : ∀ b, m.search? b s = none → ∀ before after, s = before ++ after →
      ∀ a q, (a, q) ∉ m ⟨lastOr b before, after⟩ := by
    clear h
    induction s with
    | nil =>
      intro b none before after parts a q way
      obtain ⟨rfl, rfl⟩ := List.append_eq_nil_iff.mp parts.symm
      have found := first?_isSome.mpr ⟨a, q, way⟩
      rw [search?, Option.map_eq_none_iff] at none
      rw [lastOr_nil, none] at found
      cases found
    | cons c s ih =>
      intro b none before after parts a q way
      unfold search? at none
      cases found : m.first? ⟨b, c :: s⟩ with
      | some way => simp [found] at none
      | none =>
        simp only [found, Option.map_eq_none_iff] at none
        cases before with
        | nil =>
          obtain rfl : c :: s = after := parts
          have some := first?_isSome.mpr ⟨a, q, way⟩
          rw [lastOr_nil, found] at some
          cases some
        | cons d before =>
          obtain ⟨rfl, rest⟩ := List.cons.inj parts
          exact ih (Option.some c) none before after rest a q way
  have search : m.search? Option.none s = Option.none := by
    simpa [occurs, find?] using h
  exact none _ search

theorem occurs_iff {s : List Char} : m.occurs s = true ↔
    ∃ before after a q, s = before ++ after ∧ (a, q) ∈ m ⟨lastOr none before, after⟩ := by
  constructor
  · intro found
    obtain ⟨f, found⟩ := Option.isSome_iff_exists.mp found
    obtain ⟨after, parts, way⟩ := mem_of_search? found
    exact ⟨f.skipped, after, f.value, f.rest, parts, way⟩
  · rintro ⟨before, after, a, q, parts, way⟩
    by_contra absent
    exact unread_of_occurs (Bool.eq_false_iff.mpr absent) before after parts a q way

theorem Unread.pieces {s : List Char} (h : Unread m s) : m.pieces s = s.map .kept :=
  piecesFrom_unread fun front back parts _ => first?_eq_none (h front back parts)

theorem Unread.rewrite {s : List Char} (h : Unread m s) (f : α → List Char → List Char) :
    m.rewrite f s = s := by
  have kept := write_kept (f := f) s []
  rw [List.append_nil] at kept
  rw [Matcher.rewrite, h.pieces, kept]
  exact List.append_nil s

theorem Unread.search? {s : List Char} (h : Unread m s) : m.find? s = none :=
  search?_eq_none fun front back parts => first?_eq_none (h front back parts)

theorem Unread.append {s : List Char} (h : Unread m s) (survives : Survives tail m m)
    (dead : Dead tail m) : Unread m (s ++ tail) := by
  intro before after parts a q way
  rcases List.append_eq_append_iff.mp parts with ⟨beyond, rfl, rest⟩ | ⟨rest, rfl, rfl⟩
  · exact dead.nil way ⟨beyond, rest.symm⟩
  · obtain ⟨r, a', read⟩ := survives _ rest a q way
    exact h before rest rfl a' r read

theorem endsIn_text {test : Char → Bool} {letters : String} {front : List Char} {c : Char}
    (last : letters.toList = front ++ [c]) (hc : test c = true) : EndsIn test (text letters) := by
  rintro p u q way
  obtain ⟨rest, parts, rfl⟩ := mem_text.mp way
  exact ⟨front, c, by rw [parts, last, List.append_assoc]; rfl, hc⟩

def statementClose (value : α) : Matcher α := do
  let _ ← inlineBlanks
  let _ ← opt (char (· == ';'))
  let _ ← inlineBlanks
  lineEnd
  pure value

theorem survives_statementClose (v v' : α) :
    Survives tail (statementClose v) (statementClose v') := by
  have last : Ends (do lineEnd; pure v' : Matcher α) := (ends_pure v').lineEnd
  exact .bind_open (replays_most _) (breaks_most _)
    (fun _ => .opt fun _ => .most fun _ => last) fun _ _ =>
      .bind_open (replays_char _).opt (breaks_opt_char _) (fun _ => .most fun _ => last)
        fun _ _ => .bind_open (replays_most _) (breaks_most _) (fun _ => last) fun _ _ =>
          .lineEnd (survives_pure v v')

theorem ends_statementClose (v : α) : Ends (statementClose v) :=
  .most fun _ => .opt fun _ => .most fun _ => (ends_pure v).lineEnd

theorem statementEnd_eq : Entry.statementEnd = statementClose () := by
  simp [Entry.statementEnd, statementClose]

theorem replays_lineStart : Replays lineStart lineStart := replays_behind fun _ _ _ => rfl

theorem replays_quotedModule : Replays Reference.quotedModule Reference.quotedModule :=
  (replays_char _).bind fun _ _ => (replays_most1 _).bind fun _ _ => (replays_char _).bind fun _ _ =>
    replays_pure _ _

theorem replays_exportModule : Replays Entry.quotedModule Entry.quotedModule :=
  (replays_char _).bind fun _ _ => (replays_most _).bind fun _ _ => (replays_char _).bind fun _ _ =>
    replays_pure _ _

theorem endsIn_quotedModule : EndsIn isQuote Reference.quotedModule :=
  .bind (advances_char _) fun _ => .bind (advances_most1 _) fun _ =>
    (endsIn_char isQuote).return _

theorem endsIn_exportModule : EndsIn isQuote Entry.quotedModule :=
  .bind (advances_char _) fun _ => .bind (advances_most _) fun _ =>
    (endsIn_char isQuote).return _

theorem onLines_eq (m : Matcher α) :
    Reference.onLines m = (do lineStart; let _ ← inlineBlanks; m) >>= statementClose := by
  simp only [Reference.onLines, bind_assoc]
  rfl

theorem unread_onLines (replays : Replays m m) (ends : EndsIn isQuote m)
    (free : ∀ c ∈ tail, isQuote c = false) {s : List Char}
    (h : Unread (Reference.onLines m) s) : Unread (Reference.onLines m) (s ++ tail) := by
  have head : Replays (do lineStart; let _ ← inlineBlanks; m) (do lineStart; let _ ← inlineBlanks; m) :=
    replays_lineStart.bind fun _ _ => (replays_most _).bind fun _ _ => replays
  have quote : EndsIn isQuote (do lineStart; let _ ← inlineBlanks; m) :=
    .bind (advances_here _) fun _ => .bind (advances_most _) fun _ => ends
  rw [onLines_eq] at h ⊢
  refine h.append ?_ (quote.dead free).left
  exact .bind head quote free fun v v' => survives_statementClose v v'

theorem unread_boundImport (free : ∀ c ∈ tail, isQuote c = false) {s : List Char}
    (h : Unread (Reference.onLines Reference.boundImport) s) :
    Unread (Reference.onLines Reference.boundImport) (s ++ tail) := by
  refine unread_onLines ?_ ?_ free h
  · exact (replays_text _).bind fun _ _ => (replays_most1 _).bind fun _ _ =>
      (replays_least1 _).bind fun _ _ => (replays_most1 _).bind fun _ _ =>
        (replays_text _).bind fun _ _ => (replays_most _).bind fun _ _ =>
          replays_quotedModule.bind fun _ _ => replays_pure _ _
  · exact .bind (advances_text _) fun _ => .bind (advances_most1 _) fun _ =>
      .bind (advances_least1 _) fun _ => .bind (advances_most1 _) fun _ =>
        .bind (advances_text _) fun _ => .bind (advances_most _) fun _ =>
          endsIn_quotedModule.return _

theorem unread_effectImport (free : ∀ c ∈ tail, isQuote c = false) {s : List Char}
    (h : Unread (Reference.onLines Reference.effectImport) s) :
    Unread (Reference.onLines Reference.effectImport) (s ++ tail) := by
  refine unread_onLines ?_ ?_ free h
  · exact (replays_text _).bind fun _ _ => (replays_most _).bind fun _ _ => replays_quotedModule
  · exact .bind (advances_text _) fun _ => .bind (advances_most _) fun _ => endsIn_quotedModule

def listHead : Matcher Unit := do
  lineStart
  let _ ← inlineBlanks
  text "export"
  let _ ← blanks1
  let _ ← opt (do text "type"; blanks1)
  text "\x7b"
  let _ ← most (· != '\x7d')
  text "\x7d"

def listClose : Matcher Unit := do
  let _ ← blanks
  let _ ← opt (do
    text "from"
    let _ ← blanks
    Entry.quotedModule)
  Entry.statementEnd

theorem exportList_eq : Entry.exportList = (do listHead; listClose) := by
  simp only [Entry.exportList, listHead, listClose, bind_assoc]

theorem unread_exportList (free : ∀ c ∈ tail, isQuote c = false ∧ c ≠ '\x7d') {s : List Char}
    (h : Unread Entry.exportList s) : Unread Entry.exportList (s ++ tail) := by
  have head : Replays listHead listHead :=
    replays_lineStart.bind fun _ _ => (replays_most _).bind fun _ _ => (replays_text _).bind fun _ _ =>
      (replays_most1 _).bind fun _ _ => Replays.bind ((replays_text _).bind fun _ _ => replays_most1 _).opt
        fun _ _ => (replays_text _).bind fun _ _ => (replays_most _).bind fun _ _ => replays_text _
  have brace : EndsIn (· == '\x7d') listHead :=
    .bind (advances_here _) fun _ => .bind (advances_most _) fun _ => .bind (advances_text _) fun _ =>
      .bind (advances_most1 _) fun _ =>
        .bind (Advances.opt ((advances_text _).bind fun _ => advances_most1 _)) fun _ =>
          .bind (advances_text _) fun _ => .bind (advances_most _) fun _ =>
            endsIn_text (c := '\x7d') (List.nil_append _).symm rfl
  have noBrace : ∀ c ∈ tail, (c == '\x7d') = false := fun c hc => by simp [(free c hc).2]
  have module : Survives tail listClose listClose := by
    unfold listClose
    rw [statementEnd_eq]
    refine .bind_open (replays_most _) (breaks_most _) (fun _ => .opt fun _ => ends_statementClose ())
      fun _ _ => ?_
    refine .bind_opt ?_ ?_ (fun c hc => (free c hc).1) fun _ _ => survives_statementClose () ()
    · exact (replays_text _).bind fun _ _ => (replays_most _).bind fun _ _ => replays_exportModule
    · exact .bind (advances_text _) fun _ => .bind (advances_most _) fun _ => endsIn_exportModule
  rw [exportList_eq] at h ⊢
  exact h.append (.bind head brace noBrace fun _ _ => module) (brace.dead noBrace).left

def starHead : Matcher Unit := do
  lineStart
  let _ ← inlineBlanks
  text "export"
  let _ ← blanks
  text "*"
  let _ ← blanks
  let _ ← opt (do
    text "as"
    let _ ← blanks1
    let _ ← Entry.declaredName
    blanks1)
  text "from"
  let _ ← blanks
  Entry.quotedModule

theorem exportStar_eq : Entry.exportStar = (do starHead; Entry.statementEnd) := by
  simp only [Entry.exportStar, starHead, bind_assoc]

theorem unread_exportStar (free : ∀ c ∈ tail, isQuote c = false) {s : List Char}
    (h : Unread Entry.exportStar s) : Unread Entry.exportStar (s ++ tail) := by
  have name : Replays Entry.declaredName Entry.declaredName :=
    Replays.span ((replays_char _).bind fun _ _ => replays_most _)
  have head : Replays starHead starHead :=
    replays_lineStart.bind fun _ _ => (replays_most _).bind fun _ _ => (replays_text _).bind fun _ _ =>
      (replays_most _).bind fun _ _ => (replays_text _).bind fun _ _ => (replays_most _).bind fun _ _ =>
        Replays.bind (Replays.opt ((replays_text _).bind fun _ _ => (replays_most1 _).bind fun _ _ =>
          name.bind fun _ _ => replays_most1 _)) fun _ _ => (replays_text _).bind fun _ _ =>
            (replays_most _).bind fun _ _ => replays_exportModule
  have quote : EndsIn isQuote starHead :=
    .bind (advances_here _) fun _ => .bind (advances_most _) fun _ => .bind (advances_text _) fun _ =>
      .bind (advances_most _) fun _ => .bind (advances_text _) fun _ => .bind (advances_most _) fun _ =>
        .bind (Advances.opt ((advances_text _).bind fun _ => (advances_most1 _).bind fun _ =>
          advances_declaredName.bind fun _ => advances_most1 _)) fun _ =>
            .bind (advances_text _) fun _ => .bind (advances_most _) fun _ => endsIn_exportModule
  rw [exportStar_eq, statementEnd_eq] at h ⊢
  exact h.append (.bind head quote free fun _ _ => survives_statementClose () ()) (quote.dead free).left

theorem dead_keyword {ws : List String} (free : ∀ c ∈ tail, c = '\n')
    (letters : ∀ w ∈ ws, ∃ c ∈ w.toList, c ≠ '\n') : Dead tail (Entry.keyword ws) := by
  intro b s inTail
  rw [List.eq_nil_iff_forall_not_mem]
  rintro ⟨u, q⟩ way
  obtain ⟨w, hw, rest, parts, -⟩ := mem_keyword way
  obtain ⟨c, hc, other⟩ := letters w hw
  have whole : s = w.toList ++ rest := parts
  exact other (free c (inTail.mem (by simp [whole, hc])))

theorem declarationWords_last {w : String} (hw : w ∈ Entry.declarationWords) :
    ∃ c, w.toList.getLast? = some c ∧ c ≠ '\n' := by
  have table : ∀ w ∈ Entry.declarationWords, ∃ c, w.toList.getLast? = some c ∧ c ≠ '\n' := by
    simp only [Entry.declarationWords, List.forall_mem_cons, List.not_mem_nil, false_imp_iff,
      implies_true, and_true]
    refine ⟨?_, ?_, ?_, ?_, ?_, ?_, ?_, ?_, ?_, ?_, ?_⟩ <;> exact ⟨_, rfl, by decide⟩
  exact table w hw

theorem unread_exportDeclaration (free : ∀ c ∈ tail, c = '\n') {s : List Char}
    (h : Unread Entry.exportDeclaration s) : Unread Entry.exportDeclaration (s ++ tail) := by
  let head : Matcher Span := do
    lineStart
    let indent ← inlineBlanks
    text "export"
    let _ ← blanks1
    pure indent
  let word (indent : Span) : Matcher (Span × Span) := do
    let first ← span (Entry.keyword Entry.declarationWords)
    pure (indent, first)
  have parts : Entry.exportDeclaration = head >>= word := by
    simp only [head, word, Entry.exportDeclaration, bind_assoc, pure_bind]
  have replays : Replays head head :=
    replays_lineStart.bind fun _ _ => (replays_most _).bind fun _ _ => (replays_text _).bind fun _ _ =>
      (replays_most1 _).bind fun _ _ => replays_pure _ _
  have dead : ∀ indent, Dead tail (word indent) := by
    intro indent
    have none : Dead tail (Entry.keyword Entry.declarationWords) := by
      refine dead_keyword free fun w hw => ?_
      obtain ⟨c, last, other⟩ := declarationWords_last hw
      exact ⟨c, List.mem_of_getLast? last, other⟩
    exact none.span.left
  have survives : ∀ indent indent', Survives tail (word indent) (word indent') := by
    rintro indent indent' b s x r way
    obtain ⟨first, q, hfirst, -⟩ := mem_bind.mp way
    obtain ⟨⟨_, hword⟩, -⟩ := mem_span.mp hfirst
    obtain ⟨w, hw, rest, whole, -, edges⟩ := mem_keyword hword
    obtain ⟨c, last, other⟩ := declarationWords_last hw
    obtain ⟨rest', rfl, rfl⟩ := split_of_last last (fun member => other (free c member)) whole
    rw [lastOr_keyword _ hw] at edges
    have edges' : (lastOr b w.toList).any isWord ≠ rest'.head?.any isWord := by
      rw [lastOr_keyword _ hw]
      cases rest' with
      | nil => simp
      | cons d rest' => exact edges
    obtain ⟨first', reached⟩ := (reaches_keyword hw edges').span
    exact ⟨_, _, mem_bind.mpr ⟨first', _, reached, mem_pure.mpr ⟨rfl, rfl⟩⟩⟩
  rw [parts] at h ⊢
  refine h.append (.bind_dead replays dead survives) ?_
  have exportWord : Dead tail (text "export") := by
    refine dead_text (c := 'e') (by simp) fun member => ?_
    exact absurd (free 'e' member) (by decide)
  have head' : Dead tail head :=
    .bind (advances_here _) fun _ => .bind (advances_most _) fun _ => exportWord.left
  exact head'.left

def DefaultHead (s : List Char) : Prop :=
  ∃ indent gap, s = indent ++ ("export".toList ++ (gap ++ "default".toList)) ∧
    InlineBlank indent ∧ Blank gap ∧ gap ≠ []

theorem lineExportDefault_way {b : Option Char} {s : List Char} {u : Unit} {q : Place}
    (h : (u, q) ∈ Entry.lineExportDefault ⟨b, s⟩) :
    startsLine b = true ∧ ∃ head gap, s = head ++ (gap ++ q.ahead) ∧ DefaultHead head ∧
      Blank gap ∧ gap ≠ [] ∧ q.behind = lastOr b (head ++ gap) := by
  obtain ⟨_, p₁, h₁, tail₁⟩ := mem_bind.mp h
  obtain ⟨start, rfl⟩ := mem_here.mp h₁
  obtain ⟨_, p₂, h₂, tail₂⟩ := mem_bind.mp tail₁
  obtain ⟨indent, s₂, rfl, hi, rfl, -⟩ := mem_least.mp (mem_most.mp h₂)
  obtain ⟨_, p₃, h₃, tail₃⟩ := mem_bind.mp tail₂
  obtain ⟨s₃, rfl, rfl⟩ := mem_text.mp h₃
  obtain ⟨_, p₄, h₄, tail₄⟩ := mem_bind.mp tail₃
  obtain ⟨gap, s₄, rfl, some, hg, rfl, -⟩ := mem_least1.mp (mem_most1.mp h₄)
  obtain ⟨_, p₅, h₅, tail₅⟩ := mem_bind.mp tail₄
  obtain ⟨s₅, rfl, rfl⟩ := mem_text.mp h₅
  obtain ⟨_, p₆, h₆, tail₆⟩ := mem_bind.mp tail₅
  obtain ⟨gap', s₆, rfl, some', hg', rfl, -⟩ := mem_least1.mp (mem_most1.mp h₆)
  obtain ⟨-, rfl⟩ := mem_pure.mp tail₆
  refine ⟨start, _, gap', ?_, ⟨indent, gap, rfl, hi, hg, some⟩, hg', some', ?_⟩
  · simp only [List.append_assoc]
  · simp only [lastOr_append]

theorem lineExportDefault_reads {b : Option Char} {s : List Char} {u : Unit} {q : Place}
    (h : (u, q) ∈ Entry.lineExportDefault ⟨b, s⟩) :
    startsLine b = true ∧ ∃ head gap, s = head ++ (gap ++ q.ahead) ∧ DefaultHead head ∧
      Blank gap ∧ gap ≠ [] := by
  obtain ⟨start, head, gap, parts, hd, hg, some, -⟩ := lineExportDefault_way h
  exact ⟨start, head, gap, parts, hd, hg, some⟩

theorem lineExportDefault_reaches {b : Option Char} {head gap s : List Char}
    (start : startsLine b = true) (hd : DefaultHead head) (hg : Blank gap) (some : gap ≠ []) :
    Entry.lineExportDefault.Reaches ⟨b, head ++ (gap ++ s)⟩ ⟨lastOr b (head ++ gap), s⟩ := by
  obtain ⟨indent, gap', rfl, hi, hg', some'⟩ := hd
  simp only [List.append_assoc, lastOr_append]
  exact (reaches_lineStart start).bind fun _ => (reaches_most hi).bind fun _ =>
    (reaches_text "export").bind fun _ => (reaches_most1 some' hg').bind fun _ =>
      (reaches_text "default").bind fun _ => (reaches_most1 some hg).bind fun _ => reaches_pure ()

theorem leftoverDefault_begins {p q : Place} {x : Span × Option Span}
    (h : (x, q) ∈ Entry.leftoverDefault p) : ∃ q', Entry.lineExportDefault.Reaches p q' := by
  obtain ⟨_, p₁, h₁, tail₁⟩ := mem_bind.mp h
  obtain ⟨indent, p₂, h₂, tail₂⟩ := mem_bind.mp tail₁
  obtain ⟨_, p₃, h₃, -⟩ := mem_bind.mp tail₂
  exact ⟨p₃, (), mem_bind.mpr ⟨_, p₁, h₁, mem_bind.mpr ⟨indent, p₂, h₂, h₃⟩⟩⟩

theorem leftoverDefault_of_begins {p q : Place} (h : Entry.lineExportDefault.Reaches p q) :
    Entry.leftoverDefault.Reaches p q := by
  obtain ⟨_, way⟩ := h
  obtain ⟨_, p₁, h₁, tail₁⟩ := mem_bind.mp way
  obtain ⟨indent, p₂, h₂, h₃⟩ := mem_bind.mp tail₁
  exact ⟨(indent, none), mem_bind.mpr ⟨_, p₁, h₁, mem_bind.mpr ⟨indent, p₂, h₂, mem_bind.mpr ⟨_, q, h₃,
    mem_bind.mpr ⟨none, q, mem_opt.mpr (.inr ⟨rfl, rfl⟩), mem_pure.mpr ⟨rfl, rfl⟩⟩⟩⟩⟩⟩

theorem DefaultHead.last {s : List Char} (h : DefaultHead s) : s.getLast? = some 't' := by
  obtain ⟨indent, gap, rfl, -⟩ := h
  rw [← List.append_assoc, ← List.append_assoc, List.getLast?_append_of_ne_nil _ (by simp)]
  rfl

/-- Nothing stands behind the word `default` of a default export but the end of the text. -/
def Dangling (s : List Char) : Prop :=
  ∃ before head, s = before ++ head ∧ startsLine (lastOr none before) = true ∧ DefaultHead head

theorem default_closed {b : Option Char} {head rest s gap : List Char} {q : Place}
    (start : startsLine b = true) (hd : DefaultHead head) (hg : Blank gap) (some : gap ≠ [])
    (parts : rest ++ tail = gap ++ q.ahead) (whole : s = head ++ rest)
    (unread : ∀ x r, (x, r) ∉ Entry.leftoverDefault ⟨b, s⟩) : rest = [] := by
  cases rest with
  | nil => rfl
  | cons c rest =>
    obtain ⟨d, gap, rfl⟩ := List.exists_cons_of_ne_nil some
    obtain ⟨rfl, -⟩ := List.cons.inj parts
    have blank : Blank [c] := by
      intro e he
      obtain rfl := List.mem_singleton.mp he
      exact hg e (by simp)
    have begins := lineExportDefault_reaches (s := rest) start hd blank (by simp)
    obtain ⟨x, way⟩ := leftoverDefault_of_begins begins
    subst whole
    exact absurd way (unread x _)

theorem unread_leftoverDefault (free : ∀ c ∈ tail, c = '\n') {s : List Char}
    (h : Unread Entry.leftoverDefault s) (complete : ¬Dangling s) :
    Unread Entry.leftoverDefault (s ++ tail) := by
  intro before after parts x q way
  obtain ⟨q', u, begins⟩ := leftoverDefault_begins way
  obtain ⟨start, head, gap, ahead, hd, hg, some⟩ := lineExportDefault_reads begins
  have other : 't' ∉ tail := fun member => absurd (free 't' member) (by decide)
  rcases List.append_eq_append_iff.mp parts with ⟨beyond, -, inTail⟩ | ⟨rest, rfl, rfl⟩
  · have letter : 't' ∈ head := List.mem_of_getLast? hd.last
    exact other (by simp [inTail, ahead, letter])
  · obtain ⟨rest', whole, behind⟩ := split_of_last hd.last other ahead
    have empty := default_closed start hd hg some behind.symm whole (h before rest rfl)
    subst empty
    rw [List.append_nil] at whole
    exact complete ⟨before, rest, rfl, start, whole ▸ hd⟩

theorem split_of_break {w s t u : List Char} (unbroken : '\n' ∉ w)
    (breaks : s.getLast? = some '\n') (parts : s ++ t = w ++ u) :
    ∃ rest, s = w ++ rest ∧ u = rest ++ t ∧ rest.getLast? = some '\n' := by
  rcases List.append_eq_append_iff.mp parts with ⟨beyond, rfl, -⟩ | ⟨rest, rfl, behind⟩
  · exact absurd (List.mem_append_left beyond (List.mem_of_getLast? breaks)) unbroken
  · refine ⟨rest, rfl, behind, ?_⟩
    cases rest with
    | nil =>
      rw [List.append_nil] at breaks
      exact absurd (List.mem_of_getLast? breaks) unbroken
    | cons c rest => rwa [List.getLast?_append_of_ne_nil _ (by simp)] at breaks

/-- The head of a default export does not reach from lines into a text that begins with another
letter than `default` does. -/
theorem DefaultHead.split {head s t u : List Char} (hd : DefaultHead head)
    (breaks : s.getLast? = some '\n') (parts : s ++ 'e' :: t = head ++ u) :
    ∃ rest, s = head ++ rest ∧ u = rest ++ 'e' :: t := by
  obtain ⟨indent, gap, rfl, hi, hg, -⟩ := hd
  simp only [List.append_assoc] at parts
  rw [← List.append_assoc indent] at parts
  have word : '\n' ∉ indent ++ "export".toList := by
    intro member
    rcases List.mem_append.mp member with blank | letter
    · exact hi.noBreak blank
    · exact absurd letter (by decide)
  obtain ⟨y, rfl, behind, breaks'⟩ := split_of_break word breaks parts
  have first : "default".toList ++ u = 'd' :: ("efault".toList ++ u) := rfl
  rcases List.append_eq_append_iff.mp behind with ⟨z, rfl, behind'⟩ | ⟨beyond, rfl, behind'⟩
  · have some : z ≠ [] := by
      rintro rfl
      rw [first] at behind'
      cases behind'
    rw [List.getLast?_append_of_ne_nil _ some] at breaks'
    obtain ⟨rest, rfl, rfl, -⟩ := split_of_break (by decide) breaks' behind'.symm
    exact ⟨rest, by simp only [List.append_assoc], rfl⟩
  · cases beyond with
    | nil =>
      rw [first] at behind'
      cases behind'
    | cons c beyond =>
      obtain ⟨rfl, -⟩ := List.cons.inj behind'
      exact absurd (hg 'e' (by simp)) (by decide)

/-- Behind the lines of a text in which no default export is left, the head of one is read up to
where the next text starts. -/
theorem lineExportDefault_seam {b : Option Char} {s feed t : List Char} {u : Unit} {q : Place}
    (hfeed : feed = [] ∨ feed = ['\n']) (breaks : (s ++ feed).getLast? = some '\n')
    (unread : ∀ x r, (x, r) ∉ Entry.leftoverDefault ⟨b, s⟩)
    (way : (u, q) ∈ Entry.lineExportDefault ⟨b, s ++ (feed ++ 'e' :: t)⟩) : q.ahead = 'e' :: t := by
  obtain ⟨start, head, gap, parts, hd, hg, some⟩ := lineExportDefault_reads way
  rw [← List.append_assoc] at parts
  obtain ⟨rest, whole, behind⟩ := hd.split breaks parts
  have other : 't' ∉ feed := by
    rcases hfeed with rfl | rfl <;> simp
  obtain ⟨rest', whole', rfl⟩ := split_of_last hd.last other whole
  rw [List.append_assoc] at behind
  have empty := default_closed start hd hg some behind.symm whole' unread
  subst empty
  rw [List.append_nil] at whole'
  subst whole'
  obtain ⟨c, gap, rfl⟩ := List.exists_cons_of_ne_nil some
  rcases hfeed with rfl | rfl
  · rw [List.append_nil, hd.last] at breaks
    exact absurd (Option.some.inj breaks) (by decide)
  · have after : gap ++ q.ahead = 'e' :: t := (List.cons.inj behind).2
    obtain rfl : gap = [] := run_eq_nil (fun d hd => hg d (by simp [hd])) (by decide) after
    exact after

def directiveHead : Matcher Unit := do
  textStart
  let _ ← blanks
  text "'use client'" <|> text "\"use client\""

def directiveClose : Matcher Unit := do
  let _ ← inlineBlanks
  let _ ← opt (char (· == ';'))
  let _ ← inlineBlanks
  let _ ← opt (char (· == '\r'))
  let _ ← opt (char (· == '\n'))

theorem clientDirective_eq : Entry.clientDirective = (do directiveHead; directiveClose) := by
  simp only [Entry.clientDirective, directiveHead, directiveClose, bind_assoc]

theorem directiveHead_endsIn : EndsIn isQuote directiveHead := by
  have useClient : "'use client'".toList = "'use client".toList ++ ['\''] := rfl
  have useClient' : "\"use client\"".toList = "\"use client".toList ++ ['"'] := rfl
  exact .bind (advances_here _) fun _ => .bind (advances_most _) fun _ =>
    (endsIn_text (c := '\'') useClient rfl).orElse
      (endsIn_text (c := '"') useClient' rfl)

theorem directiveClose_reaches (p : Place) : directiveClose.Reaches p p :=
  reaches_most_none.bind fun _ => (reaches_opt_none _ _).bind fun _ => reaches_most_none.bind fun _ =>
    (reaches_opt_none _ _).bind fun _ => (reaches_opt_none _ _).bind fun _ => reaches_pure ()

theorem directiveClose_advances : directiveClose.Advances :=
  (advances_most _).bind fun _ => (advances_char _).opt.bind fun _ => (advances_most _).bind fun _ =>
    (advances_char _).opt.bind fun _ => (advances_char _).opt.bind fun _ => advances_pure _

theorem stripClientDirective_append (free : ∀ c ∈ tail, isQuote c = false) {s : List Char}
    (h : Entry.stripClientDirective s = s) : Entry.stripClientDirective (s ++ tail) = s ++ tail := by
  have unread : ∀ u q, (u, q) ∉ Entry.clientDirective ⟨none, s⟩ := by
    intro u q way
    obtain ⟨⟨v, r⟩, found⟩ := Option.isSome_iff_exists.mp (first?_isSome.mpr ⟨u, q, way⟩)
    have rest : Entry.stripClientDirective s = r.ahead := by
      simp only [Entry.stripClientDirective, matchStart?, found, Option.map_some]
    have way' := mem_of_first? found
    rw [clientDirective_eq] at way'
    obtain ⟨_, p, hp, hr⟩ := mem_bind.mp way'
    obtain ⟨run, c, parts, -⟩ := directiveHead_endsIn _ _ p hp
    obtain ⟨run', parts'⟩ := directiveClose_advances p v r hr
    have size := congrArg List.length (parts.trans (by rw [parts']))
    rw [rest] at h
    rw [← h] at size
    simp only [List.length_append, List.length_cons] at size
    omega
  have unread' : ∀ u q, (u, q) ∉ Entry.clientDirective ⟨none, s ++ tail⟩ := by
    intro u q way
    rw [clientDirective_eq] at way
    obtain ⟨v, p, hp, -⟩ := mem_bind.mp way
    have replays : Replays directiveHead directiveHead :=
      (replays_behind fun _ _ _ => rfl).bind fun _ _ => (replays_most _).bind fun _ _ =>
        (replays_text _).orElse (replays_text _)
    obtain ⟨run, rest, -, -, reached⟩ := replays.split directiveHead_endsIn free hp
    obtain ⟨w, way'⟩ := reached.bind fun _ => directiveClose_reaches _
    rw [← clientDirective_eq] at way'
    exact unread w _ way'
  simp only [Entry.stripClientDirective, matchStart?, first?_eq_none unread', Option.map_none]

end PagePreview
