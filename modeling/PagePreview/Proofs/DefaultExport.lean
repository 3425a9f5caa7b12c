import PagePreview.Proofs.Resanitized

/-!
# The default export of a page

What stands behind `export default` is read in four ways, one after the other: as a function with a
name, as a name alone on its line, as a class with a name, and else as a value, which is bound to the
fallback name. Each way is a shape of text here, and a text has at most one name in each of them.
-/

namespace PagePreview
open Text Matcher Statement

variable {b : Option Char} {s tail name : List Char}

/-- A function with a name, up to its parameters. `async` stands in front of the word `function`, if
anything does, and `between` stands between that word and the name. -/
def FunctionHead (Gap : List Char → Prop) (async between name s : List Char) : Prop :=
  ∃ gap star gap' gap'' c rest,
    s = async ++ ("function".toList ++ (between ++ (name ++ (gap'' ++ c :: rest)))) ∧
    between = gap ++ (star ++ gap') ∧
    (async = [] ∨ ∃ g, async = "async".toList ++ g ∧ Gap g ∧ g ≠ []) ∧ Gap gap ∧
    (star = [] ∨ star = ['*']) ∧ Gap gap' ∧ IsDeclaredName name ∧ Gap gap'' ∧ (c = '(' ∨ c = '<')

/-- A class with a name, up to the end of that name. -/
def ClassHead (Gap : List Char → Prop) (name s : List Char) : Prop :=
  ∃ gap rest, s = "class".toList ++ (gap ++ (name ++ rest)) ∧ Gap gap ∧ gap ≠ [] ∧
    IsDeclaredName name ∧ rest.head?.any isDeclaredRest = false

def AloneOnLine (name s : List Char) : Prop :=
  ∃ rest, s = name ++ rest ∧ IsDeclaredName name ∧ Closing (firstLine rest)

def afterLine (s : List Char) : List Char := s.dropWhile (· != '\n')

theorem head?_dropWhile (test : Char → Bool) (s : List Char) :
    (s.dropWhile test).head?.any test = false := by
  induction s with
  | nil => rfl
  | cons c s ih =>
    by_cases hc : test c = true
    · rw [List.dropWhile_cons_of_pos hc, ih]
    · rw [List.dropWhile_cons_of_neg hc]
      simpa using hc

theorem Statement.IsDeclaredName.declared (h : IsDeclaredName name) : Entry.Declared name := by
  obtain ⟨c, rest, rfl, start, all⟩ := h
  intro d hd
  rcases List.mem_cons.mp hd with rfl | hd
  · exact Entry.isDeclaredRest_of_isPlainRest (by simp [isPlainRest, start])
  · exact all d hd

theorem Statement.IsDeclaredName.noBreak (h : IsDeclaredName name) : '\n' ∉ name :=
  fun member => absurd (h.declared '\n' member) (by decide)

theorem Statement.IsDeclaredName.head?_isBlank (h : IsDeclaredName name) (s : List Char) :
    (name ++ s).head?.any isBlank = false := by
  have letters := h.declared
  obtain ⟨c, rest, rfl, -⟩ := h
  exact Entry.not_isBlank_of_isDeclaredRest (letters c (by simp))

theorem firstLine_afterLine (s : List Char) : firstLine s ++ afterLine s = s :=
  List.takeWhile_append_dropWhile

namespace Entry

def functionHead : Matcher Span := do
  let _ ← opt asyncWord
  text "function"
  let _ ← blanks
  let _ ← opt (char (· == '*'))
  let _ ← blanks
  let name ← declaredName
  let _ ← blanks
  let _ ← char fun c => c == '(' || c == '<'
  pure name

def classHead : Matcher Span := do
  text "class"
  let _ ← blanks1
  declaredName

def located (declared : Matcher Span) : Matcher (Span × Span) := fun p =>
  (declared p).map fun (name, q) => ((⟨p.ahead, q.ahead⟩, name), q)

theorem defaultFunction_eq : defaultFunction = (do lineExportDefault; located functionHead) := rfl

theorem defaultClass_eq : defaultClass = (do lineExportDefault; located classHead) := rfl

theorem first?_located (declared : Matcher Span) (p : Place) :
    (located declared).first? p =
      (declared.first? p).map fun way => ((⟨p.ahead, way.2.ahead⟩, way.1), way.2) := by
  change ((declared p).map _).head? = _
  rw [List.head?_map]
  rfl

theorem declaredName_reads {x : Span} {q : Place} (way : (x, q) ∈ declaredName ⟨b, s⟩) :
    ∃ name, IsDeclaredName name ∧ s = name ++ q.ahead ∧ x.text = name ∧
      q.behind = lastOr b name := by
  obtain ⟨⟨_, hname⟩, rfl⟩ := mem_span.mp way
  obtain ⟨c, p, hc, hrest⟩ := mem_bind.mp hname
  obtain ⟨start, s', rfl, rfl⟩ := mem_char.mp hc
  obtain ⟨more, s₁, rfl, all, rfl, -⟩ := mem_least.mp (mem_most.mp hrest)
  exact ⟨c :: more, ⟨c, more, rfl, start, all⟩, rfl, Span.text_append (c :: more) s₁, rfl⟩

theorem declaredName_reaches (hn : IsDeclaredName name) :
    ((⟨name ++ s, s⟩ : Span), (⟨lastOr b name, s⟩ : Place)) ∈ declaredName ⟨b, name ++ s⟩ := by
  obtain ⟨c, more, rfl, start, all⟩ := hn
  refine mem_span.mpr ⟨?_, rfl⟩
  exact (reaches_char start).bind fun _ => reaches_most all

theorem functionHead_reads {x : Span} {q : Place} (way : (x, q) ∈ functionHead ⟨b, s⟩) :
    ∃ async between, FunctionHead Blank async between x.text s := by
  obtain ⟨_, p₁, h₁, tail₁⟩ := mem_bind.mp way
  obtain ⟨_, p₂, h₂, tail₂⟩ := mem_bind.mp tail₁
  obtain ⟨s₂, parts₂, rfl⟩ := mem_text.mp h₂
  obtain ⟨_, p₃, h₃, tail₃⟩ := mem_bind.mp tail₂
  obtain ⟨gap, s₃, rfl, hg, rfl, -⟩ := mem_least.mp (mem_most.mp h₃)
  obtain ⟨_, p₄, h₄, tail₄⟩ := mem_bind.mp tail₃
  obtain ⟨_, p₅, h₅, tail₅⟩ := mem_bind.mp tail₄
  obtain ⟨gap', s₅, parts₅, hg', rfl, -⟩ := mem_least.mp (mem_most.mp h₅)
  obtain ⟨x', p₆, h₆, tail₆⟩ := mem_bind.mp tail₅
  obtain ⟨name, hn, rfl, text, -⟩ := declaredName_reads h₆
  obtain ⟨_, p₇, h₇, tail₇⟩ := mem_bind.mp tail₆
  obtain ⟨gap'', s₇, parts₇, hg'', rfl, -⟩ := mem_least.mp (mem_most.mp h₇)
  obtain ⟨c, p₈, h₈, tail₈⟩ := mem_bind.mp tail₇
  obtain ⟨stop, s₈, rfl, rfl⟩ := mem_char.mp h₈
  obtain ⟨rfl, -⟩ := mem_pure.mp tail₈
  have stops : c = '(' ∨ c = '<' := by simpa using stop
  have star : ∃ star, (star = [] ∨ star = ['*']) ∧ s₃ = star ++ p₄.ahead := by
    rcases mem_opt.mp h₄ with ⟨c, hc, -⟩ | ⟨-, rfl⟩
    · obtain ⟨same, s₄, parts₄, rfl⟩ := mem_char.mp hc
      obtain rfl : c = '*' := by simpa using same
      exact ⟨['*'], .inr rfl, parts₄⟩
    · exact ⟨[], .inl rfl, rfl⟩
  have async : ∃ async, (async = [] ∨ ∃ g, async = "async".toList ++ g ∧ Blank g ∧ g ≠ []) ∧
      s = async ++ p₁.ahead := by
    rcases mem_opt.mp h₁ with ⟨_, word, -⟩ | ⟨-, rfl⟩
    · obtain ⟨_, p, hp, tail⟩ := mem_bind.mp word
      obtain ⟨s', rfl, rfl⟩ := mem_text.mp hp
      obtain ⟨_, p', hp', tail'⟩ := mem_bind.mp tail
      obtain ⟨g, s'', rfl, some, hg, rfl, -⟩ := mem_least1.mp (mem_most1.mp hp')
      obtain ⟨-, rfl⟩ := mem_pure.mp tail'
      exact ⟨_, .inr ⟨g, rfl, hg, some⟩, (List.append_assoc ..).symm⟩
    · exact ⟨[], .inl rfl, rfl⟩
  obtain ⟨star, hstar, rfl⟩ := star
  obtain ⟨async, hasync, rfl⟩ := async
  rw [text]
  refine ⟨async, gap ++ (star ++ gap'), gap, star, gap', gap'', c, s₈, ?_, rfl, hasync, hg, hstar,
    hg', hn, hg'', stops⟩
  rw [parts₂, parts₅, parts₇]
  simp only [List.append_assoc]

theorem functionHead_reaches {async between : List Char}
    (h : FunctionHead Blank async between name s) :
    ∃ q, functionHead.Reaches ⟨b, s⟩ q := by
  obtain ⟨gap, star, gap', gap'', c, rest, rfl, rfl, hasync, hg, hstar, hg', hn, hg'', stops⟩ := h
  have word : ∀ s, (opt asyncWord).Reaches ⟨b, async ++ s⟩ ⟨lastOr b async, s⟩ := by
    intro s
    rcases hasync with rfl | ⟨g, rfl, hg, some⟩
    · exact reaches_opt_none _ _
    · rw [List.append_assoc, lastOr_append]
      exact ((reaches_text "async").bind fun _ => (reaches_most1 some hg).bind fun _ =>
        reaches_pure ()).opt
  have mark : ∀ b s, (opt (char (· == '*'))).Reaches ⟨b, star ++ s⟩ ⟨lastOr b star, s⟩ := by
    intro b s
    rcases hstar with rfl | rfl
    · exact reaches_opt_none _ _
    · exact (reaches_char rfl).opt
  have stop : (c == '(' || c == '<') = true := by
    rcases stops with rfl | rfl <;> rfl
  simp only [List.append_assoc]
  exact ⟨_, (word _).bind fun _ => (reaches_text "function").bind fun _ => (reaches_most hg).bind fun _ =>
    (mark _ _).bind fun _ => (reaches_most hg').bind fun _ =>
      Reaches.bind ⟨_, declaredName_reaches hn⟩ fun name => (reaches_most hg'').bind fun _ =>
        (reaches_char stop).bind fun _ => reaches_pure name⟩

theorem classHead_reads {x : Span} {q : Place} (way : (x, q) ∈ classHead ⟨b, s⟩) :
    ∃ name, ClassHead Blank name s := by
  obtain ⟨_, p₁, h₁, tail₁⟩ := mem_bind.mp way
  obtain ⟨s₁, rfl, rfl⟩ := mem_text.mp h₁
  obtain ⟨_, p₂, h₂, tail₂⟩ := mem_bind.mp tail₁
  obtain ⟨gap, s₂, rfl, some, hg, rfl, -⟩ := mem_least1.mp (mem_most1.mp h₂)
  obtain ⟨name, ⟨c, more, rfl, start, all⟩, rfl, -⟩ := declaredName_reads tail₂
  refine ⟨c :: (more ++ q.ahead.takeWhile isDeclaredRest), gap, q.ahead.dropWhile isDeclaredRest, ?_,
    hg, some, ⟨c, _, rfl, start, ?_⟩, head?_dropWhile _ _⟩
  · simp [List.takeWhile_append_dropWhile]
  · intro d hd
    rcases List.mem_append.mp hd with old | new
    · exact all d old
    · exact List.all_eq_true.mp List.all_takeWhile d new

theorem first?_classHead (h : ClassHead Blank name s) :
    ∃ x q, classHead.first? ⟨b, s⟩ = some (x, q) ∧ x.text = name := by
  obtain ⟨gap, rest, rfl, hg, nonempty, hn, stops⟩ := h
  exact ⟨_, _, first?_then (first?_text "class") (first?_then
    (first?_most1 nonempty hg (hn.head?_isBlank rest)) (first?_declaredName hn stops)),
    Span.text_append name rest⟩

theorem aloneOnLine_reads_line {x : Span} {q : Place} (way : (x, q) ∈ aloneOnLine ⟨b, s⟩) :
    AloneOnLine x.text s ∧ q.ahead = afterLine s := by
  obtain ⟨x', p₁, h₁, tail₁⟩ := mem_bind.mp way
  obtain ⟨name, hn, rfl, text, -⟩ := declaredName_reads h₁
  obtain ⟨_, p₂, h₂, tail₂⟩ := mem_bind.mp tail₁
  obtain ⟨gap, s₂, parts₂, hg, rfl, -⟩ := mem_least.mp (mem_most.mp h₂)
  obtain ⟨_, p₃, h₃, tail₃⟩ := mem_bind.mp tail₂
  obtain ⟨_, p₄, h₄, tail₄⟩ := mem_bind.mp tail₃
  obtain ⟨gap', s₄, parts₄, hg', rfl, -⟩ := mem_least.mp (mem_most.mp h₄)
  obtain ⟨_, p₅, h₅, tail₅⟩ := mem_bind.mp tail₄
  have ends := endsLine_lineEnd _ _ p₅ h₅
  obtain ⟨-, rfl⟩ := mem_here.mp h₅
  obtain ⟨rfl, rfl⟩ := mem_pure.mp tail₅
  dsimp only at ends ⊢
  have semicolon : ∃ semicolon, (semicolon = [] ∨ semicolon = [';']) ∧
      s₂ = semicolon ++ p₃.ahead := by
    rcases mem_opt.mp h₃ with ⟨d, hd, -⟩ | ⟨-, rfl⟩
    · obtain ⟨same, s₃, parts₃, rfl⟩ := mem_char.mp hd
      obtain rfl : d = ';' := by simpa using same
      exact ⟨[';'], .inr rfl, parts₃⟩
    · exact ⟨[], .inl rfl, rfl⟩
  obtain ⟨semicolon, hs, rfl⟩ := semicolon
  have rest : p₁.ahead = (gap ++ (semicolon ++ gap')) ++ s₄ := by
    rw [parts₂, parts₄]
    simp only [List.append_assoc]
  have unbroken : '\n' ∉ gap ++ (semicolon ++ gap') := by
    simp only [List.mem_append, not_or]
    refine ⟨InlineBlank.noBreak hg, ?_, InlineBlank.noBreak hg'⟩
    rcases hs with rfl | rfl <;> simp
  have line : firstLine p₁.ahead = gap ++ (semicolon ++ gap') := by
    rw [rest, firstLine_append unbroken, ends, List.append_nil]
  refine ⟨⟨p₁.ahead, by rw [text], text ▸ hn, ?_⟩, ?_⟩
  · rw [line]
    exact ⟨gap, semicolon, gap', rfl, hg, hg', hs⟩
  · have whole : firstLine (name ++ p₁.ahead) = name ++ (gap ++ (semicolon ++ gap')) := by
      rw [firstLine_append hn.noBreak, line]
    have split := firstLine_afterLine (name ++ p₁.ahead)
    rw [whole, List.append_assoc, rest] at split
    simp only [List.append_assoc] at split
    have behind := List.append_cancel_left (List.append_cancel_left
      (List.append_cancel_left (List.append_cancel_left split)))
    rw [rest]
    simp only [List.append_assoc]
    exact behind.symm

theorem aloneOnLine_reaches (h : AloneOnLine name s) : ∃ q, aloneOnLine.Reaches ⟨b, s⟩ q := by
  obtain ⟨rest, rfl, hn, hc⟩ := h
  obtain ⟨gap, semicolon, gap', rest, rfl, hg, hg', hs, ends⟩ := closing_parts hc
  exact ⟨_, Reaches.bind ⟨_, declaredName_reaches hn⟩ fun name => (reaches_most hg).bind fun _ =>
    (reaches_semicolon hs).bind fun _ => (reaches_most hg').bind fun _ => (ends _).bind fun _ =>
      reaches_pure name⟩

end Entry

def isLineEnd (c : Char) : Bool := c == '\n' || c == '\r' || c == '\u2028' || c == '\u2029'

def OneLine (s : List Char) : Prop := ∀ c ∈ s, isLineEnd c = false

/-- What may stand between the words of a script: white space and comments. -/
inductive Trivia : List Char → Prop
  | nil : Trivia []
  | space {c : Char} {s : List Char} : isBlank c = true ∨ c = '\uFEFF' → Trivia s → Trivia (c :: s)
  | line {comment s : List Char} {c : Char} : OneLine comment → isLineEnd c = true → Trivia s →
    Trivia ("//".toList ++ (comment ++ c :: s))
  | block {comment s : List Char} : ¬"*/".toList <:+: comment → Trivia s →
    Trivia ("/*".toList ++ (comment ++ ("*/".toList ++ s)))

def isTriviaMark (c : Char) : Bool := c == '/' || c == '\uFEFF'

theorem Trivia.ofBlank {g : List Char} (h : Blank g) : Trivia g := by
  induction g with
  | nil => exact .nil
  | cons c g ih => exact .space (.inl (h c (by simp))) (ih fun d hd => h d (by simp [hd]))

theorem Trivia.append {g h : List Char} (hg : Trivia g) (hh : Trivia h) : Trivia (g ++ h) := by
  induction hg with
  | nil => exact hh
  | space hc _ ih => exact .space hc ih
  | @line comment s c hc breaks _ ih =>
    have parts : "//".toList ++ (comment ++ c :: s) ++ h =
        "//".toList ++ (comment ++ c :: (s ++ h)) := by simp
    exact parts ▸ .line hc breaks ih
  | @block comment s hc _ ih =>
    have parts : "/*".toList ++ (comment ++ ("*/".toList ++ s)) ++ h =
        "/*".toList ++ (comment ++ ("*/".toList ++ (s ++ h))) := by simp
    exact parts ▸ .block hc ih

theorem Trivia.split {g : List Char} (h : Trivia g) :
    Blank g ∨ ∃ blanks c rest, g = blanks ++ c :: rest ∧ Blank blanks ∧ isTriviaMark c = true := by
  induction h with
  | nil => exact .inl fun c member => absurd member List.not_mem_nil
  | @space c s hc _ ih =>
    by_cases blank : isBlank c = true
    · rcases ih with all | ⟨blanks, d, rest, rfl, all, mark⟩
      · exact .inl (List.forall_mem_cons.mpr ⟨blank, all⟩)
      · exact .inr ⟨c :: blanks, d, rest, rfl, List.forall_mem_cons.mpr ⟨blank, all⟩, mark⟩
    · refine .inr ⟨[], c, s, rfl, fun d member => absurd member List.not_mem_nil, ?_⟩
      rw [hc.resolve_left blank]
      decide
  | line => exact .inr ⟨[], '/', _, rfl, fun d member => absurd member List.not_mem_nil, rfl⟩
  | block => exact .inr ⟨[], '/', _, rfl, fun d member => absurd member List.not_mem_nil, rfl⟩

theorem not_isBlank_of_isTriviaMark {c : Char} (h : isTriviaMark c = true) : isBlank c = false := by
  simp only [isTriviaMark, Bool.or_eq_true, beq_iff_eq] at h
  rcases h with rfl | rfl <;> decide

theorem not_isDeclaredRest_of_isTriviaMark {c : Char} (h : isTriviaMark c = true) :
    isDeclaredRest c = false := by
  simp only [isTriviaMark, Bool.or_eq_true, beq_iff_eq] at h
  rcases h with rfl | rfl <;> decide +kernel

theorem not_isTriviaMark_of_isDeclaredRest {c : Char} (h : isDeclaredRest c = true) :
    isTriviaMark c = false := by
  cases mark : isTriviaMark c with
  | false => rfl
  | true =>
    rw [not_isDeclaredRest_of_isTriviaMark mark] at h
    cases h

/-- If blanks reach a character that begins no comment, then so does whatever may stand there
instead, and it is the same blanks. -/
theorem Text.Blank.eq_of_trivia {g g' s t : List Char} {c d : Char} (hg : Blank g) (hg' : Trivia g')
    (hc : isBlank c = false) (plain : isTriviaMark c = false) (hd : isBlank d = false)
    (same : g ++ c :: s = g' ++ d :: t) : g = g' ∧ c = d ∧ s = t := by
  rcases hg'.split with blank | ⟨blanks, e, rest, rfl, blank, mark⟩
  · exact hg.eq_of_append blank hc hd same
  · rw [List.append_assoc] at same
    obtain ⟨-, rfl, -⟩ := hg.eq_of_append blank hc (not_isBlank_of_isTriviaMark mark) same
    rw [plain] at mark
    cases mark

theorem Trivia.head? {g s : List Char} (h : Trivia g) (hs : s.head?.any isDeclaredRest = false) :
    (g ++ s).head?.any isDeclaredRest = false := by
  rcases h.split with blank | ⟨blanks, c, rest, rfl, blank, mark⟩
  · cases g with
    | nil => exact hs
    | cons c g =>
      cases letter : isDeclaredRest c with
      | false => exact letter
      | true => exact absurd (blank c (by simp)) (by simp [Entry.not_isBlank_of_isDeclaredRest letter])
  · cases blanks with
    | nil => exact not_isDeclaredRest_of_isTriviaMark mark
    | cons d blanks =>
      cases letter : isDeclaredRest d with
      | false => exact letter
      | true => exact absurd (blank d (by simp)) (by simp [Entry.not_isBlank_of_isDeclaredRest letter])

theorem Statement.IsDeclaredName.eq {name name' s t : List Char} (hn : IsDeclaredName name)
    (hn' : IsDeclaredName name') (hs : s.head?.any isDeclaredRest = false)
    (ht : t.head?.any isDeclaredRest = false) (same : name ++ s = name' ++ t) :
    name = name' ∧ s = t :=
  run_eq_of_stops hn.declared hn'.declared hs ht same

theorem FunctionHead.trivia {async between : List Char} (h : FunctionHead Blank async between name s) :
    FunctionHead Trivia async between name s := by
  obtain ⟨gap, star, gap', gap'', c, rest, parts, between, hasync, hg, hstar, hg', hn, hg'', hc⟩ := h
  refine ⟨gap, star, gap', gap'', c, rest, parts, between, ?_, .ofBlank hg, hstar, .ofBlank hg', hn,
    .ofBlank hg'', hc⟩
  exact hasync.imp_right fun ⟨g, word, blank, nonempty⟩ => ⟨g, word, .ofBlank blank, nonempty⟩

theorem ClassHead.trivia (h : ClassHead Blank name s) : ClassHead Trivia name s := by
  obtain ⟨gap, rest, parts, hg, some, hn, stops⟩ := h
  exact ⟨gap, rest, parts, .ofBlank hg, some, hn, stops⟩

theorem FunctionHead.eq {async async' between between' name' : List Char}
    (h : FunctionHead Blank async between name s) (h' : FunctionHead Trivia async' between' name' s) :
    between = between' ∧ name = name' := by
  obtain ⟨gap, star, gap', gap'', c, rest, rfl, rfl, hasync, hg, hstar, hg', hn, hg'', hc⟩ := h
  obtain ⟨gap₂, star₂, gap₂', gap₂'', c₂, rest₂, same, rfl, hasync₂, hg₂, hstar₂, hg₂', hn₂,
    hg₂'', hc₂⟩ := h'
  have function : "function".toList = 'f' :: "unction".toList := rfl
  have word : "async".toList = 'a' :: "sync".toList := rfl
  have behind : (gap ++ (star ++ gap')) ++ (name ++ (gap'' ++ c :: rest)) =
      (gap₂ ++ (star₂ ++ gap₂')) ++ (name' ++ (gap₂'' ++ c₂ :: rest₂)) := by
    rcases hasync with rfl | ⟨g, rfl, blank, -⟩ <;> rcases hasync₂ with rfl | ⟨g₂, rfl, trivia, -⟩
    · exact List.append_cancel_left same
    · rw [function, word] at same
      cases same
    · rw [function, word] at same
      cases same
    · rw [List.append_assoc "async".toList, List.append_assoc "async".toList] at same
      have inner := List.append_cancel_left same
      rw [function, List.cons_append, List.cons_append] at inner
      obtain ⟨-, -, further⟩ := blank.eq_of_trivia trivia (by decide) (by decide) (by decide) inner
      exact List.append_cancel_left further
  have stops : ∀ (c : Char) (rest : List Char), c = '(' ∨ c = '<' →
      (c :: rest).head?.any isDeclaredRest = false := by
    rintro c rest (rfl | rfl)
    · exact (by decide : isDeclaredRest '(' = false)
    · exact (by decide : isDeclaredRest '<' = false)
  have ends := (Trivia.ofBlank hg'').head? (stops c rest hc)
  have ends₂ := hg₂''.head? (stops c₂ rest₂ hc₂)
  have letters := hn.declared
  have letters₂ := hn₂.declared
  obtain ⟨n, more, rfl, hstart, -⟩ := id hn
  obtain ⟨n₂, more₂, rfl, hstart₂, -⟩ := id hn₂
  have letter := letters n (by simp)
  have letter₂ := letters₂ n₂ (by simp)
  have blank := Entry.not_isBlank_of_isDeclaredRest letter
  have blank₂ := Entry.not_isBlank_of_isDeclaredRest letter₂
  have plain := not_isTriviaMark_of_isDeclaredRest letter
  have solid : isDeclaredRest '*' = false := by decide
  rcases hstar with rfl | rfl <;> rcases hstar₂ with rfl | rfl
  · have gaps : Blank ([] ++ gap') := hg'
    have blanks : Blank (gap ++ ([] ++ gap')) := by
      intro d hd
      rcases List.mem_append.mp hd with hd | hd
      · exact hg d hd
      · exact gaps d hd
    obtain ⟨between, rfl, further⟩ := blanks.eq_of_trivia (hg₂.append (g := gap₂) (h := [] ++ gap₂') hg₂') blank plain blank₂ behind
    exact ⟨between, (hn.eq hn₂ ends ends₂ (congrArg (n :: ·) further)).1⟩
  · have shape : (gap ++ ([] ++ gap')) ++ n :: (more ++ (gap'' ++ c :: rest)) =
        gap₂ ++ '*' :: (gap₂' ++ (n₂ :: more₂ ++ (gap₂'' ++ c₂ :: rest₂))) := by
      simpa using behind
    have blanks : Blank (gap ++ ([] ++ gap')) := by
      intro d hd
      rcases List.mem_append.mp hd with hd | hd
      · exact hg d hd
      · exact hg' d hd
    obtain ⟨-, rfl, -⟩ := blanks.eq_of_trivia hg₂ blank plain (by decide) shape
    rw [solid] at letter
    cases letter
  · have shape : gap ++ '*' :: (gap' ++ (n :: more ++ (gap'' ++ c :: rest))) =
        (gap₂ ++ gap₂') ++ n₂ :: (more₂ ++ (gap₂'' ++ c₂ :: rest₂)) := by
      simpa using behind
    obtain ⟨-, rfl, -⟩ := hg.eq_of_trivia (hg₂.append hg₂') (by decide) (by decide) blank₂ shape
    rw [solid] at letter₂
    cases letter₂
  · have shape : gap ++ '*' :: (gap' ++ n :: (more ++ (gap'' ++ c :: rest))) =
        gap₂ ++ '*' :: (gap₂' ++ n₂ :: (more₂ ++ (gap₂'' ++ c₂ :: rest₂))) := by
      simpa using behind
    obtain ⟨rfl, -, inner⟩ := hg.eq_of_trivia hg₂ (by decide) (by decide) (by decide) shape
    obtain ⟨rfl, rfl, further⟩ := hg'.eq_of_trivia hg₂' blank plain blank₂ inner
    exact ⟨rfl, (hn.eq hn₂ ends ends₂ (congrArg (n :: ·) further)).1⟩

theorem ClassHead.eq {name' : List Char} (h : ClassHead Blank name s)
    (h' : ClassHead Trivia name' s) : name = name' := by
  obtain ⟨gap, rest, rfl, hg, -, hn, stops⟩ := h
  obtain ⟨gap₂, rest₂, same, hg₂, -, hn₂, stops₂⟩ := h'
  have behind := List.append_cancel_left same
  have letters := hn.declared
  have letters₂ := hn₂.declared
  obtain ⟨n, more, rfl, -⟩ := id hn
  obtain ⟨n₂, more₂, rfl, -⟩ := id hn₂
  have letter := letters n (by simp)
  obtain ⟨-, rfl, further⟩ := hg.eq_of_trivia hg₂ (Entry.not_isBlank_of_isDeclaredRest letter)
    (not_isTriviaMark_of_isDeclaredRest letter)
    (Entry.not_isBlank_of_isDeclaredRest (letters₂ n₂ (by simp))) behind
  exact (hn.eq hn₂ stops stops₂ (congrArg (n :: ·) further)).1

theorem closing_filler {line : List Char} (h : Closing line) : ∀ c ∈ line, Entry.isFiller c = true := by
  obtain ⟨gap, semicolon, gap', rfl, hg, hg', hs⟩ := h
  intro c member
  rcases List.mem_append.mp member with hc | hc
  · simp [Entry.isFiller, hg c hc]
  rcases List.mem_append.mp hc with hc | hc
  · rcases hs with rfl | rfl
    · cases hc
    · obtain rfl := List.mem_singleton.mp hc
      rfl
  · simp [Entry.isFiller, hg' c hc]

theorem closing_head? {rest : List Char} (h : Closing (firstLine rest)) :
    rest.head?.any isDeclaredRest = false := by
  cases rest with
  | nil => rfl
  | cons c rest =>
    by_cases feed : c = '\n'
    · subst feed
      exact (by decide : isDeclaredRest '\n' = false)
    · rw [firstLine_cons feed] at h
      have filler := closing_filler h c List.mem_cons_self
      cases letter : isDeclaredRest c with
      | false => exact letter
      | true =>
        rw [Entry.not_isFiller_of_isDeclaredRest letter] at filler
        cases filler

theorem AloneOnLine.eq {word : List Char} (h : AloneOnLine name (word ++ s))
    (hw : IsDeclaredName word) (hs : s.head?.any isDeclaredRest = false) : name = word := by
  obtain ⟨rest, same, hn, hc⟩ := h
  exact (hn.eq hw (closing_head? hc) hs same.symm).1

/-- A line behind `before` exports `tail` by default. -/
def ExportsAt (before tail body : List Char) : Prop :=
  ∃ head gap, body = before ++ (head ++ (gap ++ tail)) ∧ startsLine (lastOr none before) = true ∧
    DefaultHead head ∧ Blank gap ∧ gap ≠ [] ∧ tail.head?.any isBlank = false

/-- Every line that exports something by default is the one behind `before`. -/
def SoleDefault (before body : List Char) : Prop :=
  ∀ front back, body = front ++ back →
    (∃ q, Entry.lineExportDefault.Reaches ⟨lastOr none front, back⟩ q) → front = before

theorem soleDefault_iff {before body : List Char} : SoleDefault before body ↔
    ∀ i < body.length + 1, (Entry.lineExportDefault ⟨lastOr none (body.take i), body.drop i⟩).isEmpty = true ∨
      body.take i = before := by
  constructor
  · intro sole i _
    by_cases empty : (Entry.lineExportDefault ⟨lastOr none (body.take i), body.drop i⟩).isEmpty = true
    · exact .inl empty
    · rw [List.isEmpty_iff] at empty
      obtain ⟨way, member⟩ := List.exists_mem_of_ne_nil _ empty
      exact .inr (sole _ _ (List.take_append_drop i body).symm ⟨way.2, way.1, member⟩)
  · rintro places front back rfl ⟨q, u, way⟩
    have here := places front.length (by rw [List.length_append]; omega)
    rw [List.take_left, List.drop_left, List.isEmpty_iff] at here
    exact here.resolve_left (List.ne_nil_of_mem way)

instance (before body : List Char) : Decidable (SoleDefault before body) :=
  decidable_of_iff _ soleDefault_iff.symm

theorem DefaultHead.eq {head head' s t : List Char} (h : DefaultHead head) (h' : DefaultHead head')
    (same : head ++ s = head' ++ t) : head = head' ∧ s = t := by
  obtain ⟨indent, gap, rfl, hi, hg, -⟩ := h
  obtain ⟨indent', gap', rfl, hi', hg', -⟩ := h'
  have first : "export".toList = 'e' :: "xport".toList := rfl
  have second : "default".toList = 'd' :: "efault".toList := rfl
  have shape : indent ++ 'e' :: ("xport".toList ++ (gap ++ 'd' :: ("efault".toList ++ s))) =
      indent' ++ 'e' :: ("xport".toList ++ (gap' ++ 'd' :: ("efault".toList ++ t))) := by
    simpa [first, second] using same
  obtain ⟨rfl, -, inner⟩ := hi.blank.eq_of_append hi'.blank (by decide) (by decide) shape
  obtain ⟨rfl, -, further⟩ :=
    hg.eq_of_append hg' (by decide) (by decide) (List.append_cancel_left inner)
  exact ⟨rfl, List.append_cancel_left further⟩

namespace Entry

variable {before body : List Char}

theorem first?_default {α : Type} {n : Matcher α} {head gap : List Char}
    (start : startsLine b = true) (hd : DefaultHead head) (hg : Blank gap) (nonempty : gap ≠ [])
    (stops : tail.head?.any isBlank = false)
    (solid : ∀ p, n p ≠ [] → p.ahead.head?.any isBlank = false) :
    (do lineExportDefault; n).first? ⟨b, head ++ (gap ++ tail)⟩ =
      n.first? ⟨lastOr b (head ++ gap), tail⟩ := by
  obtain ⟨u, way⟩ := lineExportDefault_reaches (s := tail) start hd hg nonempty
  refine first?_bind way fun _ q way' further => ⟨rfl, ?_⟩
  obtain ⟨-, head', gap', parts, hd', hg', -, behind⟩ := lineExportDefault_way way'
  obtain ⟨rfl, rest⟩ := hd.eq hd' parts
  obtain ⟨rfl, ahead⟩ := run_eq_of_stops hg hg' stops (solid q further) rest
  obtain ⟨b', s'⟩ := q
  dsimp only at ahead behind
  rw [ahead, behind]

theorem first?_lineExportDefault {head gap : List Char} (start : startsLine b = true)
    (hd : DefaultHead head) (hg : Blank gap) (nonempty : gap ≠ [])
    (stops : tail.head?.any isBlank = false) :
    lineExportDefault.first? ⟨b, head ++ (gap ++ tail)⟩ =
      some ((), ⟨lastOr b (head ++ gap), tail⟩) := by
  obtain ⟨indent, gap', rfl, hi, hg', nonempty'⟩ := hd
  simp only [List.append_assoc, lastOr_append]
  exact first?_then (first?_here start) (first?_then (first?_most hi rfl) (first?_then
    (first?_text "export") (first?_then (first?_most1 nonempty' hg' rfl) (first?_then
      (first?_text "default") (first?_then (first?_most1 nonempty hg stops) rfl)))))

theorem first?_ne_none {α : Type} {m : Matcher α} {p : Place} (h : m.first? p ≠ none) : m p ≠ [] :=
  fun empty => h (by rw [first?, empty]; rfl)

theorem begins_default {α : Type} {n : Matcher α} {p : Place}
    (h : (do lineExportDefault; n).first? p ≠ none) : ∃ q, lineExportDefault.Reaches p q := by
  obtain ⟨⟨x, r⟩, way⟩ := List.exists_mem_of_ne_nil _ (first?_ne_none h)
  obtain ⟨u, q, hq, -⟩ := mem_bind.mp way
  exact ⟨q, u, hq⟩

section Sole

variable {α : Type} {m : Matcher α} {rest : List Char}
  (begins : ∀ p, m.first? p ≠ none → ∃ q, lineExportDefault.Reaches p q)
  (parts : body = before ++ rest) (sole : SoleDefault before body)

include begins parts sole

theorem unread_before {front back : List Char} (split : before = front ++ back) (some : back ≠ []) :
    m.first? ⟨lastOr none front, back ++ rest⟩ = none := by
  by_contra found
  have here := sole front (back ++ rest) (by rw [parts, split, List.append_assoc]) (begins _ found)
  rw [split] at here
  exact some (List.self_eq_append_right.mp here)

theorem unread_behind {front back : List Char} (split : rest = front ++ back) (some : front ≠ []) :
    m.first? ⟨lastOr (lastOr none before) front, back⟩ = none := by
  by_contra found
  rw [← lastOr_append] at found
  have here := sole (before ++ front) back (by rw [parts, split, List.append_assoc]) (begins _ found)
  exact some (List.append_right_eq_self.mp here)

theorem find?_sole (nonempty : rest ≠ []) :
    m.find? body = (m.first? ⟨lastOr none before, rest⟩).map fun way =>
      ⟨before, way.1, rest.take (rest.length - way.2.ahead.length), way.2⟩ := by
  rw [find?, parts, search?_skip fun front back split some =>
    unread_before begins parts sole split some]
  cases found : m.first? ⟨lastOr none before, rest⟩ with
  | some way =>
    rw [search?_of_first? nonempty found]
    simp
  | none =>
    rw [search?_eq_none fun front back split => ?_]
    · rfl
    · rcases eq_or_ne front [] with rfl | some
      · rw [List.nil_append] at split
        exact split ▸ found
      · exact unread_behind begins parts sole split some

theorem dropFirst?_sole (test : α → Bool) (consumes : m.Consumes) :
    dropFirst? test (m.pieces body) =
      ((m.first? ⟨lastOr none before, rest⟩).filter fun way => test way.1).map fun way =>
        (way.1, before ++ way.2.ahead) := by
  have none : ∀ s : List Char, dropFirst? test (s.map .kept) = none := by
    intro s
    have kept := dropFirst?_kept test s []
    rwa [List.append_nil] at kept
  rw [pieces, parts, piecesFrom_kept fun front back split some =>
    unread_before begins parts sole split some, dropFirst?_kept]
  cases found : m.first? ⟨lastOr Option.none before, rest⟩ with
  | none =>
    rw [piecesFrom_unread fun front back split _ => ?_, none]
    · rfl
    · rcases eq_or_ne front [] with rfl | some
      · rw [List.nil_append] at split
        exact split ▸ found
      · exact unread_behind begins parts sole split some
  | some way =>
    obtain ⟨x, q⟩ := way
    obtain ⟨run, some, ahead⟩ := consumes _ x q (mem_of_first? found)
    dsimp only at ahead
    rw [ahead] at found
    rw [ahead, piecesFrom_hit some found, dropFirst?]
    by_cases passes : test x = true
    · have self := (cut_piecesFrom consumes (lastOr (lastOr Option.none before) run) q.ahead).write_self
      rw [if_pos passes, self, Option.filter, if_pos passes]
      rfl
    · rw [if_neg passes, piecesFrom_unread fun front back split _ => ?_, none]
      · rw [Option.filter, if_neg passes]
        rfl
      · rw [← lastOr_append]
        have behind : rest = (run ++ front) ++ back := by rw [ahead, split, List.append_assoc]
        exact unread_behind begins parts sole behind (by simp [some])

end Sole

theorem functionHead_solid (p : Place) (h : functionHead p ≠ []) :
    p.ahead.head?.any isBlank = false := by
  obtain ⟨⟨x, q⟩, way⟩ := List.exists_mem_of_ne_nil _ h
  obtain ⟨async, between, gap, star, gap', gap'', c, rest, parts, -, hasync, -⟩ :=
    functionHead_reads (b := p.behind) way
  rw [parts]
  rcases hasync with rfl | ⟨g, rfl, -⟩ <;> rfl

theorem classHead_solid (p : Place) (h : classHead p ≠ []) :
    p.ahead.head?.any isBlank = false := by
  obtain ⟨⟨x, q⟩, way⟩ := List.exists_mem_of_ne_nil _ h
  obtain ⟨name, gap, rest, parts, -⟩ := classHead_reads (b := p.behind) way
  rw [parts]
  rfl

theorem aloneOnLine_solid (p : Place) (h : aloneOnLine p ≠ []) :
    p.ahead.head?.any isBlank = false := by
  obtain ⟨⟨x, q⟩, way⟩ := List.exists_mem_of_ne_nil _ h
  obtain ⟨⟨rest, parts, hn, -⟩, -⟩ := aloneOnLine_reads_line (b := p.behind) way
  rw [parts]
  exact hn.head?_isBlank rest

theorem located_solid {declared : Matcher Span}
    (solid : ∀ p, declared p ≠ [] → p.ahead.head?.any isBlank = false) (p : Place)
    (h : located declared p ≠ []) : p.ahead.head?.any isBlank = false :=
  solid p fun empty => h (by rw [located, empty]; rfl)

theorem locate_sole (fallback : String) (place : ExportsAt before tail body)
    (sole : SoleDefault before body) :
    ∃ b, locate fallback body =
      (((functionHead.first? ⟨b, tail⟩).map fun (way : Span × Place) =>
          ofDeclared .defaultFunction (before ++ tail, way.1)) <|>
        (((aloneOnLine.first? ⟨b, tail⟩).filter fun (way : Span × Place) =>
          isBindingName way.1).map fun (way : Span × Place) =>
            ofDeclared .defaultIdentifier (before ++ way.2.ahead, way.1)) <|>
        (classHead.first? ⟨b, tail⟩).map fun (way : Span × Place) =>
          ofDeclared .defaultClass (before ++ tail, way.1)).getD
      ⟨before ++ ("const " ++ fallback ++ " = ").toList ++ tail, fallback, .anonymousDefault⟩ := by
  obtain ⟨head, gap, parts, start, hd, hg, nonempty, stops⟩ := place
  refine ⟨lastOr (lastOr none before) (head ++ gap), ?_⟩
  have some : head ++ (gap ++ tail) ≠ [] := by simp [nonempty]
  have function := find?_sole (m := defaultFunction) (fun _ => begins_default) parts sole some
  have «class» := find?_sole (m := defaultClass) (fun _ => begins_default) parts sole some
  have value := find?_sole (m := lineExportDefault) (fun p found => begins_default (n := pure ()) (by
    rwa [bind_pure])) parts sole some
  have identifier := dropFirst?_sole (m := defaultIdentifier) (fun _ => begins_default) parts sole
    isBindingName defaultIdentifier_startsStatement.consumes
  rw [defaultFunction_eq, first?_default start hd hg nonempty stops
    (located_solid functionHead_solid), first?_located] at function
  rw [defaultClass_eq, first?_default start hd hg nonempty stops
    (located_solid classHead_solid), first?_located] at «class»
  rw [defaultIdentifier_eq, first?_default start hd hg nonempty stops
    aloneOnLine_solid] at identifier
  rw [first?_lineExportDefault start hd hg nonempty stops] at value
  rw [locate, dropExport?, dropExport?, bindAnonymous?, defaultFunction_eq, defaultClass_eq,
    defaultIdentifier_eq, function, «class», value, identifier]
  simp only [Option.map_map, Option.map_some]
  cases functionHead.first? ⟨lastOr (lastOr none before) (head ++ gap), tail⟩ with
  | some way => rfl
  | none =>
    cases (aloneOnLine.first? ⟨lastOr (lastOr none before) (head ++ gap), tail⟩).filter
        (fun (way : Span × Place) => isBindingName way.1) with
    | some way => rfl
    | none =>
      cases classHead.first? ⟨lastOr (lastOr none before) (head ++ gap), tail⟩ with
      | some way => rfl
      | none => rfl

end Entry

end PagePreview
