import PagePreview.Proofs.DefaultEntry
import Mathlib.Data.List.Chain

/-!
# Guessed entries

Where nothing is exported by default, the entry is guessed: it is the first constant that is bound to
a parenthesis, or else the first function that is declared. Either opens with a keyword, a name and
what leads from it to a parenthesis. A text passes if none opens in it, whatever follows it.
-/

namespace PagePreview
open Text Matcher Statement

variable {b : Option Char} {front name run s t value : List Char}

namespace Entry

def Assigned (s : List Char) : Prop :=
  ∃ gap note gap', s = gap ++ (note ++ '=' :: gap') ∧ Blank gap ∧ Blank gap' ∧
    (note = [] ∨ ∃ run, note = ':' :: run ∧ run ≠ [] ∧ ∀ c ∈ run, (c != '=' && c != '\n') = true)

def Lead (word : String) (Bridge : List Char → Prop) (s : List Char) : Prop :=
  ∃ gap name bridge, s = word.toList ++ (gap ++ (name ++ bridge)) ∧ Blank gap ∧ gap ≠ [] ∧
    IsDeclaredName name ∧ Bridge bridge

def GuessHead (s : List Char) : Prop := Lead "const" Assigned s ∨ Lead "function" Blank s

def Guess (s : List Char) : Prop := ∃ front rest, s = front ++ '(' :: rest ∧ GuessHead front

def Unguessed (s : List Char) : Prop := ∀ before after, s = before ++ after → ¬Guess after

def Passed (s : List Char) : Prop :=
  ∀ before after, s = before ++ after → after ≠ [] → ∀ t, ¬Guess (after ++ t)

def constGuess : Matcher Span := do
  text "const"
  let _ ← blanks1
  let name ← declaredName
  let _ ← blanks
  let _ ← opt (do let _ ← char (· == ':'); most1 fun c => c != '=' && c != '\n')
  text "="
  let _ ← blanks
  text "("
  pure name

def functionGuess : Matcher Span := do
  text "function"
  let _ ← blanks1
  let name ← declaredName
  let _ ← blanks
  text "("
  pure name

theorem constDeclaration_eq : constDeclaration = (do edge isWord; constGuess) := rfl

theorem functionDeclaration_eq : functionDeclaration = (do edge isWord; functionGuess) := rfl

theorem constGuess_reads {x : Span} {q : Place} (way : (x, q) ∈ constGuess ⟨b, s⟩) : Guess s := by
  obtain ⟨_, p₁, h₁, tail₁⟩ := mem_bind.mp way
  obtain ⟨s₁, parts₁, rfl⟩ := mem_text.mp h₁
  obtain ⟨_, p₂, h₂, tail₂⟩ := mem_bind.mp tail₁
  obtain ⟨gap, s₂, rfl, some, hg, rfl, -⟩ := mem_least1.mp (mem_most1.mp h₂)
  obtain ⟨_, p₃, h₃, tail₃⟩ := mem_bind.mp tail₂
  obtain ⟨name, hn, parts₃, -⟩ := declaredName_reads h₃
  obtain ⟨_, p₄, h₄, tail₄⟩ := mem_bind.mp tail₃
  obtain ⟨gap₁, s₄, parts₄, hg₁, rfl, -⟩ := mem_least.mp (mem_most.mp h₄)
  obtain ⟨_, p₅, h₅, tail₅⟩ := mem_bind.mp tail₄
  obtain ⟨_, p₆, h₆, tail₆⟩ := mem_bind.mp tail₅
  obtain ⟨s₆, parts₆, rfl⟩ := mem_text.mp h₆
  obtain ⟨_, p₇, h₇, tail₇⟩ := mem_bind.mp tail₆
  obtain ⟨gap₂, s₇, rfl, hg₂, rfl, -⟩ := mem_least.mp (mem_most.mp h₇)
  obtain ⟨_, p₈, h₈, -⟩ := mem_bind.mp tail₇
  obtain ⟨s₈, rfl, -⟩ := mem_text.mp h₈
  have annotated : ∃ note, s₄ = note ++ p₅.ahead ∧
      (note = [] ∨ ∃ run, note = ':' :: run ∧ run ≠ [] ∧ ∀ c ∈ run, (c != '=' && c != '\n') = true) := by
    rcases mem_opt.mp h₅ with ⟨_, hnote, -⟩ | ⟨-, rfl⟩
    · obtain ⟨_, p, colon, hrun⟩ := mem_bind.mp hnote
      obtain ⟨same, s', rfl, rfl⟩ := mem_char.mp colon
      obtain ⟨run, rest, rfl, nonempty, all, rfl, -⟩ := mem_least1.mp (mem_most1.mp hrun)
      exact ⟨':' :: run, by rw [beq_iff_eq.mp same]; rfl, .inr ⟨run, rfl, nonempty, all⟩⟩
    · exact ⟨[], rfl, .inl rfl⟩
  obtain ⟨note, rfl, noted⟩ := annotated
  refine ⟨"const".toList ++ (gap ++ (name ++ (gap₁ ++ (note ++ '=' :: gap₂)))), s₈, ?_,
    .inl ⟨gap, name, _, rfl, hg, some, hn, gap₁, note, gap₂, rfl, hg₁, hg₂, noted⟩⟩
  dsimp only at parts₁ parts₃ parts₄ parts₆
  rw [parts₁, parts₃, parts₄, parts₆]
  simp only [List.append_assoc]
  rfl

theorem functionGuess_reads {x : Span} {q : Place} (way : (x, q) ∈ functionGuess ⟨b, s⟩) :
    Guess s := by
  obtain ⟨_, p₁, h₁, tail₁⟩ := mem_bind.mp way
  obtain ⟨s₁, parts₁, rfl⟩ := mem_text.mp h₁
  obtain ⟨_, p₂, h₂, tail₂⟩ := mem_bind.mp tail₁
  obtain ⟨gap, s₂, rfl, some, hg, rfl, -⟩ := mem_least1.mp (mem_most1.mp h₂)
  obtain ⟨_, p₃, h₃, tail₃⟩ := mem_bind.mp tail₂
  obtain ⟨name, hn, parts₃, -⟩ := declaredName_reads h₃
  obtain ⟨_, p₄, h₄, tail₄⟩ := mem_bind.mp tail₃
  obtain ⟨gap₁, s₄, parts₄, hg₁, rfl, -⟩ := mem_least.mp (mem_most.mp h₄)
  obtain ⟨_, p₅, h₅, -⟩ := mem_bind.mp tail₄
  obtain ⟨s₅, rfl, -⟩ := mem_text.mp h₅
  refine ⟨"function".toList ++ (gap ++ (name ++ gap₁)), s₅, ?_,
    .inr ⟨gap, name, gap₁, rfl, hg, some, hn, hg₁⟩⟩
  dsimp only at parts₁ parts₃ parts₄
  rw [parts₁, parts₃, parts₄]
  simp only [List.append_assoc]
  rfl

theorem guess_reaches (h : Guess s) :
    (∃ q, constGuess.Reaches ⟨b, s⟩ q) ∨ ∃ q, functionGuess.Reaches ⟨b, s⟩ q := by
  obtain ⟨front, rest, rfl, head⟩ := h
  rcases head with ⟨gap, name, _, rfl, hg, some, hn, gap₁, note, gap₂, rfl, hg₁, hg₂, noted⟩ |
    ⟨gap, name, gap₁, rfl, hg, some, hn, hg₁⟩
  · left
    have optional : ∀ b s, ∃ c, (opt (do let _ ← char (· == ':'); most1 fun c => c != '=' && c != '\n')).Reaches
        ⟨b, note ++ s⟩ ⟨c, s⟩ := by
      intro b s
      rcases noted with rfl | ⟨run, rfl, nonempty, all⟩
      · exact ⟨b, reaches_opt_none _ _⟩
      · exact ⟨_, Reaches.opt ((reaches_char rfl).bind fun _ => reaches_most1 nonempty all)⟩
    obtain ⟨c, annotated⟩ := optional (lastOr (lastOr (lastOr (lastOr b "const".toList) gap) name) gap₁)
      ("=".toList ++ (gap₂ ++ ("(".toList ++ rest)))
    refine ⟨⟨lastOr (lastOr (lastOr c "=".toList) gap₂) "(".toList, rest⟩, ?_⟩
    have parts : "const".toList ++ (gap ++ (name ++ (gap₁ ++ (note ++ '=' :: gap₂)))) ++ '(' :: rest =
        "const".toList ++ (gap ++ (name ++ (gap₁ ++ (note ++ ("=".toList ++ (gap₂ ++ ("(".toList ++ rest))))))) := by
      simp only [List.append_assoc]
      rfl
    rw [parts]
    refine (reaches_text "const").bind fun _ => (reaches_most1 some hg).bind fun _ => ?_
    refine Reaches.bind ⟨_, declaredName_reaches hn⟩ fun _ => (reaches_most hg₁).bind fun _ => ?_
    exact annotated.bind fun _ => (reaches_text "=").bind fun _ => (reaches_most hg₂).bind fun _ =>
      (reaches_text "(").bind fun _ => reaches_pure _
  · right
    refine ⟨⟨lastOr (lastOr (lastOr (lastOr (lastOr b "function".toList) gap) name) gap₁) "(".toList, rest⟩, ?_⟩
    have parts : "function".toList ++ (gap ++ (name ++ gap₁)) ++ '(' :: rest =
        "function".toList ++ (gap ++ (name ++ (gap₁ ++ ("(".toList ++ rest)))) := by
      simp only [List.append_assoc]
      rfl
    rw [parts]
    refine (reaches_text "function").bind fun _ => (reaches_most1 some hg).bind fun _ => ?_
    exact Reaches.bind ⟨_, declaredName_reaches hn⟩ fun _ => (reaches_most hg₁).bind fun _ =>
      (reaches_text "(").bind fun _ => reaches_pure _

theorem unguessed_of_occurs (const : constGuess.occurs s = false)
    (function : functionGuess.occurs s = false) : Unguessed s := by
  intro before after parts guess
  rcases guess_reaches (b := lastOr none before) guess with ⟨q, x, way⟩ | ⟨q, x, way⟩
  · exact unread_of_occurs const before after parts x q way
  · exact unread_of_occurs function before after parts x q way

theorem not_mem_of_blank {c : Char} (h : Blank s) (solid : isBlank c = false) : c ∉ s :=
  fun member => by simp [h c member] at solid

theorem unguessed_of_free (free : '(' ∉ s) : Unguessed s := by
  rintro before after rfl ⟨front, rest, rfl, -⟩
  exact free (by simp)

theorem Unguessed.append_free (h : Unguessed s) (free : '(' ∉ t) : Unguessed (s ++ t) := by
  rintro before after parts ⟨front, rest, rfl, head⟩
  rcases List.append_eq_append_iff.mp parts with ⟨beyond, -, inside⟩ | ⟨more, rfl, behind⟩
  · exact free (by simp [inside])
  · rcases List.append_eq_append_iff.mp behind with ⟨beyond, rfl, inside⟩ | ⟨beyond, -, inside⟩
    · cases beyond with
      | nil => exact free (by simp [← show _ = t from inside])
      | cons c beyond =>
        obtain ⟨rfl, -⟩ := List.cons.inj inside
        exact h before (front ++ '(' :: beyond) rfl ⟨front, beyond, rfl, head⟩
    · exact free (by simp [inside])

theorem GuessHead.first {c : Char} (h : GuessHead (c :: s)) : c = 'c' ∨ c = 'f' := by
  rcases h with ⟨gap, name, bridge, parts, -⟩ | ⟨gap, name, bridge, parts, -⟩
  · exact .inl (List.cons.inj parts).1
  · exact .inr (List.cons.inj parts).1

theorem not_guess_cons {c : Char} (const : c ≠ 'c') (function : c ≠ 'f') : ¬Guess (c :: s) := by
  rintro ⟨front, rest, parts, head⟩
  cases front with
  | nil =>
    rcases head with ⟨gap, name, bridge, empty, -⟩ | ⟨gap, name, bridge, empty, -⟩
    · exact absurd (List.append_eq_nil_iff.mp empty.symm).1 (by decide)
    · exact absurd (List.append_eq_nil_iff.mp empty.symm).1 (by decide)
  | cons d front =>
    obtain ⟨rfl, -⟩ := List.cons.inj parts
    exact head.first.elim const function

theorem Unguessed.cons {c : Char} (h : Unguessed s) (other : ¬Guess (c :: s)) :
    Unguessed (c :: s) := by
  intro before after parts
  cases before with
  | nil =>
    obtain rfl : c :: s = after := parts
    exact other
  | cons d before => exact h before after (List.cons.inj parts).2

theorem not_mem_name {c : Char} (h : IsDeclaredName name) (solid : isDeclaredRest c = false) :
    c ∉ name :=
  fun member => by simp [h.declared c member] at solid

def Unended (s : List Char) : Prop := s.IsChain fun c d => c ≠ ';' ∨ d ≠ '\n'

theorem unended_of_no_semicolon (h : ';' ∉ s) : Unended s :=
  (List.pairwise_of_forall_mem_list fun _ hc _ _ => .inl fun same => h (same ▸ hc)).isChain

theorem unended_of_no_feed (h : '\n' ∉ s) : Unended s :=
  (List.pairwise_of_forall_mem_list fun _ _ _ hd => .inr fun same => h (same ▸ hd)).isChain

theorem not_unended : ¬Unended (s ++ ';' :: '\n' :: t) := by
  intro chain
  have ended := (List.isChain_cons_cons.mp (List.isChain_append.mp chain).2.1).1
  simp at ended

theorem GuessHead.unended (h : GuessHead s) : Unended s := by
  have blank : isBlank ';' = false := by decide
  have letter : isDeclaredRest ';' = false := by decide
  rcases h with ⟨gap, name, _, rfl, hg, -, hn, gap₁, note, gap₂, rfl, hg₁, hg₂, noted⟩ |
    ⟨gap, name, bridge, rfl, hg, -, hn, hb⟩
  · have before : ';' ∉ "const".toList ++ (gap ++ (name ++ gap₁)) := by
      simp only [List.mem_append, not_or]
      exact ⟨by decide, not_mem_of_blank hg blank, not_mem_name hn letter, not_mem_of_blank hg₁ blank⟩
    have behind : ';' ∉ '=' :: gap₂ := by
      rw [List.mem_cons, not_or]
      exact ⟨by decide, not_mem_of_blank hg₂ blank⟩
    have feed : '\n' ∉ note := by
      rcases noted with rfl | ⟨run, rfl, -, all⟩
      · simp
      · rw [List.mem_cons, not_or]
        exact ⟨by decide, fun member => by simpa using all _ member⟩
    have parts : "const".toList ++ (gap ++ (name ++ (gap₁ ++ (note ++ '=' :: gap₂)))) =
        ("const".toList ++ (gap ++ (name ++ gap₁))) ++ (note ++ '=' :: gap₂) := by
      simp only [List.append_assoc]
    -- only the annotation may hold a semicolon, and it is followed by an equals sign
    rw [parts]
    refine List.isChain_append.mpr ⟨unended_of_no_semicolon before, ?_, ?_⟩
    · refine List.isChain_append.mpr ⟨unended_of_no_feed feed, unended_of_no_semicolon behind, ?_⟩
      rintro c - d hd
      obtain rfl : '=' = d := by simpa using hd
      exact .inr (by decide)
    · rintro c hc d -
      exact .inl fun same => before (same ▸ List.mem_of_mem_getLast? hc)
  · refine unended_of_no_semicolon ?_
    simp only [List.mem_append, not_or]
    exact ⟨by decide, not_mem_of_blank hg blank, not_mem_name hn letter, not_mem_of_blank hb blank⟩

theorem passed_nil : Passed [] := by
  rintro before after parts some
  exact absurd (List.append_eq_nil_iff.mp parts.symm).2 some

theorem Passed.append (hs : Passed s) (ht : Passed t) : Passed (s ++ t) := by
  intro before after parts some u
  rcases List.append_eq_append_iff.mp parts with ⟨beyond, rfl, rfl⟩ | ⟨more, rfl, rfl⟩
  · exact ht beyond after rfl some u
  · rcases eq_or_ne more [] with rfl | more_some
    · exact ht [] t rfl some u
    · rw [List.append_assoc]
      exact hs before more rfl more_some (t ++ u)

theorem passed_flatten {parts : List (List Char)} (h : ∀ s ∈ parts, Passed s) :
    Passed parts.flatten := by
  induction parts with
  | nil => exact passed_nil
  | cons s parts ih => exact (h s (by simp)).append (ih fun t ht => h t (by simp [ht]))

theorem passed_feed : Passed ['\n'] := by
  intro before after parts some t
  obtain ⟨c, after, rfl⟩ := List.exists_cons_of_ne_nil some
  cases before with
  | nil =>
    obtain ⟨rfl, rfl⟩ := List.cons.inj parts
    exact not_guess_cons (by decide) (by decide)
  | cons d before => simp at parts

theorem Unguessed.passed (h : Unguessed s) (ends : s.getLast? = some ';') :
    Passed (s ++ ['\n']) := by
  obtain ⟨line, rfl⟩ := List.getLast?_eq_some_iff.mp ends
  have closed : Unguessed (line ++ [';'] ++ ['\n']) := h.append_free (by decide)
  rintro before after parts some t ⟨front, rest, whole, head⟩
  -- a guess that goes on behind the line reads the end of the line
  have goes : ∀ beyond, front ≠ after ++ beyond := by
    rintro beyond rfl
    rw [List.append_assoc] at parts
    rcases List.append_eq_append_iff.mp parts with ⟨gone, -, feed⟩ | ⟨rest, -, rfl⟩
    · match gone, feed with
      | [], feed =>
        obtain rfl : [';', '\n'] = after := feed
        exact not_unended (s := []) head.unended
      | [_], feed =>
        obtain ⟨-, rfl⟩ := List.cons.inj feed
        exact absurd head.first (by decide)
      | _ :: _ :: _, feed => exact some (List.append_eq_nil_iff.mp (List.cons.inj (List.cons.inj feed).2).2.symm).2
    · rw [List.append_assoc] at head
      exact not_unended head.unended
  rcases List.append_eq_append_iff.mp whole with ⟨beyond, behind, -⟩ | ⟨more, rfl, inside⟩
  · exact goes beyond behind
  · cases more with
    | nil => exact goes [] (by simp)
    | cons c more =>
      obtain ⟨rfl, -⟩ := List.cons.inj inside
      exact closed before _ parts ⟨front, more, rfl, head⟩

def Closes (s : List Char) : Prop :=
  ∃ gap c rest, s = gap ++ c :: rest ∧ Blank gap ∧ isBlank c = false ∧ isDeclaredRest c = false

theorem not_isDeclaredRest_of_isBlank {c : Char} (h : isBlank c = true) : isDeclaredRest c = false := by
  cases letter : isDeclaredRest c with
  | false => rfl
  | true => simp [not_isBlank_of_isDeclaredRest letter] at h

theorem Closes.head? (h : Closes s) : s.head?.any isDeclaredRest = false := by
  obtain ⟨gap, c, rest, rfl, hg, -, other⟩ := h
  cases gap with
  | nil => exact other
  | cons d gap => exact not_isDeclaredRest_of_isBlank (hg d (by simp))

theorem declared_letters {word : String} (h : word = "const" ∨ word = "function") :
    Declared word.toList := by
  rcases h with rfl | rfl
  · exact List.all_eq_true.mp (by decide)
  · exact List.all_eq_true.mp (by decide)

theorem Lead.split {word : String} {Bridge : List Char → Prop} (h : Lead word Bridge front) (t : List Char) :
    ∃ gap c rest, front ++ t = word.toList ++ (gap ++ c :: rest) ∧ Blank gap ∧ gap ≠ [] ∧
      isDeclaredRest c = true := by
  obtain ⟨gap, name, bridge, rfl, hg, some, ⟨c, rest, rfl, start, -⟩, -⟩ := h
  refine ⟨gap, c, rest ++ (bridge ++ t), by simp, hg, some, ?_⟩
  exact isDeclaredRest_of_isPlainRest (by simp [isPlainRest, start])

theorem not_guess_letters (letters : Declared run) (closes : Closes t) : ¬Guess (run ++ t) := by
  rintro ⟨front, rest, parts, head⟩
  have lead : ∃ (word : String), (word = "const" ∨ word = "function") ∧ ∃ gap c rest,
      run ++ t = word.toList ++ (gap ++ c :: rest) ∧ Blank gap ∧ gap ≠ [] ∧ isDeclaredRest c = true := by
    rw [parts]
    exact head.elim (fun h => ⟨_, .inl rfl, h.split _⟩) fun h => ⟨_, .inr rfl, h.split _⟩
  obtain ⟨word, hw, gap, c, rest, whole, hg, some, letter⟩ := lead
  have stops : (gap ++ c :: rest).head?.any isDeclaredRest = false := by
    obtain ⟨d, gap, rfl⟩ := List.exists_cons_of_ne_nil some
    exact not_isDeclaredRest_of_isBlank (hg d (by simp))
  obtain ⟨-, rfl⟩ := run_eq_of_stops letters (declared_letters hw) closes.head? stops whole
  obtain ⟨gap', d, rest', behind, hg', solid, other⟩ := closes
  obtain ⟨-, same⟩ := run_eq_of_stops (s := c :: rest) (t := d :: rest') hg hg'
    (not_isBlank_of_isDeclaredRest letter) solid behind
  obtain ⟨rfl, -⟩ := List.cons.inj same
  rw [letter] at other
  cases other

theorem Unguessed.letters (h : Unguessed t) (letters : Declared run) (closes : Closes t) :
    Unguessed (run ++ t) := by
  induction run with
  | nil => exact h
  | cons c run ih =>
    exact (ih fun d hd => letters d (by simp [hd])).cons (not_guess_letters letters closes)

/-- A text that a constant may be bound to: no guess opens in it, and it opens with no parenthesis. -/
structure Harmless (s : List Char) : Prop where
  unguessed : Unguessed s
  opens : ∃ c rest, s = c :: rest ∧ isBlank c = false ∧ c ≠ '('

theorem not_guess_const (hn : IsDeclaredName name) (hv : Harmless value) :
    ¬Guess ("const".toList ++ ([' '] ++ (name ++ ([' '] ++ '=' :: ([' '] ++ value))))) := by
  have equals : isBlank '=' = false ∧ isDeclaredRest '=' = false := by decide
  have colon : isBlank ':' = false ∧ isDeclaredRest ':' = false := by decide
  have between : isDeclaredRest ' ' = false := by decide
  have opening : isBlank '(' = false := by decide
  obtain ⟨c, others, rfl, solid, other⟩ := hv.opens
  rintro ⟨front, rest, parts, ⟨gap, name', _, rfl, hg, -, hn', gap₁, note, gap₂, rfl, hg₁, hg₂, noted⟩ |
    ⟨gap, name', bridge, rfl, -⟩⟩
  · have parts : [' '] ++ (name ++ ([' '] ++ '=' :: ([' '] ++ c :: others))) =
        gap ++ (name' ++ (gap₁ ++ (note ++ '=' :: (gap₂ ++ '(' :: rest)))) := by
      refine List.append_cancel_left (parts.trans ?_)
      simp only [List.append_assoc, List.cons_append]
    obtain ⟨-, parts⟩ := run_eq_of_stops blank_space hg (hn.head?_isBlank _) (hn'.head?_isBlank _) parts
    have assigns : (note ++ '=' :: (gap₂ ++ '(' :: rest)).head?.any isBlank = false ∧
        (note ++ '=' :: (gap₂ ++ '(' :: rest)).head?.any isDeclaredRest = false := by
      rcases noted with rfl | ⟨run, rfl, -⟩
      · exact ⟨equals.1, equals.2⟩
      · exact ⟨colon.1, colon.2⟩
    have named : (gap₁ ++ (note ++ '=' :: (gap₂ ++ '(' :: rest))).head?.any isDeclaredRest = false := by
      cases gap₁ with
      | nil => exact assigns.2
      | cons d gap₁ => exact not_isDeclaredRest_of_isBlank (hg₁ d (by simp))
    obtain ⟨-, parts⟩ := run_eq_of_stops
      (s := [' '] ++ '=' :: ([' '] ++ c :: others)) hn.declared hn'.declared between named parts
    obtain ⟨-, parts⟩ := run_eq_of_stops (s := '=' :: ([' '] ++ c :: others)) blank_space hg₁ equals.1
      assigns.1 parts
    rcases noted with rfl | ⟨run, rfl, -⟩
    · have parts : [' '] ++ c :: others = gap₂ ++ '(' :: rest := (List.cons.inj parts).2
      obtain ⟨-, parts⟩ := run_eq_of_stops (s := c :: others) (t := '(' :: rest) blank_space hg₂ solid
        opening parts
      exact other (List.cons.inj parts).1
    · exact absurd (List.cons.inj parts).1 (by decide)
  · exact absurd (List.cons.inj parts).1 (by decide)

theorem unguessed_const (hn : IsDeclaredName name) (hv : Harmless value) :
    Unguessed ("const".toList ++ ([' '] ++ (name ++ ([' '] ++ '=' :: ([' '] ++ value))))) := by
  have other : ∀ {c : Char} {s}, c ∈ "onst =".toList → Unguessed s → Unguessed (c :: s) := by
    intro c s hc h
    refine h.cons (not_guess_cons ?_ ?_)
    · exact fun same => absurd (same ▸ hc) (by decide)
    · exact fun same => absurd (same ▸ hc) (by decide)
  have bound : Unguessed (name ++ ([' '] ++ '=' :: ([' '] ++ value))) := by
    refine Unguessed.letters ?_ hn.declared ⟨[' '], '=', [' '] ++ value, rfl, List.all_eq_true.mp rfl,
      by decide, by decide⟩
    exact other (by decide) (other (by decide) (other (by decide) hv.unguessed))
  refine Unguessed.cons ?_ (not_guess_const hn hv)
  exact other (by decide) (other (by decide) (other (by decide) (other (by decide)
    (other (by decide) bound))))

end Entry
end PagePreview
