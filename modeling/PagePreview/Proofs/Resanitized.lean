import PagePreview.Proofs.Sanitized
import PagePreview.Proofs.Seams
import PagePreview.Proofs.StyleIsland

/-!
# Sanitizing a sanitized text again

A sanitized text is given back as a module: its last line is ended, and one more line exports its
entry by default. If nothing in the text is still to be sanitized, the second time takes that line
out again and leaves its line feed. It leaves the rest as it is unless the text ends with the word
`default` of a default export, which then has the line feed behind it that the module added.
-/

namespace PagePreview
open Text Matcher
open Reference (isQuote)

variable {b : Option Char} {s name : List Char}

namespace Entry

def aloneOnLine : Matcher Span := do
  let name ← declaredName
  let _ ← inlineBlanks
  let _ ← opt (char (· == ';'))
  let _ ← inlineBlanks
  lineEnd
  pure name

theorem defaultIdentifier_eq : defaultIdentifier = (do lineExportDefault; aloneOnLine) := rfl

def isFiller (c : Char) : Bool := isInlineBlank c || c == ';'

def Declared (s : List Char) : Prop := ∀ c ∈ s, isDeclaredRest c = true

theorem isDeclaredRest_of_isPlainRest {c : Char} (h : isPlainRest c = true) :
    isDeclaredRest c = true := by
  have small : c.toNat < 128 := by
    simp only [isPlainRest, isPlainStart, isAsciiLetter, isAsciiDigit, Bool.or_eq_true,
      Bool.and_eq_true, decide_eq_true_eq, beq_iff_eq, Char.le_def, UInt32.le_iff_toNat_le] at h
    unfold Char.toNat
    rcases h with (((letter | capital) | rfl) | rfl) | digit
    · change 97 ≤ c.val.toNat ∧ c.val.toNat ≤ 122 at letter
      omega
    · change 65 ≤ c.val.toNat ∧ c.val.toNat ≤ 90 at capital
      omega
    · decide
    · decide
    · change 48 ≤ c.val.toNat ∧ c.val.toNat ≤ 57 at digit
      omega
  have table : ∀ n < 128, isPlainRest (Char.ofNat n) = true → isDeclaredRest (Char.ofNat n) = true := by
    decide +kernel
  have found := table c.toNat small
  rw [Char.ofNat_toNat] at found
  exact found h

theorem not_isBlank_of_isDeclaredRest {c : Char} (h : isDeclaredRest c = true) :
    isBlank c = false := by
  cases blank : isBlank c with
  | false => rfl
  | true =>
    have other : c = '$' := by simpa [isDeclaredRest, isWord_of_isBlank blank] using h
    subst other
    exact absurd blank (by decide)

theorem not_isFiller_of_isDeclaredRest {c : Char} (h : isDeclaredRest c = true) :
    isFiller c = false := by
  cases filler : isFiller c with
  | false => rfl
  | true =>
    simp only [isFiller, isInlineBlank, Bool.or_eq_true, beq_iff_eq] at filler
    rcases filler with (rfl | rfl) | rfl <;> exact absurd h (by decide)

theorem declared_of_isPlainName {name : List Char} (h : isPlainName name = true) :
    ∃ c rest, name = c :: rest ∧ isPlainStart c = true ∧ Declared rest := by
  cases name with
  | nil => cases h
  | cons c rest =>
    rw [isPlainName, Bool.and_eq_true, List.all_eq_true] at h
    exact ⟨c, rest, rfl, h.1, fun d hd => isDeclaredRest_of_isPlainRest (h.2 d hd)⟩

theorem aloneOnLine_reads {x : Span} {q : Place} (h : (x, q) ∈ aloneOnLine ⟨b, s⟩) :
    ∃ run filler, s = run ++ (filler ++ q.ahead) ∧ x.text = run ∧ Declared run ∧
      (∀ c ∈ filler, isFiller c = true) ∧ q.behind = lastOr b (run ++ filler) ∧
      firstLine q.ahead = [] := by
  obtain ⟨x', p₁, h₁, tail₁⟩ := mem_bind.mp h
  obtain ⟨⟨_, hname⟩, rfl⟩ := mem_span.mp h₁
  obtain ⟨c, p, hc, hrest⟩ := mem_bind.mp hname
  obtain ⟨start, s', whole, rfl⟩ := mem_char.mp hc
  obtain ⟨more, s₁, rfl, all, rfl, -⟩ := mem_least.mp (mem_most.mp hrest)
  obtain rfl : s = c :: (more ++ s₁) := whole
  obtain ⟨_, p₂, h₂, tail₂⟩ := mem_bind.mp tail₁
  obtain ⟨gap, s₂, rfl, hg, rfl, -⟩ := mem_least.mp (mem_most.mp h₂)
  obtain ⟨_, p₃, h₃, tail₃⟩ := mem_bind.mp tail₂
  obtain ⟨_, p₄, h₄, tail₄⟩ := mem_bind.mp tail₃
  obtain ⟨gap', s₄, parts₄, hg', rfl, -⟩ := mem_least.mp (mem_most.mp h₄)
  obtain ⟨_, p₅, h₅, tail₅⟩ := mem_bind.mp tail₄
  have ends := endsLine_lineEnd _ _ p₅ h₅
  obtain ⟨-, rfl⟩ := mem_here.mp h₅
  obtain ⟨rfl, rfl⟩ := mem_pure.mp tail₅
  have declared : Declared (c :: more) := by
    intro d hd
    rcases List.mem_cons.mp hd with rfl | hd
    · exact isDeclaredRest_of_isPlainRest (by simp [isPlainRest, start])
    · exact all d hd
  have filled : ∀ d ∈ gap ++ gap', isFiller d = true := by
    intro d hd
    rcases List.mem_append.mp hd with hd | hd
    · simp [isFiller, hg d hd]
    · simp [isFiller, hg' d hd]
  have name : (⟨c :: (more ++ (gap ++ s₂)), gap ++ s₂⟩ : Span).text = c :: more :=
    Span.text_append (c :: more) (gap ++ s₂)
  rcases mem_opt.mp h₃ with ⟨d, hd, -⟩ | ⟨-, rfl⟩
  · obtain ⟨same, s₃, parts₃, rfl⟩ := mem_char.mp hd
    obtain rfl : d = ';' := by simpa using same
    dsimp only at parts₃ parts₄
    subst parts₃ parts₄
    refine ⟨c :: more, gap ++ ';' :: gap', by simp, name, declared, ?_, by simp [lastOr_append], ends⟩
    intro d hd
    rcases List.mem_append.mp hd with hd | hd
    · exact filled d (by simp [hd])
    · rcases List.mem_cons.mp hd with rfl | hd
      · rfl
      · exact filled d (by simp [hd])
  · dsimp only at parts₄
    subst parts₄
    exact ⟨c :: more, gap ++ gap', by simp, name, declared, filled, by simp [lastOr_append], ends⟩

theorem declared_split {run filler rest name t : List Char} {c : Char} (hr : Declared run)
    (hf : ∀ d ∈ filler, isFiller d = true) (ends : firstLine rest = []) (hn : Declared name)
    (hc : isDeclaredRest c = false) (same : run ++ (filler ++ rest) = name ++ c :: t) :
    run = name ∧ filler ++ rest = c :: t := by
  rcases List.append_eq_append_iff.mp same with ⟨beyond, rfl, behind⟩ | ⟨beyond, rfl, behind⟩
  · cases beyond with
    | nil => exact ⟨(List.append_nil run).symm, behind⟩
    | cons d beyond =>
      have letter : isDeclaredRest d = true := hn d (by simp)
      cases filler with
      | nil =>
        obtain rfl : rest = d :: (beyond ++ c :: t) := behind
        by_cases feed : d = '\n'
        · subst feed
          exact absurd letter (by decide)
        · rw [firstLine_cons feed] at ends
          cases ends
      | cons e filler =>
        obtain ⟨rfl, -⟩ := List.cons.inj behind
        have filled : isFiller e = true := hf e (by simp)
        rw [not_isFiller_of_isDeclaredRest letter] at filled
        cases filled
  · cases beyond with
    | nil => exact ⟨List.append_nil name, behind.symm⟩
    | cons d beyond =>
      obtain ⟨rfl, -⟩ := List.cons.inj behind
      have letter : isDeclaredRest c = true := hr c (by simp)
      rw [hc] at letter
      cases letter

def exportLine (name : List Char) : List Char :=
  "export".toList ++ ([' '] ++ ("default".toList ++ ([' '] ++ (name ++ ";\n".toList))))

theorem exportLine_eq (name : List Char) : exportLine name =
    "export".toList ++ ([' '] ++ ("default".toList ++ ([' '] ++ (name ++ ";\n".toList)))) := rfl

theorem exportLine_cons (name : List Char) :
    exportLine name = 'e' :: ("xport".toList ++ ([' '] ++ ("default".toList ++ ([' '] ++
      (name ++ ";\n".toList))))) :=
  rfl

theorem defaultHead_line : DefaultHead ("export".toList ++ ([' '] ++ "default".toList)) :=
  ⟨[], [' '], rfl, fun _ member => absurd member List.not_mem_nil, List.all_eq_true.mp rfl, by simp⟩

theorem mem_exportLine {c : Char} (plain : isPlainName name = true) (h : c ∈ exportLine name) :
    isPlainRest c = true ∨ c ∈ " ;\n".toList := by
  have parts : exportLine name =
      ("export".toList ++ [' '] ++ "default".toList ++ [' ']) ++ (name ++ ";\n".toList) := rfl
  rw [parts] at h
  rcases List.mem_append.mp h with word | h
  · have letters : ("export".toList ++ [' '] ++ "default".toList ++ [' ']).all
        (fun d => decide (isPlainRest d = true ∨ d ∈ " ;\n".toList)) = true := by
      decide
    exact of_decide_eq_true (List.all_eq_true.mp letters c word)
  · rcases List.mem_append.mp h with letter | stop
    · obtain ⟨first, rest, rfl, start, -⟩ := declared_of_isPlainName plain
      rw [isPlainName, Bool.and_eq_true, List.all_eq_true] at plain
      rcases List.mem_cons.mp letter with rfl | letter
      · exact .inl (by simp [isPlainRest, start])
      · exact .inl (plain.2 c letter)
    · exact .inr (List.mem_cons_of_mem _ stop)

theorem not_mem_exportLine {c : Char} (plain : isPlainName name = true)
    (other : isPlainRest c = false ∧ c ∉ " ;\n".toList) : c ∉ exportLine name := by
  intro member
  rcases mem_exportLine plain member with letter | stop
  · rw [other.1] at letter
    cases letter
  · exact other.2 stop

theorem not_isQuote_exportLine (plain : isPlainName name = true) :
    ∀ c ∈ exportLine name, isQuote c = false := by
  intro c member
  cases quote : isQuote c with
  | false => rfl
  | true =>
    rw [isQuote, Bool.or_eq_true, beq_iff_eq, beq_iff_eq] at quote
    rcases quote with rfl | rfl
    · exact absurd member (not_mem_exportLine plain (by decide))
    · exact absurd member (not_mem_exportLine plain (by decide))

theorem defaultHead_exportLine {head u : List Char} (hd : DefaultHead head)
    (parts : exportLine name = head ++ u) : u = [' '] ++ (name ++ ";\n".toList) := by
  obtain ⟨indent, gap, rfl, hi, hg, -⟩ := hd
  have letters : indent ++ ("export".toList ++ (gap ++ "default".toList) ++ u) = exportLine name := by
    rw [parts]
    exact (List.append_assoc ..).symm
  rw [exportLine_cons] at letters
  obtain rfl : indent = [] := run_eq_nil hi (by decide) letters
  rw [List.nil_append, exportLine_eq, List.append_assoc] at parts
  have behind := List.append_cancel_left parts
  rw [List.append_assoc] at behind
  have blank : Blank [' '] := List.all_eq_true.mp rfl
  have first : "default".toList = 'd' :: "efault".toList := rfl
  rw [first, List.cons_append, List.cons_append] at behind
  obtain ⟨rfl, -, rest⟩ := blank.eq_of_append hg (by decide) (by decide) behind
  exact (List.append_cancel_left rest).symm

theorem lineExportDefault_exportLine {u : Unit} {q : Place} (plain : isPlainName name = true)
    (way : (u, q) ∈ lineExportDefault ⟨b, exportLine name⟩) : q.ahead = name ++ ";\n".toList := by
  obtain ⟨-, head, gap, parts, hd, hg, some⟩ := lineExportDefault_reads way
  have behind := defaultHead_exportLine hd parts
  obtain ⟨c, gap, rfl⟩ := List.exists_cons_of_ne_nil some
  have rest : gap ++ q.ahead = name ++ ";\n".toList := (List.cons.inj behind).2
  obtain ⟨d, more, rfl, start, -⟩ := declared_of_isPlainName plain
  have letter : isDeclaredRest d = true := isDeclaredRest_of_isPlainRest (by simp [isPlainRest, start])
  obtain rfl : gap = [] :=
    run_eq_nil (fun e he => hg e (by simp [he])) (not_isBlank_of_isDeclaredRest letter) rest
  exact rest

theorem first?_defaultIdentifier (start : startsLine b = true) (plain : isPlainName name = true) :
    ∃ x, x.text = name ∧
      defaultIdentifier.first? ⟨b, exportLine name⟩ = some (x, ⟨some ';', ['\n']⟩) := by
  obtain ⟨c, rest, rfl, hc, declared⟩ := declared_of_isPlainName plain
  have reads : ∀ x q, (x, q) ∈ defaultIdentifier ⟨b, exportLine (c :: rest)⟩ →
      x.text = c :: rest ∧ q = ⟨some ';', ['\n']⟩ := by
    intro x q way
    rw [defaultIdentifier_eq] at way
    obtain ⟨_, ⟨d, t⟩, begins, alone⟩ := mem_bind.mp way
    obtain rfl : t = (c :: rest) ++ ";\n".toList := lineExportDefault_exportLine plain begins
    obtain ⟨run, filler, parts, text, hrun, hfiller, behind, ends⟩ := aloneOnLine_reads alone
    have letters : Declared (c :: rest) := by
      intro e he
      rcases List.mem_cons.mp he with rfl | he
      · exact isDeclaredRest_of_isPlainRest (by simp [isPlainRest, hc])
      · exact declared e he
    obtain ⟨rfl, stop⟩ :=
      declared_split (c := ';') (t := ['\n']) hrun hfiller ends letters (by decide) parts.symm
    cases filler with
    | nil =>
      have ahead : q.ahead = ";\n".toList := stop
      rw [ahead] at ends
      cases ends
    | cons e filler =>
      obtain ⟨rfl, after⟩ := List.cons.inj stop
      obtain rfl : filler = [] :=
        run_eq_nil (fun e he => hfiller e (by simp [he])) (by decide) after
      have ahead : q.ahead = ['\n'] := after
      rw [lastOr_append] at behind
      obtain ⟨b', s'⟩ := q
      dsimp only at ahead behind
      exact ⟨text, by rw [ahead, behind]; rfl⟩
  have way : defaultIdentifier.Reaches ⟨b, exportLine (c :: rest)⟩ ⟨some ';', ['\n']⟩ := by
    rw [defaultIdentifier_eq]
    have blank : Blank [' '] := List.all_eq_true.mp rfl
    have begins := lineExportDefault_reaches (s := (c :: rest) ++ ";\n".toList) start
      defaultHead_line blank (by simp)
    refine begins.bind fun _ => ?_
    exact (Reaches.span ((reaches_char hc).bind fun _ => reaches_most declared)).bind fun name =>
      reaches_most_none.bind fun _ => (reaches_char rfl).opt.bind fun _ =>
        reaches_most_none.bind fun _ => (reaches_here rfl).bind fun _ => reaches_pure name
  obtain ⟨x, found⟩ := first?_of_ends ⟨_, way⟩ fun x q h => (reads x q h).2
  exact ⟨x, (reads x _ (mem_of_first? found)).1, found⟩

theorem not_aloneOnLine_exportLine {x : Span} {q : Place} :
    (x, q) ∉ aloneOnLine ⟨b, exportLine name⟩ := by
  intro way
  obtain ⟨run, filler, parts, -, hrun, hfiller, -, ends⟩ := aloneOnLine_reads way
  have word : Declared "export".toList := List.all_eq_true.mp rfl
  have whole : exportLine name =
      "export".toList ++ ' ' :: 'd' :: ("efault".toList ++ ([' '] ++ (name ++ ";\n".toList))) := rfl
  obtain ⟨-, stop⟩ := declared_split hrun hfiller ends word (by decide) (parts.symm.trans whole)
  cases filler with
  | nil =>
    rw [List.nil_append] at stop
    rw [stop] at ends
    cases ends
  | cons e filler =>
    have after : filler ++ q.ahead = 'd' :: ("efault".toList ++ ([' '] ++ (name ++ ";\n".toList))) :=
      (List.cons.inj stop).2
    obtain rfl : filler = [] :=
      run_eq_nil (fun e he => hfiller e (by simp [he])) (by decide) after
    rw [List.nil_append] at after
    rw [after] at ends
    cases ends

def lastFeed (s : List Char) : List Char := if endsLine s then [] else ['\n']

theorem lastFeed_cases (s : List Char) : lastFeed s = [] ∨ lastFeed s = ['\n'] := by
  unfold lastFeed
  split
  · exact .inl rfl
  · exact .inr rfl

theorem getLast?_lastFeed (s : List Char) : (s ++ lastFeed s).getLast? = some '\n' := by
  unfold lastFeed
  split
  · rename_i ends
    rw [List.append_nil]
    simpa [endsLine] using ends
  · exact List.getLast?_concat ..

theorem mem_lastFeed {c : Char} (h : c ∈ lastFeed s) : c = '\n' := by
  rcases lastFeed_cases s with none | some
  · rw [none] at h
    cases h
  · rw [some] at h
    exact List.mem_singleton.mp h

theorem startsLine_lastFeed (s : List Char) : startsLine (lastOr none (s ++ lastFeed s)) = true := by
  obtain ⟨front, parts⟩ := List.getLast?_eq_some_iff.mp (getLast?_lastFeed s)
  rw [parts, lastOr_append]
  rfl

theorem lineExportDefault_across (unread : Unread leftoverDefault s) {before after t : List Char}
    (parts : s ++ lastFeed s = before ++ after) (nonempty : after ≠ []) {u : Unit} {q : Place}
    (way : (u, q) ∈ lineExportDefault ⟨lastOr none before, after ++ 'e' :: t⟩) :
    q.ahead = 'e' :: t := by
  have breaks := getLast?_lastFeed s
  rcases List.append_eq_append_iff.mp parts with ⟨beyond, rfl, feed⟩ | ⟨rest, whole, rfl⟩
  · obtain ⟨-, head, gap, ahead, ⟨indent, gap', rfl, hi, -⟩, -⟩ := lineExportDefault_reads way
    have first : after = ['\n'] := by
      rcases lastFeed_cases s with none | some
      · rw [none] at feed
        exact absurd (List.append_eq_nil_iff.mp feed.symm).2 nonempty
      · rw [some] at feed
        rcases List.append_eq_singleton_iff.mp feed.symm with ⟨-, one⟩ | ⟨-, none⟩
        · exact one
        · exact absurd none nonempty
    subst first
    have letters : indent ++ ("export".toList ++ (gap' ++ "default".toList) ++ (gap ++ q.ahead)) =
        '\n' :: 'e' :: t := by
      rw [← List.append_assoc]
      exact ahead.symm
    obtain rfl : indent = [] := run_eq_nil hi (by decide) letters
    cases letters
  · rw [parts, List.getLast?_append_of_ne_nil _ nonempty] at breaks
    rw [List.append_assoc] at way
    exact lineExportDefault_seam (lastFeed_cases s) breaks (unread before rest whole) way

theorem defaultFunction_reads {p q : Place} {x : Span × Span} (h : (x, q) ∈ defaultFunction p) :
    ∃ u p' run c, (u, p') ∈ lineExportDefault p ∧ p'.ahead = run ++ c :: q.ahead ∧
      (c == '(' || c == '<') = true := by
  obtain ⟨u, p', begins, tail⟩ := mem_bind.mp h
  obtain ⟨⟨name, r⟩, declared, same⟩ := List.mem_map.mp tail
  obtain ⟨-, rfl⟩ := Prod.mk.inj same
  have ends : EndsIn (fun c => c == '(' || c == '<') (do
      let _ ← opt asyncWord
      text "function"
      let _ ← blanks
      let _ ← opt (char (· == '*'))
      let _ ← blanks
      let name ← declaredName
      let _ ← blanks
      let _ ← char fun c => c == '(' || c == '<'
      pure name) :=
    .bind (Advances.opt ((advances_text _).bind fun _ => (advances_most1 _).bind fun _ =>
      advances_pure _)) fun _ => .bind (advances_text _) fun _ => .bind (advances_most _) fun _ =>
        .bind (advances_char _).opt fun _ => .bind (advances_most _) fun _ =>
          .bind advances_declaredName fun _ => .bind (advances_most _) fun _ =>
            (endsIn_char _).return _
  obtain ⟨run, c, parts, hc⟩ := ends p' name r declared
  exact ⟨u, p', run, c, begins, parts, hc⟩

theorem advances_lineExportDefault : lineExportDefault.Advances :=
  (advances_here _).bind fun _ => (advances_most _).bind fun _ => (advances_text _).bind fun _ =>
    (advances_most1 _).bind fun _ => (advances_text _).bind fun _ => (advances_most1 _).bind fun _ =>
      advances_pure _

theorem unread_defaultFunction (plain : isPlainName name = true) (h : Unread leftoverDefault s) :
    Unread defaultFunction (s ++ lastFeed s ++ exportLine name) := by
  intro before after parts x q way
  obtain ⟨u, p, run, c, begins, ahead, opens⟩ := defaultFunction_reads way
  have other : c ∉ exportLine name := by
    rw [Bool.or_eq_true, beq_iff_eq, beq_iff_eq] at opens
    rcases opens with rfl | rfl
    · exact not_mem_exportLine plain (by decide)
    · exact not_mem_exportLine plain (by decide)
  have inLine : ¬after <:+ exportLine name := by
    intro suffix
    obtain ⟨skipped, whole⟩ := advances_lineExportDefault _ u p begins
    have whole : after = skipped ++ p.ahead := whole
    exact other (suffix.mem (by simp [whole, ahead]))
  rcases List.append_eq_append_iff.mp parts with ⟨beyond, -, line⟩ | ⟨rest, front, rfl⟩
  · exact inLine ⟨beyond, line.symm⟩
  · by_cases nonempty : rest = []
    · subst nonempty
      exact inLine (List.suffix_refl _)
    · rw [exportLine_cons] at begins
      have line := lineExportDefault_across h front nonempty begins
      rw [← exportLine_cons] at line
      exact other (by simp [← line, ahead])

/-- The entry's name is the one piece that is read, and the line feed behind it is kept. -/
theorem pieces_defaultIdentifier (plain : isPlainName name = true) (h : Unread leftoverDefault s) :
    ∃ x run, x.text = name ∧ defaultIdentifier.pieces (s ++ lastFeed s ++ exportLine name) =
      (s ++ lastFeed s).map .kept ++ [.hit x run, .kept '\n'] := by
  have quiet : ∀ before after, s ++ lastFeed s = before ++ after → after ≠ [] →
      defaultIdentifier.first? ⟨lastOr none before, after ++ exportLine name⟩ = none := by
    intro before after parts nonempty
    refine first?_eq_none fun x q way => ?_
    rw [defaultIdentifier_eq] at way
    obtain ⟨u, ⟨b, t⟩, begins, alone⟩ := mem_bind.mp way
    rw [exportLine_cons] at begins
    obtain rfl : t = _ := lineExportDefault_across h parts nonempty begins
    rw [← exportLine_cons] at alone
    exact not_aloneOnLine_exportLine alone
  obtain ⟨x, text, found⟩ := first?_defaultIdentifier (startsLine_lastFeed s) plain
  have whole : ∃ run, run ≠ [] ∧ exportLine name = run ++ ['\n'] := by
    refine ⟨"export".toList ++ ([' '] ++ ("default".toList ++ ([' '] ++ (name ++ [';'])))), by simp, ?_⟩
    simp only [exportLine_eq, List.append_assoc]
    rfl
  obtain ⟨run, nonempty, parts⟩ := whole
  rw [parts] at found
  have hit := piecesFrom_hit (q := ⟨some ';', ['\n']⟩) nonempty found
  have stopped : ∀ b, defaultIdentifier.first? ⟨b, ['\n']⟩ = none := by
    intro b
    refine first?_eq_none fun x q way => ?_
    rw [defaultIdentifier_eq] at way
    obtain ⟨u, p, begins, -⟩ := mem_bind.mp way
    obtain ⟨-, head, gap, ahead, hd, -⟩ := lineExportDefault_reads begins
    have letter : 't' ∈ ['\n'] := by
      rw [ahead]
      exact List.mem_append_left _ (List.mem_of_getLast? hd.last)
    exact absurd letter (by decide)
  refine ⟨x, run, text, ?_⟩
  rw [Matcher.pieces, piecesFrom_kept quiet, parts, hit]
  simp only [piecesFrom, stopped]

theorem dropFirst?_kept {α : Type} (test : α → Bool) (run : List Char) (ps : List (Piece α)) :
    dropFirst? test (run.map .kept ++ ps) =
      (dropFirst? test ps).map fun found => (found.1, run ++ found.2) := by
  induction run with
  | nil => simp
  | cons c run ih =>
    rw [List.map_cons, List.cons_append, dropFirst?, ih, Option.map_map]
    rfl

/-- The entry is the one that the line exports, and the line goes but for its line feed. -/
theorem locate_exportLine (fallback : String) (plain : isPlainName name = true)
    (binds : String.ofList name ∉ nonBindingWords) (h : Unread leftoverDefault s) :
    locate fallback (s ++ lastFeed s ++ exportLine name) =
      ⟨s ++ lastFeed s ++ ['\n'], String.ofList name, .defaultIdentifier⟩ := by
  obtain ⟨x, run, text, pieces⟩ := pieces_defaultIdentifier plain h
  have named : isBindingName x = true := by
    rw [isBindingName, text]
    simpa using binds
  have function : dropExport? defaultFunction (s ++ lastFeed s ++ exportLine name) = none := by
    rw [dropExport?, (unread_defaultFunction plain h).search?]
    rfl
  have dropped : dropFirst? isBindingName (defaultIdentifier.pieces
      (s ++ lastFeed s ++ exportLine name)) = some (x, s ++ lastFeed s ++ ['\n']) := by
    rw [pieces, dropFirst?_kept, dropFirst?, if_pos named]
    rfl
  unfold locate
  rw [function, dropped]
  simp [ofDeclared, text]

theorem neutralise_shorter {p q : Place} {x : Span × Option Span} {run : List Char}
    (way : (x, q) ∈ leftoverDefault p) (parts : p.ahead = run ++ q.ahead) :
    (neutralise x run).length < run.length := by
  obtain ⟨indent, declared⟩ := x
  obtain ⟨before, gap, gap', words, -, whole, rfl, found⟩ := leftoverDefault_reads way
  have size : run.length =
      indent.text.length + (6 + (gap.length + (7 + (gap'.length + words.length)))) := by
    have same := parts.symm.trans whole
    simp only [← List.append_assoc] at same
    have shape := List.append_cancel_right same
    rw [shape]
    simp only [List.length_append]
    change _ + 6 + _ + 7 + _ + _ = _
    omega
  rcases found with ⟨rfl, rfl⟩ | ⟨d, rfl, rfl, -⟩
  · have void : "void ".toList.length = 5 := rfl
    simp only [neutralise, List.length_append, void]
    omega
  · simp only [neutralise, List.length_append]
    omega

theorem feed_of_mem {c : Char} (h : c ∈ lastFeed s ++ ['\n']) : c = '\n' := by
  rcases List.mem_append.mp h with feed | feed
  · exact mem_lastFeed feed
  · exact List.mem_singleton.mp feed

/-- Of the module exports, only default exports can be left in a text with line feeds behind it. -/
theorem stripExports_lines {tail : List Char} (feeds : ∀ c ∈ tail, c = '\n')
    (lists : Unread exportList s) (stars : Unread exportStar s)
    (declarations : Unread exportDeclaration s) :
    stripExports (s ++ tail) = leftoverDefault.rewrite neutralise (s ++ tail) := by
  have ends : ∀ c ∈ tail, isQuote c = false ∧ c ≠ '\x7d' := by
    intro c hc
    rw [feeds c hc]
    decide
  have list : exportList.erase (s ++ tail) = s ++ tail := (unread_exportList ends lists).rewrite _
  have star : exportStar.erase (s ++ tail) = s ++ tail :=
    (unread_exportStar (fun c hc => (ends c hc).1) stars).rewrite _
  unfold stripExports
  rw [list, star]
  dsimp only
  rw [(unread_exportDeclaration feeds declarations).rewrite _]

/-- The text and its line feeds are left as they are unless the text ends with `default`. -/
theorem rewrite_leftoverDefault (h : Unread leftoverDefault s) :
    leftoverDefault.rewrite neutralise (s ++ (lastFeed s ++ ['\n'])) = s ++ (lastFeed s ++ ['\n']) ↔
      ¬Dangling s := by
  have feeds : ∀ c ∈ lastFeed s ++ ['\n'], c = '\n' := fun _ => feed_of_mem
  constructor
  · rintro same ⟨before, head, rfl, start, hd⟩
    generalize feed : lastFeed (before ++ head) ++ ['\n'] = tail at same feeds
    have cut := cut_pieces leftoverDefault_startsStatement.consumes (before ++ head ++ tail)
    have shorter : ∀ p x q run, (x, q) ∈ leftoverDefault p → p.ahead = run ++ q.ahead →
        (neutralise x run).countP (fun _ => true) < run.countP fun _ => true := by
      intro p x q run way parts
      rw [List.countP_true]
      exact neutralise_shorter way parts
    have size := cut.write_lighter shorter
    rw [List.countP_true] at size
    have length := congrArg List.length same
    rw [Matcher.rewrite] at length
    have none : (leftoverDefault.pieces (before ++ head ++ tail)).filterMap Piece.value? = [] := by
      refine List.eq_nil_of_length_eq_zero ?_
      omega
    have blank : Blank tail := by
      intro c hc
      rw [feeds c hc]
      rfl
    have some : tail ≠ [] := by
      rw [← feed]
      simp
    have begins := lineExportDefault_reaches (s := []) start hd blank some
    have read := (leftoverDefault_of_begins begins).first?
    rw [List.append_nil] at read
    have nonempty : head ++ tail ≠ [] := by simp [some]
    rw [cut.first?_eq_none none (List.append_assoc ..) nonempty] at read
    cases read
  · intro complete
    exact (unread_leftoverDefault feeds h complete).rewrite neutralise

end Entry

theorem Dangling.not_endsLine (h : Dangling s) : endsLine s = false := by
  obtain ⟨before, head, rfl, -, hd⟩ := h
  have last := hd.last
  have nonempty : head ≠ [] := by
    rintro rfl
    cases last
  rw [endsLine, List.getLast?_append_of_ne_nil _ nonempty, last]
  decide

namespace Sanitized

/-- Nothing in the text is still to be sanitized, and its entry can be exported by name. -/
structure Settled (s : Sanitized) : Prop where
  directive : Entry.stripClientDirective s.text.toList = s.text.toList
  styles : StyleIsland.normalize s.text.toList = s.text.toList
  boundImports : (Reference.onLines Reference.boundImport).occurs s.text.toList = false
  effectImports : (Reference.onLines Reference.effectImport).occurs s.text.toList = false
  exportLists : Entry.exportList.occurs s.text.toList = false
  exportStars : Entry.exportStar.occurs s.text.toList = false
  exportDeclarations : Entry.exportDeclaration.occurs s.text.toList = false
  leftoverDefaults : Entry.leftoverDefault.occurs s.text.toList = false
  plain : isPlainName s.entryName.toList = true
  binds : s.entryName ∉ Entry.nonBindingWords

def lines (s : Sanitized) : String :=
  if endsLine s.text.toList then s.text else s.text ++ "\n"

theorem lines_toList (s : Sanitized) :
    s.lines.toList = s.text.toList ++ Entry.lastFeed s.text.toList := by
  unfold lines Entry.lastFeed
  split
  · exact (List.append_nil _).symm
  · exact String.toList_append

theorem asModule_toList (s : Sanitized) :
    s.asModule.toList =
      s.text.toList ++ (Entry.lastFeed s.text.toList ++ Entry.exportLine s.entryName.toList) := by
  have word : "export default ".toList = "export".toList ++ ([' '] ++ ("default".toList ++ [' '])) := by
    decide
  change (s.lines ++ "export default " ++ s.entryName ++ ";\n").toList = _
  simp only [String.toList_append, lines_toList, word, Entry.exportLine_eq, List.append_assoc]

variable {s : Sanitized}

theorem mem_behind {name : List Char} {s : List Char} {c : Char} (plain : isPlainName name = true)
    (h : c ∈ Entry.lastFeed s ++ Entry.exportLine name) : isQuote c = false ∧ c ≠ '>' := by
  rcases List.mem_append.mp h with feed | line
  · rw [Entry.mem_lastFeed feed]
    decide
  · refine ⟨Entry.not_isQuote_exportLine plain c line, ?_⟩
    rintro rfl
    exact Entry.not_mem_exportLine plain (by decide) line

theorem Settled.scanned (h : s.Settled) : scanned s.asModule = s.asModule.toList := by
  rw [Sanitized.scanned, asModule_toList,
    stripClientDirective_append (fun c hc => (mem_behind h.plain hc).1) h.directive,
    StyleIsland.normalize_append fun member => (mem_behind h.plain member).2 rfl, h.styles]

theorem scan_unread (config : Config) {source : List Char}
    (bound : Unread (Reference.onLines Reference.boundImport) source)
    (effect : Unread (Reference.onLines Reference.effectImport) source) :
    Scan.ofSource config source = .ok ⟨source, [], SymbolTable.empty, []⟩ := by
  have kept : ∀ run : List Char, Scan.readStatements (run.map .kept) = .ok [] := by
    intro run
    induction run with
    | nil => rfl
    | cons c run ih => exact ih
  have none : (Reference.onLines Reference.effectImport).values source = [] := by
    have kept := values_kept (α := Span) source []
    rw [List.append_nil] at kept
    rw [Matcher.values, effect.pieces, kept]
    rfl
  have boundless : (Reference.onLines Reference.boundImport).erase source = source :=
    bound.rewrite _
  have effectless : (Reference.onLines Reference.effectImport).erase source = source :=
    effect.rewrite _
  rw [Scan.ofSource, bound.pieces, kept]
  change Except.ok _ = _
  rw [boundless, none, effectless]
  rfl

/-- The second time, the body is the text and its line feeds, but for a default export that ends the
text. -/
theorem Settled.ofSource (config : Config) (h : s.Settled) :
    Sanitized.ofSource config s.asModule = .ok {
      standIns := ""
      body := String.ofList (Entry.leftoverDefault.rewrite Entry.neutralise
        (s.text.toList ++ (Entry.lastFeed s.text.toList ++ ['\n'])))
      entryName := s.entryName
      entryForm := .defaultIdentifier
      references := [] } := by
  have quotes : ∀ c ∈ Entry.lastFeed s.text.toList ++ Entry.exportLine s.entryName.toList,
      isQuote c = false := fun c hc => (mem_behind h.plain hc).1
  have scan := scan_unread config
    (unread_boundImport quotes (unread_of_occurs h.boundImports))
    (unread_effectImport quotes (unread_of_occurs h.effectImports))
  have located := Entry.locate_exportLine config.fallbackEntryName h.plain
    (by simpa using h.binds) (unread_of_occurs h.leftoverDefaults)
  have feeds : ∀ c ∈ Entry.lastFeed s.text.toList ++ ['\n'], c = '\n' := fun _ => Entry.feed_of_mem
  have stripped := Entry.stripExports_lines feeds
    (unread_of_occurs h.exportLists) (unread_of_occurs h.exportStars)
    (unread_of_occurs h.exportDeclarations)
  have made : Sanitized.ofSource config s.asModule = (do
      let scan ← Scan.ofSource config (Sanitized.scanned s.asModule)
      let entry := Entry.extract config.fallbackEntryName scan.body
      pure {
        standIns := StandIn.runtimeBindings scan.runtimeBindings ++ StandIn.prelude config scan.symbols
        body := String.ofList entry.body
        entryName := entry.name
        entryForm := entry.form
        references := scan.references }) := rfl
  rw [made, h.scanned, asModule_toList, scan]
  change Except.ok _ = _
  dsimp only
  rw [Entry.extract, ← List.append_assoc, located, List.append_assoc, stripped]
  simp only [String.ofList_toList]
  rfl

/-- Sanitizing a settled text again gives it back, one line feed longer, exactly if no default export
is left dangling at its end. -/
theorem resanitized (config : Config) (s : Sanitized) (h : s.Settled) :
    ∃ r, Sanitized.ofSource config s.asModule = .ok r ∧ r.standIns = "" ∧ r.references = [] ∧
      r.entryForm = .defaultIdentifier ∧ r.entryName = s.entryName ∧
      (r.body = s.lines ++ "\n" ↔ ¬Dangling s.text.toList) := by
  refine ⟨_, h.ofSource config, rfl, rfl, rfl, rfl, ?_⟩
  dsimp only
  rw [← Entry.rewrite_leftoverDefault (unread_of_occurs h.leftoverDefaults)]
  have whole : (s.lines ++ "\n").toList =
      s.text.toList ++ (Entry.lastFeed s.text.toList ++ ['\n']) := by
    rw [String.toList_append, lines_toList, List.append_assoc]
    rfl
  constructor
  · intro same
    have letters := congrArg String.toList same
    rwa [String.toList_ofList, whole] at letters
  · intro same
    rw [same, ← whole, String.ofList_toList]

theorem resanitized_bound :
    let source := "import \x7b useState \x7d from 'react';\nexport default function P() \x7b return null; \x7d\n"
    ∃ s r, Sanitized.ofSource {} source = .ok s ∧
      s.text = "const \x7b useState \x7d = React;\n\nfunction P() \x7b return null; \x7d\n" ∧
      Sanitized.ofSource {} s.asModule = .ok r ∧ r.standIns = "" ∧ r.entryName = "P" ∧
      r.body = s.text ++ "\n" := by
  intro source
  let s : Sanitized := {
    standIns := "const \x7b useState \x7d = React;\n"
    body := "\nfunction P() \x7b return null; \x7d\n"
    entryName := "P"
    entryForm := .defaultFunction
    references := [{ moduleName := "react", named := [⟨"useState", "useState"⟩] }] }
  have made : (Sanitized.ofSource {} source).toOption = some s := by decide +kernel
  have settled : s.Settled := by constructor <;> decide +kernel
  have ended : endsLine s.text.toList = true := by decide +kernel
  have lines : s.lines = s.text := by rw [Sanitized.lines, if_pos ended]
  have complete : ¬Dangling s.text.toList := fun dangling => by
    rw [dangling.not_endsLine] at ended
    cases ended
  cases h : Sanitized.ofSource {} source with
  | error e => simp [h, Except.toOption] at made
  | ok s' =>
    obtain rfl : s' = s := by simpa [h, Except.toOption] using made
    obtain ⟨r, again, standIns, -, -, name, body⟩ := resanitized {} s settled
    refine ⟨s, r, rfl, rfl, again, standIns, name, ?_⟩
    rw [body.mpr complete, lines]

/-- A default export that the text ends with is read once the module has ended its line. -/
theorem resanitized_dangling :
    let source := "const P = (1);\nexport default"
    ∃ s r, Sanitized.ofSource {} source = .ok s ∧ s.text = source ∧ s.Settled ∧
      Sanitized.ofSource {} s.asModule = .ok r ∧ r.body = "const P = (1);\nvoid " ∧
      r.body ≠ s.lines ++ "\n" := by
  intro source
  let s : Sanitized := {
    standIns := ""
    body := source
    entryName := "P"
    entryForm := .constDeclaration
    references := [] }
  have made : (Sanitized.ofSource {} source).toOption = some s := by decide +kernel
  have settled : s.Settled := by constructor <;> decide +kernel
  have again : (Sanitized.ofSource {} s.asModule).toOption.map (·.body) =
      some "const P = (1);\nvoid " := by
    decide +kernel
  have other : "const P = (1);\nvoid " ≠ s.lines ++ "\n" := by decide +kernel
  cases h : Sanitized.ofSource {} source with
  | error e => simp [h, Except.toOption] at made
  | ok s' =>
    obtain rfl : s' = s := by simpa [h, Except.toOption] using made
    cases h' : Sanitized.ofSource {} s.asModule with
    | error e => simp [h', Except.toOption] at again
    | ok r =>
      have body : r.body = "const P = (1);\nvoid " := by simpa [h', Except.toOption] using again
      exact ⟨s, r, rfl, rfl, settled, h', body, body ▸ other⟩

end Sanitized
end PagePreview
