import PagePreview.Text.Matcher
import Mathlib.Data.List.Basic

/-!
# What matchers read

A way to match is a member of the list a matcher gives. For every combinator there is one lemma that
says which those are, so a matcher built from them unfolds to the shape of the text that it reads.
A text cut up by a matcher is described by `Cut`, one case for each kind of piece, and what holds of
a rewritten text is shown by induction on that.
-/

namespace PagePreview.Text

/-- The last character of a run, or the one before it if the run is empty. -/
def lastOr (behind : Option Char) : List Char → Option Char
  | [] => behind
  | c :: run => lastOr (some c) run

@[simp] theorem lastOr_nil (b : Option Char) : lastOr b [] = b := rfl

@[simp] theorem lastOr_cons (b : Option Char) (c : Char) (s : List Char) :
    lastOr b (c :: s) = lastOr (some c) s := rfl

theorem lastOr_append (b : Option Char) (s t : List Char) :
    lastOr b (s ++ t) = lastOr (lastOr b s) t := by
  induction s generalizing b with
  | nil => rfl
  | cons c s ih => exact ih (some c)

theorem run_eq_of_append {test : Char → Bool} {g h s t : List Char} {c d : Char}
    (hg : ∀ e ∈ g, test e = true) (hh : ∀ e ∈ h, test e = true) (hc : test c = false)
    (hd : test d = false) (same : g ++ c :: s = h ++ d :: t) : g = h ∧ c = d ∧ s = t := by
  induction g generalizing h with
  | nil =>
    cases h with
    | nil =>
      obtain ⟨rfl, rfl⟩ := List.cons.inj same
      exact ⟨rfl, rfl, rfl⟩
    | cons e h =>
      obtain ⟨rfl, -⟩ := List.cons.inj same
      have member : test c = true := hh c (by simp)
      rw [hc] at member
      cases member
  | cons e g ih =>
    cases h with
    | nil =>
      obtain ⟨rfl, -⟩ := List.cons.inj same
      have member : test e = true := hg e (by simp)
      rw [hd] at member
      cases member
    | cons e' h =>
      obtain ⟨rfl, rest⟩ := List.cons.inj same
      have tails := ih (fun x hx => hg x (by simp [hx])) (fun x hx => hh x (by simp [hx])) rest
      obtain ⟨rfl, rfl, rfl⟩ := tails
      exact ⟨rfl, rfl, rfl⟩

theorem run_eq_nil {test : Char → Bool} {g s t : List Char} {c : Char}
    (hg : ∀ e ∈ g, test e = true) (hc : test c = false) (same : g ++ s = c :: t) : g = [] := by
  cases g with
  | nil => rfl
  | cons e g =>
    obtain ⟨rfl, -⟩ := List.cons.inj same
    have member : test e = true := hg e (by simp)
    rw [hc] at member
    cases member

@[simp] theorem Span.text_append (s t : List Char) : (⟨s ++ t, t⟩ : Span).text = s := by
  simp [Span.text]

namespace Matcher

variable {α β : Type} {m : Matcher α} {p q r : Place}

theorem mem_pure {a b : α} : (b, q) ∈ (pure a : Matcher α) p ↔ b = a ∧ q = p := by
  change (b, q) ∈ [(a, p)] ↔ _
  simp

theorem mem_bind {f : α → Matcher β} {b : β} :
    (b, r) ∈ (m >>= f) p ↔ ∃ a q, (a, q) ∈ m p ∧ (b, r) ∈ f a q := by
  change (b, r) ∈ (m p).flatMap (fun way => f way.1 way.2) ↔ _
  simp

theorem mem_map {f : α → β} {b : β} : (b, q) ∈ (f <$> m) p ↔ ∃ a, (a, q) ∈ m p ∧ b = f a := by
  change (b, q) ∈ (m >>= pure ∘ f) p ↔ _
  rw [mem_bind]
  constructor
  · rintro ⟨a, r, ha, hb⟩
    obtain ⟨rfl, rfl⟩ := mem_pure.mp hb
    exact ⟨a, ha, rfl⟩
  · rintro ⟨a, ha, rfl⟩
    exact ⟨a, q, ha, mem_pure.mpr ⟨rfl, rfl⟩⟩

theorem mem_orElse {n : Matcher α} {a : α} :
    (a, q) ∈ (m <|> n) p ↔ (a, q) ∈ m p ∨ (a, q) ∈ n p := by
  change (a, q) ∈ m p ++ n p ↔ _
  simp

theorem mem_here {test : Place → Bool} {u : Unit} :
    (u, q) ∈ here test p ↔ test p = true ∧ q = p := by
  unfold here
  split <;> simp [*]

theorem mem_char {test : Char → Bool} {c : Char} :
    (c, q) ∈ char test p ↔
      test c = true ∧ ∃ s, p.ahead = c :: s ∧ q = ⟨some c, s⟩ := by
  obtain ⟨b, s⟩ := p
  cases s with
  | nil => simp [char]
  | cons d s =>
    have here : char test ⟨b, d :: s⟩ = if test d then [(d, ⟨some d, s⟩)] else [] := rfl
    rw [here]
    split
    · rename_i hd
      constructor
      · intro member
        cases List.mem_singleton.mp member
        exact ⟨hd, s, rfl, rfl⟩
      · rintro ⟨-, t, parts, rfl⟩
        cases parts
        exact List.mem_singleton.mpr rfl
    · rename_i hd
      constructor
      · exact fun member => absurd member List.not_mem_nil
      · rintro ⟨hc, t, parts, -⟩
        cases parts
        exact absurd hc hd

theorem mem_word {w : List Char} {u : Unit} :
    (u, q) ∈ word w p ↔ ∃ s, p.ahead = w ++ s ∧ q = ⟨lastOr p.behind w, s⟩ := by
  induction w generalizing p with
  | nil =>
    obtain ⟨b, s⟩ := p
    simp [word]
  | cons c w ih =>
    obtain ⟨b, s⟩ := p
    cases s with
    | nil => simp [word]
    | cons d s =>
      simp only [word]
      split
      · rename_i same
        subst same
        simp [ih]
      · rename_i other
        simp [Ne.symm other]

theorem mem_text {w : String} {u : Unit} :
    (u, q) ∈ text w p ↔ ∃ s, p.ahead = w.toList ++ s ∧ q = ⟨lastOr p.behind w.toList, s⟩ :=
  mem_word

theorem mem_runs {test : Char → Bool} {b : Option Char} {s : List Char} :
    q ∈ runs test b s ↔
      ∃ run rest, s = run ++ rest ∧ (∀ c ∈ run, test c = true) ∧ q = ⟨lastOr b run, rest⟩ := by
  induction s generalizing b with
  | nil =>
    simp only [runs, List.mem_singleton, List.nil_eq, List.append_eq_nil_iff]
    constructor
    · rintro rfl
      exact ⟨[], [], ⟨rfl, rfl⟩, by simp, rfl⟩
    · rintro ⟨run, rest, ⟨rfl, rfl⟩, -, rfl⟩
      rfl
  | cons c s ih =>
    rw [runs, List.mem_cons]
    constructor
    · rintro (rfl | further)
      · exact ⟨[], c :: s, rfl, by simp, rfl⟩
      · split at further
        · rename_i hc
          obtain ⟨run, rest, rfl, all, rfl⟩ := ih.mp further
          exact ⟨c :: run, rest, rfl, by simpa [hc] using all, rfl⟩
        · cases further
    · rintro ⟨run, rest, parts, all, rfl⟩
      cases run with
      | nil =>
        left
        rw [parts]
        rfl
      | cons d run =>
        right
        obtain ⟨rfl, rfl⟩ := List.cons.inj parts
        rw [if_pos (all c (by simp))]
        exact ih.mpr ⟨run, rest, rfl, fun e he => all e (by simp [he]), rfl⟩

theorem mem_spans {ends : List Place} {x : Span} :
    (x, q) ∈ spans p ends ↔ q ∈ ends ∧ x = ⟨p.ahead, q.ahead⟩ := by
  unfold spans
  simp only [List.mem_map, Prod.mk.injEq]
  constructor
  · rintro ⟨q, member, rfl, rfl⟩
    exact ⟨member, rfl⟩
  · rintro ⟨member, rfl⟩
    exact ⟨q, member, rfl, rfl⟩

theorem mem_span {x : Span} : (x, q) ∈ span m p ↔ (∃ a, (a, q) ∈ m p) ∧ x = ⟨p.ahead, q.ahead⟩ := by
  unfold span
  rw [mem_spans]
  simp

theorem mem_least {test : Char → Bool} {x : Span} :
    (x, q) ∈ least test p ↔
      ∃ run rest, p.ahead = run ++ rest ∧ (∀ c ∈ run, test c = true) ∧
        q = ⟨lastOr p.behind run, rest⟩ ∧ x = ⟨p.ahead, rest⟩ := by
  unfold least
  rw [mem_spans, mem_runs]
  constructor
  · rintro ⟨⟨run, rest, parts, all, rfl⟩, rfl⟩
    exact ⟨run, rest, parts, all, rfl, rfl⟩
  · rintro ⟨run, rest, parts, all, rfl, rfl⟩
    exact ⟨⟨run, rest, parts, all, rfl⟩, rfl⟩

theorem mem_most {test : Char → Bool} {x : Span} :
    (x, q) ∈ most test p ↔ (x, q) ∈ least test p := by
  unfold most least
  rw [mem_spans, mem_spans, List.mem_reverse]

theorem mem_least1 {test : Char → Bool} {x : Span} :
    (x, q) ∈ least1 test p ↔
      ∃ run rest, p.ahead = run ++ rest ∧ run ≠ [] ∧ (∀ c ∈ run, test c = true) ∧
        q = ⟨lastOr p.behind run, rest⟩ ∧ x = ⟨p.ahead, rest⟩ := by
  unfold least1
  simp only [mem_span, mem_bind, mem_char, mem_least]
  constructor
  · rintro ⟨⟨-, c, -, ⟨hc, s, hp, rfl⟩, run, rest, hs, all, rfl, -⟩, rfl⟩
    refine ⟨c :: run, rest, by rw [hp]; exact congrArg (c :: ·) hs, by simp, ?_, rfl, rfl⟩
    simpa [hc] using all
  · rintro ⟨run, rest, hp, some, all, rfl, rfl⟩
    obtain ⟨c, run, rfl⟩ := List.exists_cons_of_ne_nil some
    refine ⟨⟨_, c, _, ⟨all c (by simp), run ++ rest, hp, rfl⟩, run, rest, rfl, ?_, rfl, rfl⟩, rfl⟩
    exact fun d hd => all d (by simp [hd])

theorem mem_most1 {test : Char → Bool} {x : Span} :
    (x, q) ∈ most1 test p ↔ (x, q) ∈ least1 test p := by
  unfold most1 least1
  simp only [mem_span, mem_bind, mem_most]

theorem mem_opt {x : Option α} :
    (x, q) ∈ opt m p ↔ (∃ a, (a, q) ∈ m p ∧ x = some a) ∨ x = none ∧ q = p := by
  unfold opt
  rw [mem_orElse, mem_map, mem_pure]

theorem first?_isSome : (m.first? p).isSome = true ↔ ∃ a q, (a, q) ∈ m p := by
  unfold first?
  cases ways : m p with
  | nil => simp
  | cons way ways => exact ⟨fun _ => ⟨way.1, way.2, by simp⟩, fun _ => rfl⟩

theorem mem_of_first? {a : α} (h : m.first? p = some (a, q)) : (a, q) ∈ m p :=
  List.mem_of_head? h

def Reaches (m : Matcher α) (p q : Place) : Prop := ∃ a, (a, q) ∈ m p

theorem Reaches.first? (h : m.Reaches p q) : (m.first? p).isSome = true := by
  obtain ⟨a, h⟩ := h
  exact first?_isSome.mpr ⟨a, q, h⟩

theorem reaches_pure (a : α) : (pure a : Matcher α).Reaches p p := ⟨a, mem_pure.mpr ⟨rfl, rfl⟩⟩

theorem Reaches.bind {f : α → Matcher β} (hm : m.Reaches p q) (hf : ∀ a, (f a).Reaches q r) :
    (m >>= f).Reaches p r := by
  obtain ⟨a, ha⟩ := hm
  obtain ⟨b, hb⟩ := hf a
  exact ⟨b, mem_bind.mpr ⟨a, q, ha, hb⟩⟩

theorem Reaches.left {n : Matcher α} (h : m.Reaches p q) : (m <|> n).Reaches p q := by
  obtain ⟨a, h⟩ := h
  exact ⟨a, mem_orElse.mpr (.inl h)⟩

theorem Reaches.right {n : Matcher α} (h : n.Reaches p q) : (m <|> n).Reaches p q := by
  obtain ⟨a, h⟩ := h
  exact ⟨a, mem_orElse.mpr (.inr h)⟩

theorem Reaches.opt (h : m.Reaches p q) : (opt m).Reaches p q := by
  obtain ⟨a, h⟩ := h
  exact ⟨some a, mem_opt.mpr (.inl ⟨a, h, rfl⟩)⟩

theorem reaches_opt_none (m : Matcher α) (p : Place) : (opt m).Reaches p p :=
  ⟨none, mem_opt.mpr (.inr ⟨rfl, rfl⟩)⟩

theorem Reaches.span (h : m.Reaches p q) : (span m).Reaches p q := ⟨_, mem_span.mpr ⟨h, rfl⟩⟩

theorem reaches_here {test : Place → Bool} (h : test p = true) : (here test).Reaches p p :=
  ⟨(), mem_here.mpr ⟨h, rfl⟩⟩

variable {b : Option Char} {s : List Char} {test : Char → Bool}

theorem reaches_char {c : Char} (h : test c = true) :
    (char test).Reaches ⟨b, c :: s⟩ ⟨some c, s⟩ :=
  ⟨c, mem_char.mpr ⟨h, s, rfl, rfl⟩⟩

theorem reaches_text (w : String) :
    (text w).Reaches ⟨b, w.toList ++ s⟩ ⟨lastOr b w.toList, s⟩ :=
  ⟨(), mem_text.mpr ⟨s, rfl, rfl⟩⟩

theorem reaches_most {run : List Char} (h : ∀ c ∈ run, test c = true) :
    (most test).Reaches ⟨b, run ++ s⟩ ⟨lastOr b run, s⟩ :=
  ⟨_, mem_most.mpr (mem_least.mpr ⟨run, s, rfl, h, rfl, rfl⟩)⟩

theorem reaches_most_none : (most test).Reaches p p :=
  ⟨_, mem_most.mpr (mem_least.mpr ⟨[], p.ahead, rfl, by simp, rfl, rfl⟩)⟩

theorem reaches_least1 {run : List Char} (some : run ≠ []) (h : ∀ c ∈ run, test c = true) :
    (least1 test).Reaches ⟨b, run ++ s⟩ ⟨lastOr b run, s⟩ :=
  ⟨_, mem_least1.mpr ⟨run, s, rfl, some, h, rfl, rfl⟩⟩

theorem reaches_most1 {run : List Char} (some : run ≠ []) (h : ∀ c ∈ run, test c = true) :
    (most1 test).Reaches ⟨b, run ++ s⟩ ⟨lastOr b run, s⟩ :=
  ⟨_, mem_most1.mpr (mem_least1.mpr ⟨run, s, rfl, some, h, rfl, rfl⟩)⟩

def Advances (m : Matcher α) : Prop := ∀ p a q, (a, q) ∈ m p → ∃ run, p.ahead = run ++ q.ahead

theorem advances_pure (a : α) : (pure a : Matcher α).Advances := by
  rintro p b q h
  obtain ⟨-, rfl⟩ := mem_pure.mp h
  exact ⟨[], rfl⟩

theorem Advances.bind {f : α → Matcher β} (hm : m.Advances) (hf : ∀ a, (f a).Advances) :
    (m >>= f).Advances := by
  rintro p b r h
  obtain ⟨a, q, ha, hb⟩ := mem_bind.mp h
  obtain ⟨run, hrun⟩ := hm p a q ha
  obtain ⟨run', hrun'⟩ := hf a q b r hb
  exact ⟨run ++ run', by rw [hrun, hrun', List.append_assoc]⟩

theorem Advances.orElse {n : Matcher α} (hm : m.Advances) (hn : n.Advances) :
    (m <|> n).Advances := by
  rintro p a q h
  rcases mem_orElse.mp h with h | h
  · exact hm p a q h
  · exact hn p a q h

theorem Advances.opt (hm : m.Advances) : (opt m).Advances := by
  rintro p x q h
  rcases mem_opt.mp h with ⟨a, h, -⟩ | ⟨-, rfl⟩
  · exact hm p a q h
  · exact ⟨[], rfl⟩

theorem Advances.span (hm : m.Advances) : (span m).Advances := by
  rintro p x q h
  obtain ⟨⟨a, h⟩, -⟩ := mem_span.mp h
  exact hm p a q h

theorem advances_here (test : Place → Bool) : (here test).Advances := by
  rintro p u q h
  obtain ⟨-, rfl⟩ := mem_here.mp h
  exact ⟨[], rfl⟩

theorem advances_char (test : Char → Bool) : (char test).Advances := by
  rintro p c q h
  obtain ⟨-, s, hs, rfl⟩ := mem_char.mp h
  exact ⟨[c], hs⟩

theorem advances_text (w : String) : (text w).Advances := by
  rintro p u q h
  obtain ⟨s, hs, rfl⟩ := mem_text.mp h
  exact ⟨w.toList, hs⟩

theorem advances_most (test : Char → Bool) : (most test).Advances := by
  rintro p x q h
  obtain ⟨run, rest, hs, -, rfl, -⟩ := mem_least.mp (mem_most.mp h)
  exact ⟨run, hs⟩

theorem advances_least1 (test : Char → Bool) : (least1 test).Advances := by
  rintro p x q h
  obtain ⟨run, rest, hs, -, -, rfl, -⟩ := mem_least1.mp h
  exact ⟨run, hs⟩

theorem advances_most1 (test : Char → Bool) : (most1 test).Advances :=
  fun p x q h => advances_least1 test p x q (mem_most1.mp h)

def Consumes (m : Matcher α) : Prop :=
  ∀ p a q, (a, q) ∈ m p → ∃ run, run ≠ [] ∧ p.ahead = run ++ q.ahead

/-- The pieces that `m` cuts a text into: a character is kept where nothing matches, and the
preferred match is a piece where something does. -/
inductive Cut (m : Matcher α) : Option Char → List Char → List (Piece α) → Prop
  | nil (b : Option Char) : Cut m b [] []
  | kept {b : Option Char} {c : Char} {s : List Char} {ps : List (Piece α)} :
    m.first? ⟨b, c :: s⟩ = none → Cut m (some c) s ps → Cut m b (c :: s) (.kept c :: ps)
  | hit {b : Option Char} {run : List Char} {a : α} {q : Place} {ps : List (Piece α)} :
    run ≠ [] → m.first? ⟨b, run ++ q.ahead⟩ = some (a, q) →
    Cut m (lastOr b run) q.ahead ps → Cut m b (run ++ q.ahead) (.hit a run :: ps)

theorem piecesFrom_length (m : Matcher α) (b : Option Char) (run s : List Char) :
    m.piecesFrom run.length b (run ++ s) = m.piecesFrom 0 (lastOr b run) s := by
  induction run generalizing b with
  | nil => rfl
  | cons c run ih => exact ih (some c)

theorem piecesFrom_hit {b : Option Char} {run : List Char} {a : α} {q : Place}
    (nonempty : run ≠ []) (found : m.first? ⟨b, run ++ q.ahead⟩ = some (a, q)) :
    m.piecesFrom 0 b (run ++ q.ahead) = .hit a run :: m.piecesFrom 0 (lastOr b run) q.ahead := by
  obtain ⟨c, run, rfl⟩ := List.exists_cons_of_ne_nil nonempty
  rw [List.cons_append] at found ⊢
  have size : (run ++ q.ahead).length + 1 - q.ahead.length = run.length + 1 := by
    rw [List.length_append]
    omega
  simp only [piecesFrom, found, size, List.take_succ_cons, List.take_left, Nat.add_sub_cancel,
    piecesFrom_length, lastOr_cons]

theorem cut_piecesFrom (hm : m.Consumes) (b : Option Char) (s : List Char) :
    Cut m b s (m.piecesFrom 0 b s) := by
  -- a match skips more than one character, so the induction is on the length
  induction n : s.length using Nat.strongRecOn generalizing b s with
  | _ n ih =>
    subst n
    cases s with
    | nil => exact .nil b
    | cons c s =>
      cases found : m.first? ⟨b, c :: s⟩ with
      | none =>
        have rest := ih s.length (Nat.lt_succ_self _) (some c) s rfl
        have pieces : m.piecesFrom 0 b (c :: s) = .kept c :: m.piecesFrom 0 (some c) s := by
          simp only [piecesFrom, found]
        rw [pieces]
        exact .kept found rest
      | some way =>
        obtain ⟨a, q⟩ := way
        obtain ⟨run, nonempty, parts⟩ := hm _ a q (mem_of_first? found)
        dsimp only at parts
        rw [parts] at found ⊢
        rw [piecesFrom_hit nonempty found]
        have shorter : q.ahead.length < (c :: s).length := by
          have some : 0 < run.length := List.length_pos_of_ne_nil nonempty
          rw [parts, List.length_append]
          omega
        exact .hit nonempty found (ih _ shorter _ q.ahead rfl)

theorem cut_pieces (hm : m.Consumes) (s : List Char) : Cut m none s (m.pieces s) :=
  cut_piecesFrom hm none s

theorem Cut.write_self {b : Option Char} {s : List Char} {ps : List (Piece α)} (h : Cut m b s ps) :
    ps.flatMap (Piece.write fun _ t => t) = s := by
  induction h with
  | nil b => rfl
  | kept _ _ ih => simpa [Piece.write] using ih
  | hit _ _ _ ih => simpa [Piece.write] using ih

/-- If every match is written with fewer characters of one kind than it had, each makes the text
have fewer of them. -/
theorem Cut.write_lighter {heavy : Char → Bool} {f : α → List Char → List Char}
    (lighter : ∀ p a q run, (a, q) ∈ m p → p.ahead = run ++ q.ahead →
      (f a run).countP heavy < run.countP heavy)
    {b : Option Char} {s : List Char} {ps : List (Piece α)} (h : Cut m b s ps) :
    (ps.filterMap Piece.value?).length + (ps.flatMap (Piece.write f)).countP heavy ≤
      s.countP heavy := by
  induction h with
  | nil b => exact Nat.le_refl 0
  | @kept b c s ps _ _ ih =>
    change (ps.filterMap Piece.value?).length + (c :: ps.flatMap (Piece.write f)).countP heavy ≤ _
    simp only [List.countP_cons]
    omega
  | @hit b run a q ps _ found _ ih =>
    have size := lighter _ a q run (mem_of_first? found) rfl
    change (a :: ps.filterMap Piece.value?).length +
      (f a run ++ ps.flatMap (Piece.write f)).countP heavy ≤ _
    simp only [List.length_cons, List.countP_append]
    omega

theorem Cut.mem_hit {b : Option Char} {s : List Char} {ps : List (Piece α)} (h : Cut m b s ps) {a : α}
    {run : List Char} (member : .hit a run ∈ ps) :
    ∃ before q, s = before ++ (run ++ q.ahead) ∧ (a, q) ∈ m ⟨lastOr b before, run ++ q.ahead⟩ := by
  induction h with
  | nil => cases member
  | @kept b c s ps _ _ ih =>
    obtain ⟨before, q, parts, way⟩ := ih ((List.mem_cons.mp member).resolve_left nofun)
    exact ⟨c :: before, q, by rw [parts, List.cons_append], way⟩
  | @hit b run' a' q' ps _ found _ ih =>
    rcases List.mem_cons.mp member with here | later
    · cases here
      exact ⟨[], q', rfl, mem_of_first? found⟩
    · obtain ⟨before, q, parts, way⟩ := ih later
      refine ⟨run' ++ before, q, by rw [parts, List.append_assoc], ?_⟩
      rw [lastOr_append]
      exact way

theorem Cut.first?_eq_none {b : Option Char} {s : List Char} {ps : List (Piece α)} (h : Cut m b s ps)
    (none : ps.filterMap Piece.value? = []) {before after : List Char}
    (parts : s = before ++ after) (nonempty : after ≠ []) :
    m.first? ⟨lastOr b before, after⟩ = .none := by
  induction h generalizing before with
  | nil b => exact absurd (List.append_eq_nil_iff.mp parts.symm).2 nonempty
  | @kept b c s ps unread _ ih =>
    cases before with
    | nil =>
      obtain rfl : c :: s = after := parts
      exact unread
    | cons d before =>
      obtain ⟨rfl, rest⟩ := List.cons.inj parts
      exact ih none rest
  | hit => cases none

theorem first?_of_search? {b : Option Char} {s : List Char} {f : Found α}
    (h : m.search? b s = some f) :
    ∃ t, s = f.skipped ++ t ∧ m.first? ⟨lastOr b f.skipped, t⟩ = some (f.value, f.rest) := by
  induction s generalizing b f with
  | nil =>
    obtain ⟨⟨a, q⟩, found, rfl⟩ := Option.map_eq_some_iff.mp h
    exact ⟨[], rfl, found⟩
  | cons c s ih =>
    unfold search? at h
    cases found : m.first? ⟨b, c :: s⟩ with
    | some way =>
      simp only [found, Option.some.injEq] at h
      subst h
      exact ⟨c :: s, rfl, found⟩
    | none =>
      simp only [found] at h
      obtain ⟨g, hg, rfl⟩ := Option.map_eq_some_iff.mp h
      obtain ⟨t, rfl, rest⟩ := ih hg
      exact ⟨t, rfl, rest⟩

theorem mem_of_search? {b : Option Char} {s : List Char} {f : Found α}
    (h : m.search? b s = some f) :
    ∃ t, s = f.skipped ++ t ∧ (f.value, f.rest) ∈ m ⟨lastOr b f.skipped, t⟩ := by
  obtain ⟨t, parts, found⟩ := first?_of_search? h
  exact ⟨t, parts, mem_of_first? found⟩

theorem first?_of_ends {p q : Place} (way : ∃ r, m.Reaches p r)
    (ends : ∀ a r, (a, r) ∈ m p → r = q) : ∃ a, m.first? p = some (a, q) := by
  obtain ⟨r, reaches⟩ := way
  obtain ⟨⟨a, r'⟩, found⟩ := Option.isSome_iff_exists.mp reaches.first?
  have same : r' = q := ends a r' (mem_of_first? found)
  subst same
  exact ⟨a, found⟩

theorem first?_eq_none {p : Place} (unread : ∀ a q, (a, q) ∉ m p) : m.first? p = none := by
  cases found : m.first? p with
  | none => rfl
  | some way => exact absurd (mem_of_first? found) (unread way.1 way.2)

theorem piecesFrom_kept {run : List Char}
    (quiet : ∀ before after, run = before ++ after → after ≠ [] →
      m.first? ⟨lastOr b before, after ++ s⟩ = none) :
    m.piecesFrom 0 b (run ++ s) = run.map .kept ++ m.piecesFrom 0 (lastOr b run) s := by
  induction run generalizing b with
  | nil => rfl
  | cons c run ih =>
    have unread : m.first? ⟨b, c :: (run ++ s)⟩ = none := quiet [] (c :: run) rfl (by simp)
    have rest := ih fun before after parts some => by
      rw [← lastOr_cons b c before]
      exact quiet (c :: before) after (by rw [parts, List.cons_append]) some
    simp only [List.cons_append, List.map_cons, piecesFrom, unread, rest, lastOr_cons]

theorem write_kept {f : α → List Char → List Char} (run : List Char) (ps : List (Piece α)) :
    (run.map Piece.kept ++ ps).flatMap (Piece.write f) = run ++ ps.flatMap (Piece.write f) := by
  induction run with
  | nil => rfl
  | cons c run ih => exact congrArg (c :: ·) ih

theorem values_kept (run : List Char) (ps : List (Piece α)) :
    (run.map Piece.kept ++ ps).filterMap Piece.value? = ps.filterMap Piece.value? := by
  induction run with
  | nil => rfl
  | cons c run ih => exact ih

theorem run_eq_of_stops {test : Char → Bool} {g h s t : List Char}
    (hg : ∀ e ∈ g, test e = true) (hh : ∀ e ∈ h, test e = true) (hs : s.head?.any test = false)
    (ht : t.head?.any test = false) (same : g ++ s = h ++ t) : g = h ∧ s = t := by
  have longest : ∀ {run rest : List Char}, (∀ e ∈ run, test e = true) →
      rest.head?.any test = false → (run ++ rest).takeWhile test = run := by
    intro run rest all stops
    rw [List.takeWhile_append_of_pos all]
    cases rest with
    | nil => exact List.append_nil run
    | cons c rest =>
      have stop : test c = false := stops
      simp [stop]
  have runs : g = h := by
    rw [← longest hg hs, same, longest hh ht]
  subst runs
  exact ⟨rfl, List.append_cancel_left same⟩

theorem first?_bind {f : α → Matcher β} {a : α} (way : (a, q) ∈ m p)
    (only : ∀ a' q', (a', q') ∈ m p → f a' q' ≠ [] → a' = a ∧ q' = q) :
    (m >>= f).first? p = (f a).first? q := by
  change ((m p).flatMap fun way => f way.1 way.2).head? = (f a q).head?
  have goes : ∀ ways : List (α × Place), (a, q) ∈ ways →
      (∀ way ∈ ways, f way.1 way.2 ≠ [] → way = (a, q)) →
      (ways.flatMap fun way => f way.1 way.2).head? = (f a q).head? := by
    intro ways
    induction ways with
    | nil => exact fun member => absurd member List.not_mem_nil
    | cons way ways ih =>
      intro member only
      rw [List.flatMap_cons]
      by_cases stuck : f way.1 way.2 = []
      · rw [stuck, List.nil_append]
        by_cases later : (a, q) ∈ ways
        · exact ih later fun way' member' => only way' (List.mem_cons_of_mem _ member')
        · obtain rfl := (List.mem_cons.mp member).resolve_right later
          have none : (ways.flatMap fun way => f way.1 way.2) = [] := by
            refine List.flatMap_eq_nil_iff.mpr fun way' member' => ?_
            by_contra further
            exact later (only way' (List.mem_cons_of_mem _ member') further ▸ member')
          rw [none, stuck]
      · obtain rfl := only way List.mem_cons_self stuck
        rw [List.head?_append_of_ne_nil _ stuck]
  refine goes _ way fun way' member further => ?_
  obtain ⟨rfl, rfl⟩ := only way'.1 way'.2 member further
  rfl

/-- If the preferred way of `m` goes on, the preferred way on is the preferred way of all. -/
theorem first?_then {f : α → Matcher β} {a : α} {way : β × Place} (found : m.first? p = some (a, q))
    (next : (f a).first? q = some way) : (m >>= f).first? p = some way := by
  obtain ⟨ways, parts⟩ := List.head?_eq_some_iff.mp found
  change ((m p).flatMap fun way => f way.1 way.2).head? = some way
  rw [parts, List.flatMap_cons, List.head?_append_of_ne_nil _ (List.ne_nil_of_mem (mem_of_first? next))]
  exact next

theorem first?_here {test : Place → Bool} (h : test p = true) :
    (here test).first? p = some ((), p) := by
  rw [first?, here, if_pos h]
  rfl

theorem first?_char {c : Char} (hc : test c = true) :
    (char test).first? ⟨b, c :: s⟩ = some (c, ⟨some c, s⟩) := by
  rw [first?, char, if_pos hc]
  rfl

theorem first?_text (w : String) :
    (text w).first? ⟨b, w.toList ++ s⟩ = some ((), ⟨lastOr b w.toList, s⟩) := by
  rw [text]
  generalize w.toList = w
  induction w generalizing b with
  | nil => rfl
  | cons c w ih =>
    have step : word (c :: w) ⟨b, c :: w ++ s⟩ = word w ⟨some c, w ++ s⟩ := by simp [word]
    rw [first?, step]
    exact ih

theorem first?_opt {a : α} (found : m.first? p = some (a, q)) :
    (opt m).first? p = some (some a, q) := by
  have here : (some <$> m).first? p = some (some a, q) := first?_then found rfl
  obtain ⟨ways, parts⟩ := List.head?_eq_some_iff.mp here
  change ((some <$> m) p ++ _).head? = _
  rw [parts]
  rfl

theorem first?_opt_none (unread : m.first? p = none) : (opt m).first? p = some (none, p) := by
  have none : m p = [] := List.head?_eq_none_iff.mp unread
  change (((m p).flatMap fun way => (pure (some way.1) : Matcher (Option α)) way.2) ++ _).head? = _
  rw [none]
  rfl

theorem getLast?_runs {run : List Char} (all : ∀ c ∈ run, test c = true)
    (stops : s.head?.any test = false) :
    (runs test b (run ++ s)).getLast? = some ⟨lastOr b run, s⟩ := by
  induction run generalizing b with
  | nil =>
    cases s with
    | nil => rfl
    | cons c s =>
      have stop : test c = false := stops
      rw [List.nil_append, runs, stop]
      rfl
  | cons c run ih =>
    have rest := ih (b := some c) fun d hd => all d (by simp [hd])
    rw [List.cons_append, runs, all c (by simp), if_pos rfl, List.getLast?_cons, rest]
    rfl

theorem first?_most {run : List Char} (all : ∀ c ∈ run, test c = true)
    (stops : s.head?.any test = false) :
    (most test).first? ⟨b, run ++ s⟩ = some (⟨run ++ s, s⟩, ⟨lastOr b run, s⟩) := by
  change ((runs test b (run ++ s)).reverse.map fun q =>
    ((⟨run ++ s, q.ahead⟩ : Span), q)).head? = _
  rw [List.head?_map, List.head?_reverse, getLast?_runs all stops]
  rfl

theorem first?_most_none (stops : s.head?.any test = false) :
    (most test).first? ⟨b, s⟩ = some (⟨s, s⟩, ⟨b, s⟩) :=
  have none : ∀ c ∈ ([] : List Char), test c = true := fun _ member => absurd member List.not_mem_nil
  first?_most none stops

theorem first?_span {a : α} (found : m.first? p = some (a, q)) :
    (span m).first? p = some (⟨p.ahead, q.ahead⟩, q) := by
  change (((m p).map Prod.snd).map fun q => ((⟨p.ahead, q.ahead⟩ : Span), q)).head? = _
  rw [List.map_map, List.head?_map]
  exact congrArg _ found

theorem first?_most1 {run : List Char} (nonempty : run ≠ []) (all : ∀ c ∈ run, test c = true)
    (stops : s.head?.any test = false) :
    (most1 test).first? ⟨b, run ++ s⟩ = some (⟨run ++ s, s⟩, ⟨lastOr b run, s⟩) := by
  obtain ⟨c, run, rfl⟩ := List.exists_cons_of_ne_nil nonempty
  have more : ∀ d ∈ run, test d = true := fun d hd => all d (by simp [hd])
  have read : (do let _ ← char test; most test : Matcher Span).first? ⟨b, c :: (run ++ s)⟩ =
      some (⟨run ++ s, s⟩, ⟨lastOr (some c) run, s⟩) :=
    first?_then (first?_char (all c (by simp))) (first?_most more stops)
  exact first?_span read

theorem search?_skip {before : List Char}
    (unread : ∀ front back, before = front ++ back → back ≠ [] →
      m.first? ⟨lastOr b front, back ++ s⟩ = none) :
    m.search? b (before ++ s) =
      (m.search? (lastOr b before) s).map fun f => { f with skipped := before ++ f.skipped } := by
  induction before generalizing b with
  | nil => simp
  | cons c before ih =>
    have here : m.first? ⟨b, c :: (before ++ s)⟩ = none := unread [] (c :: before) rfl (by simp)
    have rest := ih (b := some c) fun front back parts some => by
      have found := unread (c :: front) back (by rw [parts, List.cons_append]) some
      rwa [lastOr_cons] at found
    rw [List.cons_append, search?, here]
    dsimp only
    rw [rest, Option.map_map]
    rfl

theorem search?_of_first? {a : α} (nonempty : s ≠ []) (found : m.first? ⟨b, s⟩ = some (a, q)) :
    m.search? b s = some ⟨[], a, s.take (s.length - q.ahead.length), q⟩ := by
  obtain ⟨c, s, rfl⟩ := List.exists_cons_of_ne_nil nonempty
  simp only [search?, found, List.length_cons]

theorem search?_eq_none (unread : ∀ front back, s = front ++ back →
    m.first? ⟨lastOr b front, back⟩ = none) : m.search? b s = none := by
  have skip : m.search? b (s ++ []) = (m.search? (lastOr b s) []).map fun f =>
      { f with skipped := s ++ f.skipped } :=
    search?_skip fun front back parts _ => by
      rw [List.append_nil]
      exact unread front back parts
  have last : m.first? ⟨lastOr b s, []⟩ = none := unread s [] (List.append_nil s).symm
  rw [List.append_nil] at skip
  rw [skip, search?, last]
  rfl

theorem occurs_of_values (hm : m.Consumes) (none : m.values s = []) : m.occurs s = false := by
  rw [occurs, find?, search?_eq_none]
  · rfl
  · intro front back parts
    cases back with
    | nil =>
      refine first?_eq_none fun a q way => ?_
      obtain ⟨run, nonempty, empty⟩ := hm _ a q way
      exact nonempty (List.append_eq_nil_iff.mp empty.symm).1
    | cons c back => exact (cut_pieces hm s).first?_eq_none none parts (List.cons_ne_nil c back)

theorem piecesFrom_unread (unread : ∀ front back, s = front ++ back → back ≠ [] →
    m.first? ⟨lastOr b front, back⟩ = none) : m.piecesFrom 0 b s = s.map .kept := by
  have kept : m.piecesFrom 0 b (s ++ []) = s.map .kept ++ m.piecesFrom 0 (lastOr b s) [] :=
    piecesFrom_kept fun front back parts some => by
      rw [List.append_nil]
      exact unread front back parts some
  rw [List.append_nil] at kept
  rw [kept]
  exact List.append_nil _

end Matcher
end PagePreview.Text
