import PagePreview.Proofs.Text.Edit
import Mathlib.Data.List.Forall2

/-!
# Texts with more text behind them

A text is put in front of another one. A matcher that cannot end in the second text, because it needs
a character that the second text lacks, reads the first as it does when that stands alone. A matcher
that can end where the text does is only known to read no less when the second text is taken away.
-/

namespace PagePreview.Text.Matcher

variable {α β γ ν ω : Type} {tail : List Char}

def within (tail : List Char) (q : Place) : Bool := decide (tail.length < q.ahead.length)

def inside (tail : List Char) (way : α × Place) : Bool := within tail way.2

/-- The same way with and without `tail` behind the text; of what was read, `v` is compared. -/
def Same (tail : List Char) (v : α → ν) (x y : α × Place) : Prop :=
  v x.1 = v y.1 ∧ y.2 = ⟨x.2.behind, x.2.ahead ++ tail⟩

def Dead (tail : List Char) (m : Matcher α) : Prop := ∀ b s, s <:+ tail → m ⟨b, s⟩ = []

/-- With `tail` behind the text there are the same ways, in the same order, as far as they end before
the end of the text. -/
structure Alike (tail : List Char) (v : α → ν) (m n : Matcher α) : Prop where
  left : m.Advances
  right : n.Advances
  ways : ∀ b s, List.Forall₂ (Same tail v) ((m ⟨b, s⟩).filter (inside []))
    ((n ⟨b, s ++ tail⟩).filter (inside tail))

/-- With `tail` behind the text there are the same ways, in the same order, and none in `tail`. -/
structure Closed (tail : List Char) (v : α → ν) (m n : Matcher α) : Prop where
  left : m.Advances
  right : n.Advances
  ended : Dead [] m
  dead : Dead tail n
  ways : ∀ b s, List.Forall₂ (Same tail v) (m ⟨b, s⟩) (n ⟨b, s ++ tail⟩)

variable {m n : Matcher α} {v : α → ν} {w : β → ω}

theorem Advances.outside (hm : m.Advances) {p : Place} (h : p.ahead.length ≤ tail.length) :
    (m p).filter (inside tail) = [] := by
  rw [List.filter_eq_nil_iff]
  rintro ⟨a, q⟩ member
  obtain ⟨run, parts⟩ := hm p a q member
  rw [parts, List.length_append] at h
  simp only [inside, within, decide_eq_true_eq]
  omega

theorem flatMap_filter {test : α → Bool} {f : α → List β} {l : List α}
    (none : ∀ x ∈ l, test x = false → f x = []) : l.flatMap f = (l.filter test).flatMap f := by
  induction l with
  | nil => rfl
  | cons x l ih =>
    have rest := ih fun y hy => none y (by simp [hy])
    cases kept : test x with
    | true => simp [kept, rest]
    | false => simp [kept, rest, none x (by simp) kept]

theorem Dead.nil (h : Dead tail m) {p : Place} {a : α} {q : Place} (way : (a, q) ∈ m p)
    (inTail : p.ahead <:+ tail) : False := by
  have none := h p.behind p.ahead inTail
  rw [show m p = [] from none] at way
  exact absurd way List.not_mem_nil

theorem Dead.bind {f : α → Matcher β} (hm : m.Advances) (hf : ∀ a, Dead tail (f a)) :
    Dead tail (m >>= f) := by
  intro b s inTail
  rw [List.eq_nil_iff_forall_not_mem]
  rintro ⟨c, r⟩ way
  obtain ⟨a, q, ha, hb⟩ := mem_bind.mp way
  obtain ⟨run, parts⟩ := hm _ a q ha
  have later : q.ahead <:+ tail := by
    refine List.IsSuffix.trans ⟨run, ?_⟩ inTail
    exact parts.symm
  exact (hf a).nil hb later

theorem Dead.left {f : α → Matcher β} (hm : Dead tail m) : Dead tail (m >>= f) := by
  intro b s inTail
  rw [List.eq_nil_iff_forall_not_mem]
  rintro ⟨c, r⟩ way
  obtain ⟨a, q, ha, -⟩ := mem_bind.mp way
  exact hm.nil ha inTail

theorem Dead.span (h : Dead tail m) : Dead tail (span m) := by
  intro b s inTail
  change spans _ ((m ⟨b, s⟩).map Prod.snd) = []
  rw [h b s inTail]
  rfl

theorem Alike.bind {f g : α → Matcher β} (h : Alike tail v m n)
    (hfg : ∀ a b, v a = v b → Alike tail w (f a) (g b)) : Alike tail w (m >>= f) (n >>= g) where
  left := h.left.bind fun a => (hfg a a rfl).left
  right := h.right.bind fun a => (hfg a a rfl).right
  ways b s := by
    change List.Forall₂ _ (((m ⟨b, s⟩).flatMap fun way => f way.1 way.2).filter _)
      (((n ⟨b, s ++ tail⟩).flatMap fun way => g way.1 way.2).filter _)
    rw [List.filter_flatMap, List.filter_flatMap]
    have out : ∀ x ∈ m ⟨b, s⟩, inside [] x = false → (f x.1 x.2).filter (inside []) = [] := by
      intro x _ outside
      refine (hfg x.1 x.1 rfl).left.outside ?_
      simpa [inside, within] using outside
    have out' : ∀ y ∈ n ⟨b, s ++ tail⟩, inside tail y = false →
        (g y.1 y.2).filter (inside tail) = [] := by
      intro y _ outside
      refine (hfg y.1 y.1 rfl).right.outside ?_
      simpa [inside, within] using outside
    rw [flatMap_filter out, flatMap_filter out']
    refine List.rel_flatMap (h.ways b s) ?_
    rintro ⟨a, p⟩ ⟨a', p'⟩ ⟨same, place⟩
    dsimp only at same place
    subst place
    exact (hfg a a' same).ways p.behind p.ahead

theorem Alike.close {f g : α → Matcher β} (h : Alike tail v m n)
    (hfg : ∀ a b, v a = v b → Closed tail w (f a) (g b)) : Closed tail w (m >>= f) (n >>= g) where
  left := h.left.bind fun a => (hfg a a rfl).left
  right := h.right.bind fun a => (hfg a a rfl).right
  ended := .bind h.left fun a => (hfg a a rfl).ended
  dead := .bind h.right fun a => (hfg a a rfl).dead
  ways b s := by
    change List.Forall₂ _ ((m ⟨b, s⟩).flatMap fun way => f way.1 way.2)
      ((n ⟨b, s ++ tail⟩).flatMap fun way => g way.1 way.2)
    have out : ∀ x ∈ m ⟨b, s⟩, inside [] x = false → f x.1 x.2 = [] := by
      rintro ⟨a, p⟩ _ outside
      have empty : p.ahead = [] := by simpa [inside, within] using outside
      have ended := (hfg a a rfl).ended p.behind p.ahead
      exact ended (by simp [empty])
    have out' : ∀ y ∈ n ⟨b, s ++ tail⟩, inside tail y = false → g y.1 y.2 = [] := by
      rintro ⟨a, p⟩ member outside
      refine (hfg a a rfl).dead p.behind p.ahead ?_
      obtain ⟨run, parts⟩ := h.right _ a p member
      have short : p.ahead.length ≤ tail.length := by simpa [inside, within] using outside
      exact List.suffix_of_suffix_length_le ⟨run, parts.symm⟩ ⟨s, rfl⟩ short
    rw [flatMap_filter out, flatMap_filter out']
    refine List.rel_flatMap (h.ways b s) ?_
    rintro ⟨a, p⟩ ⟨a', p'⟩ ⟨same, place⟩
    dsimp only at same place
    subst place
    exact (hfg a a' same).ways p.behind p.ahead

theorem Alike.of_cons (hm : m.Advances) (hn : n.Advances)
    (ways : ∀ b c s, List.Forall₂ (Same tail v) ((m ⟨b, c :: s⟩).filter (inside []))
      ((n ⟨b, c :: (s ++ tail)⟩).filter (inside tail))) : Alike tail v m n where
  left := hm
  right := hn
  ways b s := by
    cases s with
    | nil =>
      have none : (m ⟨b, []⟩).filter (inside []) = [] := hm.outside (Nat.le_refl _)
      have none' : (n ⟨b, [] ++ tail⟩).filter (inside tail) = [] := hn.outside (Nat.le_refl _)
      rw [none, none']
      exact .nil
    | cons c s => exact ways b c s

theorem same_way {a a' : α} (same : v a = v a') (b : Option Char) (s : List Char) :
    List.Forall₂ (Same tail v) ([(a, (⟨b, s⟩ : Place))].filter (inside []))
      ([(a', (⟨b, s ++ tail⟩ : Place))].filter (inside tail)) := by
  cases s with
  | nil =>
    have out : inside tail (a', ⟨b, [] ++ tail⟩) = false := by simp [inside, within]
    rw [List.filter_cons_of_neg (by simp [inside, within]), List.filter_cons_of_neg (by rw [out]; exact Bool.false_ne_true)]
    exact .nil
  | cons c s =>
    have kept : inside tail (a', ⟨b, c :: s ++ tail⟩) = true := by
      simp only [inside, within, List.length_append, List.length_cons, decide_eq_true_eq]
      omega
    rw [List.filter_cons_of_pos (by simp [inside, within]), List.filter_cons_of_pos kept]
    exact .cons ⟨same, rfl⟩ .nil

theorem alike_pure {a b : α} (same : v a = v b) : Alike tail v (pure a) (pure b) where
  left := advances_pure a
  right := advances_pure b
  ways before s := same_way same before s

theorem alike_here {test : Place → Bool}
    (near : ∀ b c s t, test ⟨b, c :: s⟩ = test ⟨b, c :: t⟩) :
    Alike tail (fun _ => ()) (here test) (here test) := by
  refine .of_cons (advances_here test) (advances_here test) fun b c s => ?_
  unfold here
  rw [near b c s (s ++ tail)]
  cases test ⟨b, c :: (s ++ tail)⟩ with
  | false => exact .nil
  | true => exact same_way rfl b (c :: s)

theorem alike_char (test : Char → Bool) : Alike tail (fun _ => ()) (char test) (char test) := by
  refine .of_cons (advances_char test) (advances_char test) fun b c s => ?_
  have here : ∀ t, char test ⟨b, c :: t⟩ = if test c then [(c, ⟨some c, t⟩)] else [] := fun _ => rfl
  rw [here, here]
  cases test c with
  | false => exact .nil
  | true => exact same_way rfl (some c) s

theorem advances_word (w : List Char) : (word w).Advances := by
  rintro p u q h
  obtain ⟨s, hs, rfl⟩ := mem_word.mp h
  exact ⟨w, hs⟩

theorem alike_word (letters : List Char) :
    Alike tail (fun _ => ()) (word letters) (word letters) := by
  induction letters with
  | nil => exact alike_pure rfl
  | cons d letters ih =>
    refine .of_cons (advances_word _) (advances_word _) fun b c s => ?_
    by_cases same : d = c
    · simpa only [word, same, if_true] using ih.ways (some c) s
    · simp [word, same]

theorem alike_text (letters : String) : Alike tail (fun _ => ()) (text letters) (text letters) :=
  alike_word letters.toList

theorem Alike.orElse {m' n' : Matcher α} (h : Alike tail v m n) (h' : Alike tail v m' n') :
    Alike tail v (m <|> m') (n <|> n') where
  left := h.left.orElse h'.left
  right := h.right.orElse h'.right
  ways b s := by
    change List.Forall₂ _ ((m ⟨b, s⟩ ++ m' ⟨b, s⟩).filter _)
      ((n ⟨b, s ++ tail⟩ ++ n' ⟨b, s ++ tail⟩).filter _)
    rw [List.filter_append, List.filter_append]
    exact List.rel_append (h.ways b s) (h'.ways b s)

theorem Alike.opt (h : Alike tail v m n) : Alike tail (fun _ => ()) (opt m) (opt n) := by
  have found : Alike tail (fun _ => ()) (some <$> m) (some <$> n) :=
    h.bind fun a b _ => alike_pure (v := fun _ : Option α => ()) rfl
  exact found.orElse (alike_pure rfl)

def SameEnds (tail : List Char) (ends ends' : List Place) : Prop :=
  List.Forall₂ (fun q q' => q' = ⟨q.behind, q.ahead ++ tail⟩)
    (ends.filter (within []))
    (ends'.filter (within tail))

theorem SameEnds.reverse {ends ends' : List Place} (h : SameEnds tail ends ends') :
    SameEnds tail ends.reverse ends'.reverse := by
  unfold SameEnds
  rw [List.filter_reverse, List.filter_reverse, List.forall₂_reverse_iff]
  exact h

theorem SameEnds.cons {ends ends' : List Place} (b : Option Char) (c : Char) (s : List Char)
    (h : SameEnds tail ends ends') :
    SameEnds tail (⟨b, c :: s⟩ :: ends) (⟨b, c :: (s ++ tail)⟩ :: ends') := by
  unfold SameEnds
  have kept : within tail ⟨b, c :: (s ++ tail)⟩ = true := by
    simp only [within, List.length_append, List.length_cons, decide_eq_true_eq]
    omega
  rw [List.filter_cons_of_pos (by simp [within]), List.filter_cons_of_pos kept]
  exact .cons rfl h

theorem SameEnds.nil {ends ends' : List Place} (none : ∀ q ∈ ends, q.ahead = [])
    (none' : ∀ q ∈ ends', q.ahead <:+ tail) : SameEnds tail ends ends' := by
  have out : ends.filter (within []) = [] := by
    rw [List.filter_eq_nil_iff]
    intro q hq
    simp [within, none q hq]
  have out' : ends'.filter (within tail) = [] := by
    rw [List.filter_eq_nil_iff]
    intro q hq
    have short := (none' q hq).length_le
    simpa [within] using short
  unfold SameEnds
  rw [out, out']
  exact .nil

theorem SameEnds.spans {ends ends' : List Place} (h : SameEnds tail ends ends') (b : Option Char)
    (s : List Char) :
    List.Forall₂ (Same tail Span.text) ((spans ⟨b, s⟩ ends).filter (inside []))
      ((spans ⟨b, s ++ tail⟩ ends').filter (inside tail)) := by
  unfold Matcher.spans
  rw [List.filter_map, List.filter_map, List.forall₂_map_left_iff, List.forall₂_map_right_iff]
  refine List.Forall₂.imp ?_ h
  rintro q q' rfl
  refine ⟨?_, rfl⟩
  have size : (s ++ tail).length - (q.ahead ++ tail).length = s.length - q.ahead.length := by
    simp only [List.length_append]
    omega
  simp only [Span.text, size]
  rw [List.take_append_of_le_length (Nat.sub_le _ _)]

theorem sameEnds_runs (test : Char → Bool) (b : Option Char) (s : List Char) :
    SameEnds tail (runs test b s) (runs test b (s ++ tail)) := by
  induction s generalizing b with
  | nil =>
    refine .nil ?_ ?_
    · intro q hq
      obtain rfl := List.mem_singleton.mp hq
      rfl
    · intro q hq
      obtain ⟨run, rest, parts, -, rfl⟩ := mem_runs.mp hq
      exact ⟨run, parts.symm⟩
  | cons c s ih =>
    rw [List.cons_append, runs, runs]
    refine .cons b c s ?_
    cases test c with
    | false => exact .nil (by simp) (by simp)
    | true => exact ih (some c)

theorem alike_most (test : Char → Bool) : Alike tail Span.text (most test) (most test) where
  left := advances_most test
  right := advances_most test
  ways b s := (sameEnds_runs test b s).reverse.spans b s

theorem Alike.span (h : Alike tail v m n) : Alike tail Span.text (span m) (span n) where
  left := h.left.span
  right := h.right.span
  ways b s := by
    refine SameEnds.spans ?_ b s
    have ways := h.ways b s
    unfold SameEnds
    rw [List.filter_map, List.filter_map, List.forall₂_map_left_iff, List.forall₂_map_right_iff]
    exact ways.imp fun x y same => same.2

theorem alike_most1 (test : Char → Bool) : Alike tail Span.text (most1 test) (most1 test) := by
  have inner : Alike tail Span.text (do let _ ← char test; most test) (do let _ ← char test; most test) :=
    (alike_char test).bind fun _ _ _ => alike_most test
  exact inner.span

theorem dead_text {letters : String} {c : Char} (h : c ∈ letters.toList) (hc : c ∉ tail) :
    Dead tail (text letters) := by
  intro b s inTail
  rw [List.eq_nil_iff_forall_not_mem]
  rintro ⟨u, q⟩ way
  obtain ⟨rest, parts, -⟩ := mem_text.mp way
  have whole : s = letters.toList ++ rest := parts
  exact hc (inTail.mem (by simp [whole, h]))

theorem closed_text {letters : String} {c : Char} (h : letters.toList = [c]) (hc : c ∉ tail) :
    Closed tail (fun _ => ()) (text letters) (text letters) where
  left := advances_text letters
  right := advances_text letters
  ended := dead_text (c := c) (by rw [h]; exact List.mem_singleton_self c) (by simp)
  dead := dead_text (c := c) (by rw [h]; exact List.mem_singleton_self c) hc
  ways b s := by
    cases s with
    | nil =>
      have none := dead_text (c := c) (by rw [h]; exact List.mem_singleton_self c) hc b tail (List.suffix_refl tail)
      rw [List.nil_append, none]
      unfold text
      rw [h]
      exact .nil
    | cons d s =>
      unfold text
      rw [h, List.cons_append]
      by_cases same : c = d
      · simp only [word, same, if_true]
        exact .cons ⟨rfl, rfl⟩ .nil
      · simp only [word, same, if_false]
        exact .nil

theorem Closed.return {x y : β} (h : Closed tail v m n) (same : w x = w y) :
    Closed tail w (do let _ ← m; pure x) (do let _ ← n; pure y) where
  left := h.left.bind fun _ => advances_pure _
  right := h.right.bind fun _ => advances_pure _
  ended := h.ended.left
  dead := h.dead.left
  ways b s := by
    change List.Forall₂ _ ((m ⟨b, s⟩).flatMap fun way => [(x, way.2)])
      ((n ⟨b, s ++ tail⟩).flatMap fun way => [(y, way.2)])
    refine List.rel_flatMap (h.ways b s) ?_
    rintro ⟨a, p⟩ ⟨a', p'⟩ ⟨-, place⟩
    exact .cons ⟨same, place⟩ .nil

theorem Closed.first? (h : Closed tail v m n) (b : Option Char) (s : List Char) :
    (m.first? ⟨b, s⟩ = none ∧ n.first? ⟨b, s ++ tail⟩ = none) ∨
      ∃ a a' q, v a = v a' ∧ m.first? ⟨b, s⟩ = some (a, q) ∧
        n.first? ⟨b, s ++ tail⟩ = some (a', ⟨q.behind, q.ahead ++ tail⟩) := by
  have ways := h.ways b s
  unfold Matcher.first?
  cases found : m ⟨b, s⟩ with
  | nil =>
    rw [found, List.forall₂_nil_left_iff] at ways
    rw [ways]
    exact .inl ⟨rfl, rfl⟩
  | cons x l =>
    rw [found] at ways
    cases found' : n ⟨b, s ++ tail⟩ with
    | nil =>
      rw [found'] at ways
      cases ways
    | cons y l' =>
      rw [found'] at ways
      obtain ⟨a, q⟩ := x
      obtain ⟨a', q'⟩ := y
      cases ways with
      | cons same rest =>
        obtain ⟨value, place⟩ := same
        dsimp only at value place
        subst place
        exact .inr ⟨a, a', q, value, rfl, rfl⟩

theorem Dead.write_self (h : Dead tail m) (f : α → List Char → List Char) (b : Option Char) :
    (m.piecesFrom 0 b tail).flatMap (Piece.write f) = tail := by
  have unread : ∀ before after, tail = before ++ after → after ≠ [] →
      m.first? ⟨lastOr b before, after ++ []⟩ = none := by
    intro before after parts _
    refine first?_eq_none fun a q way => h.nil way ?_
    rw [List.append_nil]
    exact ⟨before, parts.symm⟩
  have pieces := piecesFrom_kept (b := b) unread
  rw [List.append_nil] at pieces
  rw [pieces, write_kept]
  exact List.append_nil tail

theorem Closed.write_piecesFrom (h : Closed tail v m m) {f : α → List Char → List Char}
    (hf : ∀ a a' whole, v a = v a' → f a whole = f a' whole) (s : List Char) :
    ∀ k ≤ s.length, ∀ b, (m.piecesFrom k b (s ++ tail)).flatMap (Piece.write f) =
      (m.piecesFrom k b s).flatMap (Piece.write f) ++ tail := by
  induction s with
  | nil =>
    intro k hk b
    obtain rfl : k = 0 := Nat.le_zero.mp hk
    exact h.dead.write_self f b
  | cons c s ih =>
    intro k hk b
    cases k with
    | succ k => exact ih k (Nat.le_of_succ_le_succ hk) (some c)
    | zero =>
      rcases h.first? b (c :: s) with ⟨unread, unread'⟩ | ⟨a, a', q, value, found, found'⟩
      · rw [List.cons_append] at unread' ⊢
        simp only [piecesFrom, unread, unread', List.flatMap_cons, ih 0 (Nat.zero_le _) (some c)]
        exact (List.append_assoc _ _ _).symm
      · obtain ⟨run, parts⟩ := h.left _ a q (mem_of_first? found)
        have short : q.ahead.length ≤ s.length + 1 := by
          have size := congrArg List.length parts
          simp only [List.length_cons, List.length_append] at size
          omega
        have size : (s ++ tail).length + 1 - (q.ahead ++ tail).length =
            s.length + 1 - q.ahead.length := by
          simp only [List.length_append]
          omega
        have read : (c :: s ++ tail).take (s.length + 1 - q.ahead.length) =
            (c :: s).take (s.length + 1 - q.ahead.length) := by
          refine List.take_append_of_le_length ?_
          rw [List.length_cons]
          omega
        rw [List.cons_append] at read
        rw [List.cons_append] at found' ⊢
        simp only [piecesFrom, found, found', size, read, List.flatMap_cons,
          ih (s.length + 1 - q.ahead.length - 1) (by omega) (some c), Piece.write,
          hf a' a _ value.symm, List.append_assoc]

theorem Closed.rewrite_append (h : Closed tail v m m) {f : α → List Char → List Char}
    (hf : ∀ a a' whole, v a = v a' → f a whole = f a' whole) (s : List Char) :
    m.rewrite f (s ++ tail) = m.rewrite f s ++ tail :=
  h.write_piecesFrom hf s 0 (Nat.zero_le _) none

def Replays (m n : Matcher α) : Prop :=
  ∀ b s a q, (a, q) ∈ m ⟨b, s⟩ → ∃ run rest, s = run ++ rest ∧ q = ⟨lastOr b run, rest⟩ ∧
    ∀ t, n.Reaches ⟨b, run ++ t⟩ ⟨lastOr b run, t⟩

def Survives (tail : List Char) (m n : Matcher α) : Prop :=
  ∀ b s a q, (a, q) ∈ m ⟨b, s ++ tail⟩ → ∃ r, n.Reaches ⟨b, s⟩ r

def EndsIn (test : Char → Bool) (m : Matcher α) : Prop :=
  ∀ p a q, (a, q) ∈ m p → ∃ run c, p.ahead = run ++ c :: q.ahead ∧ test c = true

def Breaks (m n : Matcher α) : Prop :=
  ∀ b s t a q, (a, q) ∈ m ⟨b, s ++ t⟩ → q.ahead <:+ t → ∃ c, n.Reaches ⟨b, s⟩ ⟨c, []⟩

def Ends (m : Matcher α) : Prop := ∀ b, ∃ r, m.Reaches ⟨b, []⟩ r

theorem replays_pure (a a' : α) : Replays (pure a) (pure a') := by
  rintro b s x q h
  obtain ⟨-, rfl⟩ := mem_pure.mp h
  exact ⟨[], s, rfl, rfl, fun _ => reaches_pure a'⟩

theorem Replays.bind {f g : α → Matcher β} (h : Replays m n)
    (hfg : ∀ a a', Replays (f a) (g a')) : Replays (m >>= f) (n >>= g) := by
  rintro b s x r way
  obtain ⟨a, q, ha, hx⟩ := mem_bind.mp way
  obtain ⟨run, rest, rfl, rfl, again⟩ := h b s a q ha
  obtain ⟨run', rest', rfl, rfl, -⟩ := hfg a a _ _ x r hx
  refine ⟨run ++ run', rest', (List.append_assoc _ _ _).symm, by rw [lastOr_append], fun t => ?_⟩
  rw [List.append_assoc, lastOr_append]
  refine (again (run' ++ t)).bind fun a' => ?_
  obtain ⟨run₂, rest₂, parts, place, onward⟩ := hfg a a' _ _ x _ hx
  have same : run' = run₂ ∧ rest' = rest₂ := by
    have ends : rest' = rest₂ := congrArg Place.ahead place
    subst ends
    exact ⟨List.append_cancel_right parts, rfl⟩
  obtain ⟨rfl, rfl⟩ := same
  exact onward t

theorem Replays.orElse {m' n' : Matcher α} (h : Replays m n) (h' : Replays m' n') :
    Replays (m <|> m') (n <|> n') := by
  rintro b s a q way
  rcases mem_orElse.mp way with way | way
  · obtain ⟨run, rest, parts, place, again⟩ := h b s a q way
    exact ⟨run, rest, parts, place, fun t => (again t).left⟩
  · obtain ⟨run, rest, parts, place, again⟩ := h' b s a q way
    exact ⟨run, rest, parts, place, fun t => (again t).right⟩

theorem Replays.opt (h : Replays m n) : Replays (opt m) (opt n) := by
  rintro b s x q way
  rcases mem_opt.mp way with ⟨a, read, rfl⟩ | ⟨rfl, rfl⟩
  · obtain ⟨run, rest, parts, place, again⟩ := h b s a q read
    exact ⟨run, rest, parts, place, fun t => (again t).opt⟩
  · exact ⟨[], s, rfl, rfl, fun _ => reaches_opt_none _ _⟩

theorem Replays.span (h : Replays m n) : Replays (span m) (span n) := by
  rintro b s x q way
  obtain ⟨⟨a, way⟩, -⟩ := mem_span.mp way
  obtain ⟨run, rest, parts, place, again⟩ := h b s a q way
  exact ⟨run, rest, parts, place, fun t => (again t).span⟩

theorem replays_behind {test : Place → Bool} (near : ∀ b s t, test ⟨b, s⟩ = test ⟨b, t⟩) :
    Replays (here test) (here test) := by
  rintro b s u q way
  obtain ⟨passes, rfl⟩ := mem_here.mp way
  exact ⟨[], s, rfl, rfl, fun t => reaches_here (near b s t ▸ passes)⟩

theorem replays_char (test : Char → Bool) : Replays (char test) (char test) := by
  rintro b s c q way
  obtain ⟨hc, rest, parts, rfl⟩ := mem_char.mp way
  exact ⟨[c], rest, parts, rfl, fun t => reaches_char hc⟩

theorem replays_text (letters : String) : Replays (text letters) (text letters) := by
  rintro b s u q way
  obtain ⟨rest, parts, rfl⟩ := mem_text.mp way
  exact ⟨letters.toList, rest, parts, rfl, fun t => reaches_text letters⟩

theorem replays_most (test : Char → Bool) : Replays (most test) (most test) := by
  rintro b s x q way
  obtain ⟨run, rest, parts, all, rfl, -⟩ := mem_least.mp (mem_most.mp way)
  exact ⟨run, rest, parts, rfl, fun t => reaches_most all⟩

theorem replays_least1 (test : Char → Bool) : Replays (least1 test) (least1 test) := by
  rintro b s x q way
  obtain ⟨run, rest, parts, some, all, rfl, -⟩ := mem_least1.mp way
  exact ⟨run, rest, parts, rfl, fun t => reaches_least1 some all⟩

theorem replays_most1 (test : Char → Bool) : Replays (most1 test) (most1 test) := by
  rintro b s x q way
  obtain ⟨run, rest, parts, some, all, rfl, -⟩ := mem_least1.mp (mem_most1.mp way)
  exact ⟨run, rest, parts, rfl, fun t => reaches_most1 some all⟩

theorem endsIn_char (test : Char → Bool) : EndsIn test (char test) := by
  rintro p c q way
  obtain ⟨hc, rest, parts, rfl⟩ := mem_char.mp way
  exact ⟨[], c, parts, hc⟩

theorem EndsIn.bind {test : Char → Bool} {f : α → Matcher β} (hm : m.Advances)
    (hf : ∀ a, EndsIn test (f a)) : EndsIn test (m >>= f) := by
  rintro p x r way
  obtain ⟨a, q, ha, hx⟩ := mem_bind.mp way
  obtain ⟨run, parts⟩ := hm p a q ha
  obtain ⟨run', c, parts', hc⟩ := hf a q x r hx
  exact ⟨run ++ run', c, by rw [parts, parts', List.append_assoc], hc⟩

theorem EndsIn.return {test : Char → Bool} (hm : EndsIn test m) (f : α → β) :
    EndsIn test (do let a ← m; pure (f a)) := by
  rintro p x r way
  obtain ⟨a, q, ha, hx⟩ := mem_bind.mp way
  obtain ⟨-, rfl⟩ := mem_pure.mp hx
  exact hm p a r ha

theorem EndsIn.orElse {test : Char → Bool} {m' : Matcher α} (h : EndsIn test m)
    (h' : EndsIn test m') : EndsIn test (m <|> m') := by
  rintro p a q way
  rcases mem_orElse.mp way with way | way
  · exact h p a q way
  · exact h' p a q way

theorem EndsIn.dead {test : Char → Bool} (h : EndsIn test m) (free : ∀ c ∈ tail, test c = false) :
    Dead tail m := by
  intro b s inTail
  rw [List.eq_nil_iff_forall_not_mem]
  rintro ⟨a, q⟩ way
  obtain ⟨run, c, parts, hc⟩ := h _ a q way
  have member : c ∈ s := by
    have whole : s = run ++ c :: q.ahead := parts
    simp [whole]
  rw [free c (inTail.mem member)] at hc
  cases hc

theorem split_of_last {w s t : List Char} {c : Char} (last : w.getLast? = some c) (hc : c ∉ tail)
    (parts : s ++ tail = w ++ t) : ∃ rest, s = w ++ rest ∧ t = rest ++ tail := by
  rcases List.append_eq_append_iff.mp parts with ⟨beyond, whole, inTail⟩ | ⟨rest, whole, behind⟩
  · rcases beyond.eq_nil_or_concat with rfl | ⟨front, d, rfl⟩
    · refine ⟨[], by simpa using whole.symm, inTail.symm⟩
    · rw [whole, List.concat_eq_append, ← List.append_assoc, List.getLast?_concat] at last
      obtain rfl := Option.some.inj last
      exact absurd (by simp [inTail]) hc
  · exact ⟨rest, whole, behind⟩

theorem EndsIn.split {test : Char → Bool} (ends : EndsIn test m) (free : ∀ c ∈ tail, test c = false)
    {b : Option Char} {s : List Char} {a : α} {q : Place} (way : (a, q) ∈ m ⟨b, s ++ tail⟩) :
    ∃ run rest, s = run ++ rest ∧ q.ahead = rest ++ tail := by
  obtain ⟨run, c, parts, hc⟩ := ends _ a q way
  have parts : s ++ tail = (run ++ [c]) ++ q.ahead := by simpa using parts
  have other : c ∉ tail := by
    intro member
    rw [free c member] at hc
    cases hc
  obtain ⟨rest, whole, ahead⟩ := split_of_last (List.getLast?_concat ..) other parts
  exact ⟨run ++ [c], rest, whole, ahead⟩

theorem Replays.split (h : Replays m n) {test : Char → Bool} (ends : EndsIn test m)
    (free : ∀ c ∈ tail, test c = false) {b : Option Char} {s : List Char} {a : α} {q : Place}
    (way : (a, q) ∈ m ⟨b, s ++ tail⟩) :
    ∃ run rest, s = run ++ rest ∧ q = ⟨lastOr b run, rest ++ tail⟩ ∧
      n.Reaches ⟨b, s⟩ ⟨lastOr b run, rest⟩ := by
  obtain ⟨run, rest, parts, rfl, again⟩ := h b _ a q way
  obtain ⟨run', rest', rfl, ahead⟩ := ends.split free way
  obtain rfl : rest = rest' ++ tail := ahead
  rw [← List.append_assoc] at parts
  have same : run' ++ rest' = run ++ rest' := List.append_cancel_right parts
  exact ⟨run, rest', same, rfl, same ▸ again rest'⟩

theorem Survives.bind {test : Char → Bool} {f g : α → Matcher β} (h : Replays m n)
    (ends : EndsIn test m) (free : ∀ c ∈ tail, test c = false)
    (hfg : ∀ a a', Survives tail (f a) (g a')) : Survives tail (m >>= f) (n >>= g) := by
  rintro b s x r way
  obtain ⟨a, q, ha, hx⟩ := mem_bind.mp way
  obtain ⟨run, rest, rfl, rfl, a', reached⟩ := h.split ends free ha
  obtain ⟨r', x', hx'⟩ := hfg a a' _ _ x r hx
  exact ⟨r', x', mem_bind.mpr ⟨a', _, reached, hx'⟩⟩

theorem Survives.bind_dead {f g : α → Matcher β} (h : Replays m n) (dead : ∀ a, Dead tail (f a))
    (hfg : ∀ a a', Survives tail (f a) (g a')) : Survives tail (m >>= f) (n >>= g) := by
  rintro b s x r way
  obtain ⟨a, q, ha, hx⟩ := mem_bind.mp way
  obtain ⟨run, rest, parts, rfl, again⟩ := h b _ a q ha
  rcases List.append_eq_append_iff.mp parts with ⟨beyond, rfl, inTail⟩ | ⟨rest', rfl, rfl⟩
  · exact ((dead a).nil hx ⟨beyond, inTail.symm⟩).elim
  · obtain ⟨a', reached⟩ := again rest'
    obtain ⟨r', x', hx'⟩ := hfg a a' _ _ x r hx
    exact ⟨r', x', mem_bind.mpr ⟨a', _, reached, hx'⟩⟩

theorem Survives.bind_open {f g : α → Matcher β} (h : Replays m n) (breaks : Breaks m n)
    (ends : ∀ a, Ends (g a)) (hfg : ∀ a a', Survives tail (f a) (g a')) :
    Survives tail (m >>= f) (n >>= g) := by
  rintro b s x r way
  obtain ⟨a, q, ha, hx⟩ := mem_bind.mp way
  obtain ⟨run, rest, parts, rfl, again⟩ := h b _ a q ha
  rcases List.append_eq_append_iff.mp parts with ⟨beyond, rfl, inTail⟩ | ⟨rest', rfl, rfl⟩
  · obtain ⟨c, a', reached⟩ := breaks b s tail a _ ha ⟨beyond, inTail.symm⟩
    obtain ⟨r', x', hx'⟩ := ends a' c
    exact ⟨r', x', mem_bind.mpr ⟨a', _, reached, hx'⟩⟩
  · obtain ⟨a', reached⟩ := again rest'
    obtain ⟨r', x', hx'⟩ := hfg a a' _ _ x r hx
    exact ⟨r', x', mem_bind.mpr ⟨a', _, reached, hx'⟩⟩

theorem Survives.bind_opt {test : Char → Bool} {f g : Option α → Matcher β} (h : Replays m n)
    (ends : EndsIn test m) (free : ∀ c ∈ tail, test c = false)
    (hfg : ∀ a a', Survives tail (f a) (g a')) :
    Survives tail (Matcher.opt m >>= f) (Matcher.opt n >>= g) := by
  rintro b s x r way
  obtain ⟨y, q, hy, hx⟩ := mem_bind.mp way
  rcases mem_opt.mp hy with ⟨a, ha, rfl⟩ | ⟨rfl, rfl⟩
  · obtain ⟨run, rest, rfl, rfl, reached⟩ := h.split ends free ha
    obtain ⟨y', reached'⟩ := reached.opt
    obtain ⟨r', x', hx'⟩ := hfg (some a) y' _ _ x r hx
    exact ⟨r', x', mem_bind.mpr ⟨y', _, reached', hx'⟩⟩
  · obtain ⟨r', x', hx'⟩ := hfg none none _ _ x r hx
    exact ⟨r', x', mem_bind.mpr ⟨none, _, mem_opt.mpr (.inr ⟨rfl, rfl⟩), hx'⟩⟩

theorem survives_pure (a a' : α) : Survives tail (pure a) (pure a') :=
  fun _ _ _ _ _ => ⟨_, reaches_pure a'⟩

theorem Survives.lineEnd {f g : Unit → Matcher β} (hfg : Survives tail (f ()) (g ())) :
    Survives tail (Matcher.lineEnd >>= f) (Matcher.lineEnd >>= g) := by
  rintro b s x r way
  obtain ⟨_, q, hu, hx⟩ := mem_bind.mp way
  obtain ⟨ends, rfl⟩ := mem_here.mp hu
  obtain ⟨r', x', hx'⟩ := hfg b s x r hx
  refine ⟨r', x', mem_bind.mpr ⟨(), _, mem_here.mpr ⟨?_, rfl⟩, hx'⟩⟩
  cases s with
  | nil => rfl
  | cons c s => exact ends

theorem breaks_most (test : Char → Bool) : Breaks (most test) (most test) := by
  rintro b s t x q way inTail
  obtain ⟨run, rest, parts, all, rfl, -⟩ := mem_least.mp (mem_most.mp way)
  have covered : ∀ c ∈ s, test c = true := by
    obtain ⟨beyond, whole⟩ := inTail
    have parts : s ++ t = run ++ rest := parts
    have whole : beyond ++ rest = t := whole
    rw [← whole, ← List.append_assoc] at parts
    have same : s ++ beyond = run := List.append_cancel_right parts
    exact fun c hc => all c (by simp [← same, hc])
  refine ⟨lastOr b s, ?_⟩
  have reached := reaches_most (b := b) (s := []) covered
  rwa [List.append_nil] at reached

theorem breaks_opt_char (test : Char → Bool) :
    Breaks (opt (char test)) (opt (char test)) := by
  rintro b s t x q way inTail
  rcases mem_opt.mp way with ⟨c, hc, rfl⟩ | ⟨rfl, rfl⟩
  · obtain ⟨passes, rest, parts, rfl⟩ := mem_char.mp hc
    cases s with
    | nil => exact ⟨b, reaches_opt_none _ _⟩
    | cons d s =>
      obtain ⟨rfl, after⟩ := List.cons.inj parts
      have whole : s ++ t = rest := after
      have empty : s = [] := by
        have short : rest.length ≤ t.length := inTail.length_le
        have size := congrArg List.length whole
        rw [List.length_append] at size
        exact List.length_eq_zero_iff.mp (by omega)
      subst empty
      exact ⟨some d, (reaches_char passes).opt⟩
  · have empty : s = [] := by
      have size := inTail.length_le
      simp only [List.length_append] at size
      exact List.length_eq_zero_iff.mp (by omega)
    subst empty
    exact ⟨b, reaches_opt_none _ _⟩

theorem ends_pure (a : α) : Ends (pure a) := fun _ => ⟨_, reaches_pure a⟩

theorem Ends.lineEnd {f : Unit → Matcher β} (hf : Ends (f ())) : Ends (Matcher.lineEnd >>= f) := by
  intro b
  obtain ⟨r, x, hx⟩ := hf b
  exact ⟨r, x, mem_bind.mpr ⟨(), _, mem_here.mpr ⟨rfl, rfl⟩, hx⟩⟩

theorem Ends.most {test : Char → Bool} {f : Span → Matcher β} (hf : ∀ x, Ends (f x)) :
    Ends (Matcher.most test >>= f) := by
  intro b
  have stays : (Matcher.most test).Reaches ⟨b, []⟩ ⟨b, []⟩ := reaches_most_none
  obtain ⟨x, hx⟩ := stays
  obtain ⟨r, y, hy⟩ := hf x b
  exact ⟨r, y, mem_bind.mpr ⟨x, _, hx, hy⟩⟩

theorem Ends.opt {f : Option α → Matcher β} (hf : ∀ x, Ends (f x)) :
    Ends (Matcher.opt m >>= f) := by
  intro b
  obtain ⟨r, y, hy⟩ := hf none b
  exact ⟨r, y, mem_bind.mpr ⟨none, _, mem_opt.mpr (.inr ⟨rfl, rfl⟩), hy⟩⟩

end PagePreview.Text.Matcher
