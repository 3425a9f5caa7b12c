import PagePreview.Proofs.Text.Matcher

/-!
# Preferred readings

What a matcher prefers is put together from what its parts prefer, each in front of the text that the
next one reads. A text with one place to read is rewritten there and nowhere else.
-/

namespace PagePreview.Text.Matcher

variable {α β : Type} {m : Matcher α} {run s : List Char} {Good : α → Prop}

def Prefers (m : Matcher α) (run s : List Char) (Good : α → Prop) : Prop :=
  ∀ b, ∃ a b', m.first? ⟨b, run ++ s⟩ = some (a, ⟨b', s⟩) ∧ Good a

theorem Prefers.bind {f : α → Matcher β} {run' : List Char} {Good' : β → Prop}
    (hm : m.Prefers run (run' ++ s) Good) (hf : ∀ a, Good a → (f a).Prefers run' s Good') :
    (m >>= f).Prefers (run ++ run') s Good' := by
  intro b
  obtain ⟨a, b', first, good⟩ := hm b
  obtain ⟨a', b'', next, good'⟩ := hf a good b'
  rw [List.append_assoc]
  exact ⟨a', b'', first?_then first next, good'⟩

theorem Prefers.return {g : α → β} {Good' : β → Prop} (hm : m.Prefers run s Good)
    (hg : ∀ a, Good a → Good' (g a)) : (m >>= fun a => pure (g a)).Prefers run s Good' := by
  intro b
  obtain ⟨a, b', first, good⟩ := hm b
  exact ⟨g a, b', first?_then first rfl, hg a good⟩

theorem prefers_text (w : String) (s : List Char) : (text w).Prefers w.toList s fun _ => True :=
  fun _ => ⟨(), _, first?_text w, trivial⟩

theorem prefers_most {test : Char → Bool} (all : ∀ c ∈ run, test c = true)
    (stops : s.head?.any test = false) : (most test).Prefers run s fun _ => True :=
  fun _ => ⟨_, _, first?_most all stops, trivial⟩

theorem prefers_most1 {test : Char → Bool} (nonempty : run ≠ []) (all : ∀ c ∈ run, test c = true)
    (stops : s.head?.any test = false) : (most1 test).Prefers run s fun _ => True :=
  fun _ => ⟨_, _, first?_most1 nonempty all stops, trivial⟩

theorem Prefers.opt (hm : m.Prefers run s Good) : (opt m).Prefers run s fun _ => True := by
  intro b
  obtain ⟨a, b', first, -⟩ := hm b
  exact ⟨some a, b', first?_opt first, trivial⟩

theorem prefers_opt_none (unread : ∀ b a q, (a, q) ∉ m ⟨b, s⟩) :
    (opt m).Prefers [] s fun _ => True :=
  fun b => ⟨none, b, first?_opt_none (first?_eq_none (unread b)), trivial⟩

theorem Prefers.left {n : Matcher α} (hm : m.Prefers run s Good) : (m <|> n).Prefers run s Good := by
  intro b
  obtain ⟨a, b', first, good⟩ := hm b
  obtain ⟨ways, parts⟩ := List.head?_eq_some_iff.mp first
  refine ⟨a, b', ?_, good⟩
  change (m ⟨b, run ++ s⟩ ++ n ⟨b, run ++ s⟩).head? = _
  rw [parts]
  rfl

theorem Prefers.right {n : Matcher α} (hn : n.Prefers run s Good)
    (unread : ∀ b a q, (a, q) ∉ m ⟨b, run ++ s⟩) : (m <|> n).Prefers run s Good := by
  intro b
  obtain ⟨a, b', first, good⟩ := hn b
  refine ⟨a, b', ?_, good⟩
  have none : m ⟨b, run ++ s⟩ = [] := List.head?_eq_none_iff.mp (first?_eq_none (unread b))
  change (m ⟨b, run ++ s⟩ ++ n ⟨b, run ++ s⟩).head? = _
  rw [none]
  exact first

variable {f : α → List Char → List Char}

theorem rewrite_eq_self (hm : m.Consumes)
    (same : ∀ front run b a q, s = front ++ (run ++ q.ahead) → (a, q) ∈ m ⟨b, run ++ q.ahead⟩ →
      f a run = run) : m.rewrite f s = s := by
  have cut := cut_pieces hm s
  unfold rewrite
  generalize none = b, m.pieces s = ps at cut
  induction cut with
  | nil b => rfl
  | @kept b c s ps _ _ ih =>
    exact congrArg (c :: ·) (ih fun front run b a q parts => same (c :: front) run b a q (by rw [parts]; rfl))
  | @hit b run a q ps _ found _ ih =>
    have here : f a run = run := same [] run b a q rfl (mem_of_first? found)
    have rest := ih fun front run' b a q' parts =>
      same (run ++ front) run' b a q' (by rw [parts, List.append_assoc])
    change f a run ++ ps.flatMap (Piece.write f) = _
    rw [here, rest]

theorem rewrite_once {before : List Char} {a : α} {b' : Option Char} (nonempty : run ≠ [])
    (quiet : ∀ front back, before = front ++ back → back ≠ [] →
      m.first? ⟨lastOr none front, back ++ (run ++ s)⟩ = none)
    (found : m.first? ⟨lastOr none before, run ++ s⟩ = some (a, ⟨b', s⟩))
    (unread : ∀ front back b, s = front ++ back → back ≠ [] → m.first? ⟨b, back⟩ = none) :
    m.rewrite f (before ++ (run ++ s)) = before ++ (f a run ++ s) := by
  have rest : m.piecesFrom 0 (lastOr (lastOr none before) run) s = s.map .kept :=
    piecesFrom_unread fun front back => unread front back _
  have hit : m.piecesFrom 0 (lastOr none before) (run ++ s) =
      .hit a run :: m.piecesFrom 0 (lastOr (lastOr none before) run) s :=
    piecesFrom_hit (q := ⟨b', s⟩) nonempty found
  unfold rewrite pieces
  rw [piecesFrom_kept quiet, write_kept, hit, rest]
  have kept : (s.map Piece.kept).flatMap (Piece.write f) = s := by
    have all := write_kept (f := f) s []
    rwa [List.append_nil, List.flatMap_nil, List.append_nil] at all
  exact congrArg (fun t => before ++ (f a run ++ t)) kept

end PagePreview.Text.Matcher
