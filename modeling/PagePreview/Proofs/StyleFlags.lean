import PagePreview.Proofs.Spelling
import Mathlib.Logic.Function.Iterate

/-!
# Flags that no island carries

Each pass over the attributes of a tag takes flags away until one changes nothing, and one that
changes nothing has found no flag. Cleaned attributes are still those of one tag, and nothing between
two tags becomes a tag, so the tags of the rewritten text are the cleaned ones.
-/

namespace PagePreview.StyleIsland
open Text Matcher

/-- A flag behind blanks, alone or set to true, up to a blank, a slash or the end. -/
def HasFlag (s : List Char) : Prop :=
  ∃ front gap name isSet rest, s = front ++ (gap ++ (flagText name isSet ++ rest)) ∧
    gap ≠ [] ∧ Blank gap ∧ (name = "jsx" ∨ name = "global") ∧
    ∀ c ∈ rest.head?, isBlank c = true ∨ c = '/'

variable {p q : Place} {kept : List Char}

theorem reaches_flag (name : String) (isSet : Bool) (b : Option Char) (s : List Char) :
    ∃ b', (flag name).Reaches ⟨b, flagText name isSet ++ s⟩ ⟨b', s⟩ := by
  unfold flagText
  rw [List.append_assoc]
  cases isSet with
  | true =>
    exact ⟨_, (reaches_text name).bind fun _ => (reaches_text "=\x7btrue\x7d").opt.bind fun _ =>
      reaches_pure ()⟩
  | false =>
    exact ⟨_, (reaches_text name).bind fun _ => (reaches_opt_none _ _).bind fun _ => reaches_pure ()⟩

theorem strayFlag_reads (way : (kept, q) ∈ strayFlag p) :
    ∃ run, run ≠ [] ∧ p.ahead = run ++ (kept ++ q.ahead) ∧
      (kept = [] ∧ q.ahead = [] ∨ ∃ c, kept = [c] ∧ (isBlank c = true ∨ c = '/')) := by
  obtain ⟨_, p₁, blanks, behind⟩ := mem_bind.mp way
  obtain ⟨gap, rest, parts, nonempty, -, rfl, -⟩ := mem_least1.mp (mem_most1.mp blanks)
  obtain ⟨_, p₂, flags, last⟩ := mem_bind.mp behind
  have word : ∃ run, rest = run ++ p₂.ahead := by
    rcases mem_orElse.mp flags with jsx | global
    · obtain ⟨isSet, read⟩ := flag_reads jsx
      exact ⟨_, read⟩
    · obtain ⟨isSet, read⟩ := flag_reads global
      exact ⟨_, read⟩
  obtain ⟨run, rfl⟩ := word
  refine ⟨gap ++ run, by simp [nonempty], ?_⟩
  rcases mem_orElse.mp last with one | none
  · obtain ⟨c, found, rfl⟩ := mem_map.mp one
    obtain ⟨test, s, ahead, rfl⟩ := mem_char.mp found
    refine ⟨by rw [parts, ahead]; simp, .inr ⟨c, rfl, by simpa using test⟩⟩
  · obtain ⟨_, p₃, atEnd, nothing⟩ := mem_bind.mp none
    obtain ⟨isEnd, rfl⟩ := mem_here.mp atEnd
    obtain ⟨rfl, rfl⟩ := mem_pure.mp nothing
    have empty : q.ahead = [] := List.isEmpty_iff.mp isEnd
    exact ⟨by rw [parts, empty]; simp, .inl ⟨rfl, empty⟩⟩

theorem occurs_of_hasFlag {s : List Char} (h : HasFlag s) : strayFlag.occurs s = true := by
  obtain ⟨front, gap, name, isSet, rest, rfl, nonempty, blank, known, stops⟩ := h
  by_contra absent
  have unread := unread_of_occurs (Bool.eq_false_iff.mpr absent)
  obtain ⟨b, word⟩ := reaches_flag name isSet (lastOr (lastOr none front) gap) rest
  have flags : (flag "jsx" <|> flag "global").Reaches
      ⟨lastOr (lastOr none front) gap, flagText name isSet ++ rest⟩ ⟨b, rest⟩ := by
    rcases known with rfl | rfl
    · exact word.left
    · exact word.right
  have ends : ∃ r, ((fun c => [c]) <$> char (fun c => isBlank c || c == '/') <|>
      (do textEnd; pure [])).Reaches ⟨b, rest⟩ r := by
    cases rest with
    | nil => exact ⟨_, ((reaches_here rfl).bind fun _ => reaches_pure []).right⟩
    | cons c rest =>
      have test : (isBlank c || c == '/') = true := by simpa using stops c (by simp)
      have one : (char fun c => isBlank c || c == '/').Reaches ⟨b, c :: rest⟩ ⟨some c, rest⟩ :=
        reaches_char test
      obtain ⟨d, way⟩ := one
      exact ⟨_, Reaches.left ⟨_, mem_map.mpr ⟨d, way, rfl⟩⟩⟩
  obtain ⟨r, ends⟩ := ends
  have whole : strayFlag.Reaches ⟨lastOr none front, gap ++ (flagText name isSet ++ rest)⟩ r :=
    (reaches_most1 nonempty blank).bind fun _ => flags.bind fun _ => ends
  obtain ⟨kept, way⟩ := whole
  exact unread front _ rfl kept r way

theorem hasFlag_of_changed {s : List Char} (same : dropFlags s = s) : ¬HasFlag s := by
  intro has
  have absent : strayFlag.occurs s = false :=
    ((lightening_dropFlags s).resolve_right (by rw [same]; exact Nat.lt_irrefl _)).1
  rw [occurs_of_hasFlag has] at absent
  cases absent

/-- Every pass but the last makes the attributes lighter, so the passes end, and a larger bound
changes nothing. -/
theorem dropAllFlags_settles (s : List Char) :
    ∃ n ≤ weight s, dropFlags (dropFlags^[n] s) = dropFlags^[n] s ∧
      ∀ bound, weight s ≤ bound → dropAllFlags bound s = dropFlags^[n] s := by
  induction size : weight s using Nat.strongRecOn generalizing s with
  | _ w ih =>
    subst size
    rcases lightening_dropFlags s with ⟨-, same⟩ | lighter
    · refine ⟨0, Nat.zero_le _, same, fun bound _ => ?_⟩
      cases bound with
      | zero => rfl
      | succ bound => rw [dropAllFlags, if_pos same]; rfl
    · obtain ⟨n, few, fixed, enough⟩ := ih _ lighter (dropFlags s) rfl
      refine ⟨n + 1, by omega, fixed, fun bound room => ?_⟩
      obtain ⟨bound, rfl⟩ := Nat.exists_eq_add_one_of_ne_zero (by omega : bound ≠ 0)
      have changed : dropFlags s ≠ s := fun same => Nat.lt_irrefl _ (same ▸ lighter)
      rw [dropAllFlags, if_neg changed, enough bound (by omega), Function.iterate_succ_apply]

structure Attributes (a : List Char) : Prop where
  unclosed : '>' ∉ a
  edge : a.head?.any isWord = false

variable {a s : List Char} {b : Option Char} {x : Span}

theorem strayFlag_consumes : strayFlag.Consumes := by
  intro p kept q way
  obtain ⟨run, nonempty, parts, -⟩ := strayFlag_reads way
  exact ⟨run ++ kept, by simp [nonempty], by rw [parts, List.append_assoc]⟩

theorem mem_dropFlags {c : Char} (h : c ∈ dropFlags s) : c ∈ s := by
  have cut := cut_pieces strayFlag_consumes s
  unfold dropFlags rewrite at h
  generalize none = b, strayFlag.pieces s = ps at cut h
  induction cut with
  | nil b => exact h
  | kept _ _ ih =>
    rcases List.mem_cons.mp h with rfl | later
    · exact List.mem_cons_self
    · exact List.mem_cons_of_mem _ (ih later)
  | @hit b run kept q ps _ found _ ih =>
    obtain ⟨lost, -, parts, -⟩ := strayFlag_reads (mem_of_first? found)
    rw [← List.append_assoc] at parts
    have whole : run = lost ++ kept := List.append_cancel_right parts
    rcases List.mem_append.mp h with here | later
    · have here : c ∈ kept := here
      simp [whole, here]
    · exact List.mem_append_right _ (ih later)

theorem cut_nil {α : Type} {m : Matcher α} {ps : List (Piece α)} (h : Cut m b [] ps) : ps = [] := by
  generalize empty : [] = s at h
  cases h with
  | nil => rfl
  | kept => cases empty
  | hit nonempty => exact absurd (List.append_eq_nil_iff.mp empty.symm).1 nonempty

theorem head?_dropFlags (edge : s.head?.any isWord = false) : (dropFlags s).head?.any isWord = false := by
  have cut := cut_pieces strayFlag_consumes s
  unfold dropFlags rewrite
  generalize none = b, strayFlag.pieces s = ps at cut
  cases cut with
  | nil b => rfl
  | kept _ _ => exact edge
  | @hit b run kept q ps _ found rest =>
    obtain ⟨lost, -, -, ⟨rfl, empty⟩ | ⟨c, rfl, stop⟩⟩ := strayFlag_reads (mem_of_first? found)
    · rw [empty] at rest
      rw [cut_nil rest]
      rfl
    · change isWord c = false
      rcases stop with blank | rfl
      · exact isWord_of_isBlank blank
      · decide

theorem Attributes.dropFlags (h : Attributes a) : Attributes (dropFlags a) :=
  ⟨fun member => h.unclosed (mem_dropFlags member), head?_dropFlags h.edge⟩

theorem Attributes.dropAllFlags (h : Attributes a) (bound : Nat) : Attributes (dropAllFlags bound a) := by
  induction bound generalizing a with
  | zero => exact h
  | succ bound ih =>
    rw [StyleIsland.dropAllFlags]
    split
    · exact h
    · exact ih h.dropFlags

def cleaned (a : List Char) : List Char :=
  if holds "dangerouslySetInnerHTML".toList a then a else dropAllFlags a.length a

theorem Attributes.cleaned (h : Attributes a) : Attributes (cleaned a) := by
  unfold StyleIsland.cleaned
  split
  · exact h
  · exact h.dropAllFlags _

theorem cleanTag_eq (x : Span) : cleanTag x ("<style".toList ++ (x.text ++ ['>'])) =
    "<style".toList ++ (cleaned x.text ++ ['>']) := by
  unfold cleanTag cleaned
  dsimp only
  split
  · rfl
  · exact List.append_assoc _ _ _

theorem cleaned_flagless (a : List Char) :
    "dangerouslySetInnerHTML".toList <:+: cleaned a ∨ ¬HasFlag (cleaned a) := by
  unfold cleaned
  split
  · rename_i held
    exact .inl (holds_iff.mp held)
  · obtain ⟨n, -, fixed, enough⟩ := dropAllFlags_settles a
    rw [enough a.length List.countP_le_length]
    exact .inr (hasFlag_of_changed fixed)

theorem head?_attributes (a u : List Char) : (a ++ '>' :: u).head?.any isWord = a.head?.any isWord := by
  cases a with
  | nil => exact (by decide : isWord '>' = false)
  | cons c a => rfl

theorem first?_openTag (h : Attributes a) (b : Option Char) (u : List Char) :
    openTag.first? ⟨b, "<style".toList ++ (a ++ '>' :: u)⟩ =
      some (⟨a ++ '>' :: u, '>' :: u⟩, ⟨some '>', u⟩) := by
  have atEdge : (edge isWord).first? ⟨lastOr b "<style".toList, a ++ '>' :: u⟩ =
      some ((), ⟨lastOr b "<style".toList, a ++ '>' :: u⟩) := by
    refine first?_here ?_
    have letter : (lastOr b "<style".toList).any isWord = true := by
      have last : lastOr b "<style".toList = some 'e' := rfl
      rw [last]
      decide
    dsimp only
    rw [letter, head?_attributes, h.edge]
    rfl
  have inner : ∀ c ∈ a, (c != '>') = true := fun c member =>
    bne_iff_ne.mpr fun same => h.unclosed (same ▸ member)
  exact first?_then (first?_text "<style") (first?_then atEdge (first?_then (first?_most inner rfl)
    (first?_then (first?_text ">") rfl)))

theorem openTag_attributes (way : (x, q) ∈ openTag p) : Attributes x.text := by
  obtain ⟨_, p₁, h₁, tail₁⟩ := mem_bind.mp way
  obtain ⟨s₁, parts, rfl⟩ := mem_text.mp h₁
  obtain ⟨_, p₂, h₂, tail₂⟩ := mem_bind.mp tail₁
  obtain ⟨atEdge, rfl⟩ := mem_here.mp h₂
  obtain ⟨x', p₃, h₃, tail₃⟩ := mem_bind.mp tail₂
  obtain ⟨inner, s₃, rfl, free, rfl, rfl⟩ := mem_least.mp (mem_most.mp h₃)
  obtain ⟨_, p₄, h₄, tail₄⟩ := mem_bind.mp tail₃
  obtain ⟨s₄, rfl, rfl⟩ := mem_text.mp h₄
  obtain ⟨rfl, rfl⟩ := mem_pure.mp tail₄
  dsimp only
  rw [Span.text_append]
  refine ⟨fun member => absurd (free '>' member) (by decide), ?_⟩
  have letter : (lastOr p.behind "<style".toList).any isWord = true := by
    have last : lastOr p.behind "<style".toList = some 'e' := rfl
    rw [last]
    decide
  have close : inner ++ (">".toList ++ s₄) = inner ++ '>' :: s₄ := rfl
  dsimp only at atEdge
  rw [letter, close, head?_attributes] at atEdge
  simpa using atEdge

theorem openTag_run {run : List Char} (way : (x, q) ∈ openTag ⟨b, run ++ q.ahead⟩) :
    run = "<style".toList ++ (x.text ++ ['>']) := by
  have ahead : run ++ q.ahead = "<style".toList ++ (x.text ++ '>' :: q.ahead) := openTag_ahead way
  have regroup : "<style".toList ++ (x.text ++ '>' :: q.ahead) =
      "<style".toList ++ (x.text ++ ['>']) ++ q.ahead := by
    generalize "<style".toList = w
    simp
  exact List.append_cancel_right (ahead.trans regroup)

/-- Up to where the next tag begins, a rewritten text is what it was; and if there is a tag, there is a
`>` behind that place. -/
theorem cut_agrees {ps : List (Piece Span)} (h : Cut openTag b s ps) :
    let t := ps.flatMap (Piece.write cleanTag)
    s = t ∨ ∃ k s' t', s = k ++ '<' :: s' ∧ t = k ++ '<' :: t' ∧ '>' ∈ s' := by
  induction h with
  | nil b => exact .inl rfl
  | @kept b c s ps _ _ ih =>
    rcases ih with same | ⟨k, s', t', rfl, later, close⟩
    · exact .inl (congrArg (c :: ·) same)
    · exact .inr ⟨c :: k, s', t', rfl, congrArg (c :: ·) later, close⟩
  | @hit b run x q ps _ found _ ih =>
    have way := mem_of_first? found
    have ahead : run ++ q.ahead = "<style".toList ++ (x.text ++ '>' :: q.ahead) := openTag_ahead way
    have close : '>' ∈ "style".toList ++ (x.text ++ '>' :: q.ahead) :=
      List.mem_append_right _ (List.mem_append_right _ List.mem_cons_self)
    have written : (Piece.hit x run :: ps).flatMap (Piece.write cleanTag) = '<' :: ("style".toList ++
        (cleaned x.text ++ ['>']) ++ ps.flatMap (Piece.write cleanTag)) := by
      change cleanTag x run ++ _ = _
      rw [openTag_run way, cleanTag_eq, style_cons]
      rfl
    rw [style_cons] at ahead
    exact .inr ⟨[], _, _, ahead, written, close⟩

theorem tag_before {c : Char} {t u : List Char} (h : Attributes a)
    (agrees : s = t ∨ ∃ k s' t', s = k ++ '<' :: s' ∧ t = k ++ '<' :: t' ∧ '>' ∈ s')
    (tag : c :: t = "<style".toList ++ (a ++ '>' :: u)) :
    ∃ a' u', Attributes a' ∧ c :: s = "<style".toList ++ (a' ++ '>' :: u') := by
  rcases agrees with rfl | ⟨k, s', t', rfl, rfl, close⟩
  · exact ⟨a, u, h, tag⟩
  · rw [style_cons, List.cons_append] at tag
    obtain ⟨rfl, inside⟩ := List.cons.inj tag
    -- no `<` stands in the name of the tag, so it ends where the texts still agree
    obtain ⟨m, rfl, rest⟩ : ∃ m, k = "style".toList ++ m ∧ a ++ '>' :: u = m ++ '<' :: t' := by
      rcases List.append_eq_append_iff.mp inside with ⟨m, name, rest⟩ | ⟨m, name, rest⟩
      · cases m with
        | nil => exact ⟨[], by rw [name, List.append_nil, List.append_nil], rest.symm⟩
        | cons d m =>
          obtain rfl : '<' = d := (List.cons.inj rest).1
          have member : '<' ∈ "style".toList := by rw [name]; simp
          exact absurd member (by decide)
      · exact ⟨m, name, rest⟩
    have member : '>' ∈ m ++ '<' :: s' := by simp [close]
    obtain ⟨a', u', parts, unclosed⟩ := List.eq_append_cons_of_mem member
    refine ⟨a', u', ⟨unclosed, ?_⟩, ?_⟩
    · have first : (m ++ '<' :: s').head? = (m ++ '<' :: t').head? := by cases m <;> rfl
      rw [← head?_attributes a' u', ← parts, first, ← rest, head?_attributes]
      exact h.edge
    · rw [← parts]
      rfl

theorem cut_values_cleaned {ps : List (Piece Span)} (h : Cut openTag b s ps) (b' : Option Char) :
    ((openTag.piecesFrom 0 b' (ps.flatMap (Piece.write cleanTag))).filterMap Piece.value?).map Span.text =
      (ps.filterMap Piece.value?).map fun x => cleaned x.text := by
  induction h generalizing b' with
  | nil b => rfl
  | @kept b c s ps unread cut ih =>
    have none : openTag.first? ⟨b', c :: ps.flatMap (Piece.write cleanTag)⟩ = none := by
      refine first?_eq_none fun x q way => ?_
      obtain ⟨a', u', attributes, tag⟩ :=
        tag_before (openTag_attributes way) (cut_agrees cut) (openTag_ahead way)
      rw [tag, first?_openTag attributes] at unread
      cases unread
    have pieces : openTag.piecesFrom 0 b' (c :: ps.flatMap (Piece.write cleanTag)) =
        .kept c :: openTag.piecesFrom 0 (some c) (ps.flatMap (Piece.write cleanTag)) := by
      simp only [piecesFrom, none]
    change ((openTag.piecesFrom 0 b' (c :: ps.flatMap (Piece.write cleanTag))).filterMap _).map _ = _
    rw [pieces]
    exact ih (some c)
  | @hit b run x q ps nonempty found cut ih =>
    have way := mem_of_first? found
    generalize rest : ps.flatMap (Piece.write cleanTag) = t at ih
    have next := first?_openTag (openTag_attributes way).cleaned b' t
    have tag : "<style".toList ++ (cleaned x.text ++ '>' :: t) =
        "<style".toList ++ (cleaned x.text ++ ['>']) ++ t := by
      generalize "<style".toList = w
      simp
    have written : (Piece.hit x run :: ps).flatMap (Piece.write cleanTag) =
        "<style".toList ++ (cleaned x.text ++ ['>']) ++ t := by
      rw [List.flatMap_cons, rest, Piece.write, openTag_run way, cleanTag_eq]
    have filled : "<style".toList ++ (cleaned x.text ++ ['>']) ≠ [] :=
      List.append_ne_nil_of_left_ne_nil (by decide) _
    have pieces := piecesFrom_hit (q := ⟨some '>', t⟩) filled (tag ▸ next)
    rw [written, pieces]
    exact congrArg₂ List.cons (Span.text_append (cleaned x.text) ('>' :: t)) (ih _)

theorem values_normalize (source : List Char) :
    (openTag.values (normalize source)).map Span.text =
      (openTag.values (rewriteIslands stringIsland (rewriteIslands templateIsland source))).map
        fun x => cleaned x.text :=
  cut_values_cleaned (cut_pieces openTag_consumes _) none

/-- The passes over the attributes of a tag end, each at the first text that it leaves as it is, and
every tag of a normalized text carries CSS or has no flag. -/
theorem normalize_flagless (source : List Char) :
    (∀ attributes : List Char, ∃ n ≤ attributes.length,
      dropFlags (dropFlags^[n] attributes) = dropFlags^[n] attributes ∧
      ∀ bound, attributes.length ≤ bound → dropAllFlags bound attributes = dropFlags^[n] attributes) ∧
    ∀ x ∈ openTag.values (normalize source),
      "dangerouslySetInnerHTML".toList <:+: x.text ∨ ¬HasFlag x.text := by
  refine ⟨fun attributes => ?_, fun x member => ?_⟩
  · obtain ⟨n, few, fixed, enough⟩ := dropAllFlags_settles attributes
    have light : weight attributes ≤ attributes.length := List.countP_le_length
    exact ⟨n, Nat.le_trans few light, fixed, fun bound room => enough bound (Nat.le_trans light room)⟩
  · have text : x.text ∈ (openTag.values (normalize source)).map Span.text := List.mem_map_of_mem member
    rw [values_normalize] at text
    obtain ⟨y, -, same⟩ := List.mem_map.mp text
    rw [← same]
    exact cleaned_flagless y.text

end PagePreview.StyleIsland
