import PagePreview.Proofs.Seams
import PagePreview.Proofs.StyleIsland

/-!
# What the passes take away

Each pass over a page that changes anything takes away some of three characters, and none puts more of
them back: `x` stands in `export` and in the flag `jsx`, `g` in the flag `global`, and `<` opens a tag.
So a text that has as many of them behind the passes as before went through unchanged.
-/

namespace PagePreview
open Text Matcher

variable {α β : Type} {m : Matcher α} {f : α → List Char → List Char} {k : α → Nat} {s : List Char}

def isHeavy (c : Char) : Bool := c == 'x' || c == 'g' || c == '<'

def weight (s : List Char) : Nat := s.countP isHeavy

theorem weight_append (s t : List Char) : weight (s ++ t) = weight s + weight t := List.countP_append

theorem weight_cons (c : Char) (s : List Char) :
    weight (c :: s) = weight s + if isHeavy c then 1 else 0 := List.countP_cons

/-- A pass makes lighter whatever it does not leave as it is, and leaves only what is `Alone`. -/
def Lightening (Alone : List Char → Prop) (pass : List Char → List Char) : Prop :=
  ∀ s, Alone s ∧ pass s = s ∨ weight (pass s) < weight s

namespace Lightening

variable {A B : List Char → Prop} {pass next : List Char → List Char}

theorem le (h : Lightening A pass) (s : List Char) : weight (pass s) ≤ weight s := by
  rcases h s with ⟨-, same⟩ | lighter
  · exact Nat.le_of_eq (congrArg weight same)
  · exact Nat.le_of_lt lighter

theorem alone (h : Lightening A pass) (same : weight s ≤ weight (pass s)) : A s ∧ pass s = s :=
  (h s).resolve_right (Nat.not_lt.mpr same)

theorem comp (h : Lightening A pass) (h' : Lightening B next) :
    Lightening (fun s => A s ∧ B s) fun s => next (pass s) := by
  intro s
  rcases h s with ⟨a, same⟩ | lighter
  · dsimp only
    rw [same]
    exact (h' s).imp_left fun ⟨b, same'⟩ => ⟨⟨a, b⟩, same'⟩
  · exact .inr (Nat.lt_of_le_of_lt (h'.le (pass s)) lighter)

end Lightening

def Weighs (m : Matcher α) (k : α → Nat) : Prop :=
  ∀ p a q, (a, q) ∈ m p → ∃ run, p.ahead = run ++ q.ahead ∧ k a ≤ weight run

namespace Weighs

theorem ofAdvances (h : m.Advances) : Weighs m fun _ => 0 := by
  intro p a q way
  obtain ⟨run, parts⟩ := h p a q way
  exact ⟨run, parts, Nat.zero_le _⟩

theorem pure {a : α} (h : k a = 0) : Weighs (Pure.pure a) k := by
  intro p b q way
  obtain ⟨rfl, rfl⟩ := mem_pure.mp way
  exact ⟨[], rfl, by rw [h]; exact Nat.zero_le _⟩

theorem bind {g : α → Matcher β} {n : β → Nat} (hm : Weighs m k)
    (hg : ∀ a, Weighs (g a) fun b => n b - k a) : Weighs (m >>= g) n := by
  intro p b r way
  obtain ⟨a, q, first, second⟩ := mem_bind.mp way
  obtain ⟨run, parts, size⟩ := hm p a q first
  obtain ⟨run', parts', size'⟩ := hg a q b r second
  refine ⟨run ++ run', by rw [parts, parts', List.append_assoc], ?_⟩
  dsimp only at size'
  rw [weight_append]
  omega

theorem orElse {n : Matcher α} (hm : Weighs m k) (hn : Weighs n k) : Weighs (m <|> n) k := by
  intro p a q way
  rcases mem_orElse.mp way with first | second
  · exact hm p a q first
  · exact hn p a q second

theorem text (w : String) : Weighs (Matcher.text w) fun _ => weight w.toList := by
  intro p u q way
  obtain ⟨s, parts, rfl⟩ := mem_text.mp way
  exact ⟨w.toList, parts, Nat.le_refl _⟩

theorem map {g : α → β} {n : β → Nat} (hm : Weighs m fun a => n (g a)) : Weighs (g <$> m) n := by
  intro p b q way
  obtain ⟨a, first, rfl⟩ := mem_map.mp way
  exact hm p a q first

theorem consumes (h : Weighs m k) (some : ∀ a, 0 < k a) : m.Consumes := by
  intro p a q way
  obtain ⟨run, parts, size⟩ := h p a q way
  refine ⟨run, ?_, parts⟩
  rintro rfl
  exact absurd (some a) (Nat.not_lt.mpr size)

/-- If every match is written lighter than it was, only a text without one is left as it is. -/
theorem lightening (h : Weighs m k) (lighter : ∀ a run, weight (f a run) < k a) :
    Lightening (fun s => m.occurs s = false) (m.rewrite f) := by
  intro s
  have consumes : m.Consumes := h.consumes fun a => Nat.zero_lt_of_lt (lighter a [])
  have cut := cut_pieces consumes s
  have size := cut.write_lighter (f := f) fun p a q run way parts => by
    obtain ⟨run', parts', size⟩ := h p a q way
    rw [parts] at parts'
    rw [List.append_cancel_right parts']
    exact Nat.lt_of_lt_of_le (lighter a _) size
  cases values : (m.pieces s).filterMap Piece.value? with
  | nil =>
    have none := occurs_of_values consumes values
    exact .inl ⟨none, (unread_of_occurs none).rewrite f⟩
  | cons a values' =>
    right
    rw [values, List.length_cons] at size
    unfold weight Matcher.rewrite
    omega

end Weighs

def Lightens (m : Matcher α) (f : α → List Char → List Char) : Prop :=
  ∀ p a q run, (a, q) ∈ m p → p.ahead = run ++ q.ahead → f a run = run ∨ weight (f a run) < weight run

theorem Lightens.lightening (h : Lightens m f) (consumes : m.Consumes) :
    Lightening (fun _ => True) (m.rewrite f) := by
  intro s
  have cut := cut_pieces consumes s
  unfold Matcher.rewrite
  rw [true_and]
  generalize none = b, m.pieces s = ps at cut
  induction cut with
  | nil b => exact .inl rfl
  | @kept b c s ps _ _ ih =>
    change c :: ps.flatMap (Piece.write f) = _ ∨ weight (c :: ps.flatMap (Piece.write f)) < _
    rw [weight_cons, weight_cons]
    rcases ih with same | lighter
    · exact .inl (by rw [same])
    · exact .inr (by omega)
  | @hit b run a q ps _ found _ ih =>
    change f a run ++ ps.flatMap (Piece.write f) = _ ∨ weight (f a run ++ ps.flatMap (Piece.write f)) < _
    rw [weight_append, weight_append]
    rcases h _ a q run (mem_of_first? found) rfl with same | lighter
    · rcases ih with same' | lighter
      · exact .inl (by rw [same, same'])
      · exact .inr (by rw [same]; omega)
    · rcases ih with same | lighter'
      · exact .inr (by rw [same]; omega)
      · exact .inr (by omega)

namespace StyleIsland

theorem weight_cook (s : List Char) : weight (cook s) ≤ weight s := by
  induction s using cook.induct with
  | case1 => exact Nat.le_refl 0
  | case2 c s ih =>
    have known : weight (cook ('\\' :: c :: s)) ≤ weight [c] + weight (cook s) := by
      rw [cook.eq_def]
      change weight (_ ++ cook s) ≤ _
      rw [weight_append]
      refine Nat.add_le_add_right ?_ _
      split <;> simp [weight, isHeavy]
    rw [weight_cons, weight_cons]
    rw [weight_cons] at known
    have empty : weight [] = 0 := rfl
    omega
  | case3 c s _ ih =>
    rw [cook]
    · rw [weight_cons, weight_cons]
      omega
    · assumption

theorem weight_replaceFrom {old new : List Char} (light : weight new = 0) (skip : Nat) (s : List Char) :
    weight (replaceFrom old new skip s) ≤ weight s := by
  induction s generalizing skip with
  | nil => cases skip <;> exact Nat.le_refl 0
  | cons c s ih =>
    rw [weight_cons]
    cases skip with
    | succ skip => exact Nat.le_trans (ih skip) (Nat.le_add_right _ _)
    | zero =>
      unfold replaceFrom
      split
      · rw [weight_append, light, Nat.zero_add]
        exact Nat.le_trans (ih _) (Nat.le_add_right _ _)
      · rw [weight_cons]
        exact Nat.add_le_add_right (ih 0) _

theorem weight_replaceAll {old new : List Char} (light : weight new = 0) (s : List Char) :
    weight (replaceAll old new s) ≤ weight s := weight_replaceFrom light 0 s

theorem weight_escape (s : List Char) : weight (escape s) ≤ weight s :=
  Nat.le_trans (weight_replaceAll rfl _) (Nat.le_trans (weight_replaceAll rfl _)
    (weight_replaceAll rfl s))

theorem weight_element (css : List Char) : weight (element css) ≤ weight css + 2 := by
  have opens : weight "<style dangerouslySetInnerHTML=\x7b\x7b __html: \x60".toList = 2 := by decide
  have closes : weight "\x60 \x7d\x7d />".toList = 0 := by decide
  have inner := weight_escape css
  unfold element
  simp only [weight_append]
  simp only [opens, closes]
  omega

theorem weighs_literal (quote : Char) : Weighs (literal quote) fun x => weight x.text := by
  have payload : Weighs (fun p => spans p (literalRuns quote p.behind p.ahead).reverse)
      fun x => weight x.text := by
    intro p x q way
    obtain ⟨member, rfl⟩ := mem_spans.mp way
    obtain ⟨run, parts⟩ := suffix_of_mem_literalRuns (List.mem_reverse.mp member)
    have read : (⟨p.ahead, q.ahead⟩ : Span).text = run := by rw [← parts, Span.text_append]
    exact ⟨run, parts.symm, Nat.le_of_eq (congrArg weight read)⟩
  exact (Weighs.ofAdvances (advances_char _)).bind fun _ => payload.bind fun x =>
    (Weighs.ofAdvances (advances_char _)).bind fun _ => .pure (by omega)

theorem advances_flagValue : (opt (text "=\x7btrue\x7d")).Advances := (advances_text _).opt

theorem weighs_flag (name : String) : Weighs (flag name) fun _ => weight name.toList :=
  (Weighs.text name).bind fun _ => (Weighs.ofAdvances advances_flagValue).bind fun _ =>
    .pure (by omega)

theorem weighs_island {payload : Matcher Span} (h : Weighs payload fun x => weight x.text) :
    Weighs (island payload) fun x => weight x.text + 3 := by
  have style : weight "<style".toList = 1 := by decide
  have jsx : weight "jsx".toList = 1 := by decide
  have close : weight "</style".toList = 1 := by decide
  have global : (opt (do let _ ← blanks1; flag "global")).Advances :=
    Advances.opt ((advances_most1 _).bind fun _ => (advances_text _).bind fun _ =>
      advances_flagValue.bind fun _ => advances_pure _)
  have gap : Weighs blanks fun _ => 0 := .ofAdvances (advances_most _)
  have mark (w : String) : Weighs (text w) fun _ => 0 := .ofAdvances (advances_text w)
  exact (Weighs.text "<style").bind fun _ => (Weighs.ofAdvances (advances_most1 _)).bind fun _ =>
    (weighs_flag "jsx").bind fun _ => (Weighs.ofAdvances global).bind fun _ => gap.bind fun _ =>
      (mark ">").bind fun _ => gap.bind fun _ => (mark "\x7b").bind fun _ => gap.bind fun _ =>
        h.bind fun x => gap.bind fun _ => (mark "\x7d").bind fun _ => gap.bind fun _ =>
          (Weighs.text "</style").bind fun _ => gap.bind fun _ => (mark ">").bind fun _ =>
            .pure (by omega)

theorem lightening_islands {payload : Matcher Span} (h : Weighs payload fun x => weight x.text) :
    Lightening (fun s => (island payload).occurs s = false) (rewriteIslands (island payload)) := by
  refine (weighs_island h).lightening fun x _ => ?_
  have := weight_element (cook x.text)
  have := weight_cook x.text
  omega

theorem weighs_strayFlag : Weighs strayFlag fun kept => weight kept + 1 := by
  have jsx : weight "jsx".toList = 1 := by decide
  have global : weight "global".toList = 1 := by decide
  have flags : Weighs (flag "jsx" <|> flag "global") fun _ => 1 :=
    .orElse (weighs_flag "jsx") (weighs_flag "global")
  have last : Weighs ((fun c => [c]) <$> char fun c => isBlank c || c == '/') weight := by
    refine .map fun p c q way => ?_
    obtain ⟨-, s, parts, rfl⟩ := mem_char.mp way
    exact ⟨[c], parts, Nat.le_refl _⟩
  have none : Weighs (do textEnd; Pure.pure []) weight :=
    (Weighs.ofAdvances (advances_here _)).bind fun _ => .pure rfl
  exact (Weighs.ofAdvances (advances_most1 _)).bind fun _ => flags.bind fun _ => last.orElse none

theorem lightening_dropFlags : Lightening (fun s => strayFlag.occurs s = false) dropFlags :=
  weighs_strayFlag.lightening fun kept _ => Nat.lt_succ_self (weight kept)

theorem lightening_dropAllFlags (bound : Nat) :
    Lightening (fun _ => True) (dropAllFlags bound) := by
  intro s
  rw [true_and]
  induction bound generalizing s with
  | zero => exact .inl rfl
  | succ bound ih =>
    unfold dropAllFlags
    dsimp only
    split
    · exact .inl rfl
    · rename_i changed
      have dropped := (lightening_dropFlags s).resolve_left fun alone => changed alone.2
      rcases ih (dropFlags s) with same | lighter
      · exact .inr (by rwa [same])
      · exact .inr (Nat.lt_trans lighter dropped)

theorem openTag_reads {p q : Place} {x : Span} (way : (x, q) ∈ openTag p) :
    p.ahead = "<style".toList ++ x.text ++ ['>'] ++ q.ahead := by
  obtain ⟨_, p₁, h₁, tail₁⟩ := mem_bind.mp way
  obtain ⟨s₁, parts, rfl⟩ := mem_text.mp h₁
  obtain ⟨_, p₂, h₂, tail₂⟩ := mem_bind.mp tail₁
  obtain ⟨-, rfl⟩ := mem_here.mp h₂
  obtain ⟨x', p₃, h₃, tail₃⟩ := mem_bind.mp tail₂
  obtain ⟨inner, s₃, rfl, -, rfl, rfl⟩ := mem_least.mp (mem_most.mp h₃)
  obtain ⟨_, p₄, h₄, tail₄⟩ := mem_bind.mp tail₃
  obtain ⟨s₄, rfl, rfl⟩ := mem_text.mp h₄
  obtain ⟨rfl, rfl⟩ := mem_pure.mp tail₄
  rw [parts, Span.text_append]
  simp only [List.append_assoc]
  rfl

theorem lightens_cleanTag : Lightens openTag cleanTag := by
  intro p x q run way parts
  have shape := List.append_cancel_right (parts.symm.trans (openTag_reads way))
  unfold cleanTag
  dsimp only
  split
  · exact .inl rfl
  · rw [shape]
    simp only [weight_append]
    rcases lightening_dropAllFlags x.text.length x.text with ⟨-, same⟩ | lighter
    · exact .inl (by rw [same])
    · exact .inr (by omega)

theorem openTag_consumes : openTag.Consumes := by
  intro p x q way
  exact ⟨_, by simp, openTag_reads way⟩

theorem normalize_eq (s : List Char) : normalize s = s ∨ weight (normalize s) < weight s := by
  have template := lightening_islands (weighs_literal '\x60')
  have string := lightening_islands ((weighs_literal '"').orElse (weighs_literal '\''))
  have tags := lightens_cleanTag.lightening openTag_consumes
  exact ((template.comp string).comp tags s).imp_left And.right

end StyleIsland

theorem Weighs.ofLed (h : LineLed "export" m) : Weighs m fun _ => 1 := by
  intro p a q way
  obtain ⟨-, indent, run, -, parts, -⟩ := h p a q way
  have word : weight "export".toList = 1 := by decide
  refine ⟨indent ++ ("export".toList ++ run), by simp only [parts, List.append_assoc], ?_⟩
  dsimp only
  rw [weight_append, weight_append, word]
  omega

namespace Entry

theorem weighs_exportDeclaration :
    Weighs exportDeclaration fun x => weight x.1.text + weight x.2.text + 1 := by
  rintro p ⟨indent, first⟩ q way
  obtain ⟨before, gap, w, -, parts, rfl, word, -⟩ := exportDeclaration_reads way
  have exported : weight "export".toList = 1 := by decide
  refine ⟨indent.text ++ ("export".toList ++ (gap ++ first.text)), ?_, ?_⟩
  · rw [parts, word]
    simp only [List.append_assoc]
  · dsimp only
    simp only [weight_append, exported]
    omega

theorem weighs_leftoverDefault : Weighs leftoverDefault fun x =>
    weight x.1.text + weight (x.2.elim [] Span.text) + 1 := by
  rintro p ⟨indent, declared⟩ q way
  obtain ⟨before, gap, gap', words, -, parts, rfl, found⟩ := leftoverDefault_reads way
  have exported : weight "export".toList = 1 := by decide
  have put : declared.elim [] Span.text = words := by
    rcases found with ⟨rfl, rfl⟩ | ⟨d, rfl, rfl, -⟩
    · rfl
    · rfl
  refine ⟨indent.text ++ ("export".toList ++ (gap ++ ("default".toList ++ (gap' ++ words)))), ?_, ?_⟩
  · rw [parts]
    simp only [List.append_assoc]
  · dsimp only
    rw [put]
    simp only [weight_append, exported]
    omega

theorem weight_neutralise (x : Span × Option Span) (run : List Char) :
    weight (neutralise x run) = weight x.1.text + weight (x.2.elim [] Span.text) := by
  obtain ⟨indent, _ | declared⟩ := x
  · have void : weight "void ".toList = 0 := by decide
    rw [neutralise, weight_append, void]
    rfl
  · exact weight_append _ _

structure Exportless (s : List Char) : Prop where
  lists : exportList.occurs s = false
  stars : exportStar.occurs s = false
  declarations : exportDeclaration.occurs s = false
  defaults : leftoverDefault.occurs s = false

theorem Exportless.stripExports (h : Exportless s) : stripExports s = s := by
  have list : exportList.erase s = s := (unread_of_occurs h.lists).rewrite _
  have star : exportStar.erase s = s := (unread_of_occurs h.stars).rewrite _
  unfold Entry.stripExports
  rw [list, star]
  dsimp only
  rw [(unread_of_occurs h.declarations).rewrite, (unread_of_occurs h.defaults).rewrite]

theorem lightening_stripExports : Lightening Exportless stripExports := by
  have list := (Weighs.ofLed exportList_led).lightening (f := fun _ _ => []) fun _ _ => Nat.zero_lt_one
  have star := (Weighs.ofLed exportStar_led).lightening (f := fun _ _ => []) fun _ _ => Nat.zero_lt_one
  have declaration := weighs_exportDeclaration.lightening
    (f := fun (x : Span × Span) _ => x.1.text ++ x.2.text) fun x _ => by
      rw [weight_append]
      exact Nat.lt_succ_self _
  have default := weighs_leftoverDefault.lightening (f := neutralise) fun x run => by
    rw [weight_neutralise]
    exact Nat.lt_succ_self _
  intro s
  refine (((list.comp star).comp declaration).comp default s).imp_left ?_
  exact fun ⟨⟨⟨⟨lists, stars⟩, declarations⟩, defaults⟩, same⟩ =>
    ⟨⟨lists, stars, declarations, defaults⟩, same⟩

end Entry

end PagePreview
