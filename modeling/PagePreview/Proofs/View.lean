import PagePreview.Proofs.Escaping

/-!
# The shell of a preview and the texts in it

Errors, warnings and sources are chosen by whoever wrote a page. They stand in the shell of the
preview between tags, and no character of theirs is markup, so two pages that show the same parts
have the same shell: the same tags, with the same attributes, in the same order.
-/

namespace PagePreview.View
open Text

variable {a b c d : List Char} {s s' : PageState}

/-- The characters of a markup that tags are made of, in order. -/
def marks (markup : String) : List Char := markup.toList.filter isMark

/-- The same characters, but for texts between a tag and the next. -/
inductive Alike : List Char → List Char → Prop
  | nil : Alike [] []
  | cons (e : Char) {a b : List Char} : Alike a b → Alike (e :: a) (e :: b)
  | text {x y a b : List Char} : Markless x → Markless y → Alike a b →
    Alike ('>' :: (x ++ '<' :: a)) ('>' :: (y ++ '<' :: b))

/-- Two pages that show the same parts; the texts in them may differ. -/
structure SameParts (s s' : PageState) : Prop where
  status : s.status = s'.status
  unit : s.resolvedUnit = s'.resolvedUnit
  error : s.runtimeError.isSome = s'.runtimeError.isSome
  warning : s.formatWarning.isSome = s'.formatWarning.isSome
  code : s.formattedText.isEmpty = s'.formattedText.isEmpty

theorem Alike.refl (a : List Char) : Alike a a := by
  induction a with
  | nil => exact .nil
  | cons e a ih => exact .cons e ih

theorem Alike.append (h : Alike a b) (h' : Alike c d) : Alike (a ++ c) (b ++ d) := by
  induction h with
  | nil => exact h'
  | cons e _ ih => exact .cons e ih
  | @text x y a b hx hy _ ih =>
    have whole := Alike.text hx hy ih
    simpa using whole

theorem filter_markless (h : Markless a) : a.filter isMark = [] := by
  rw [List.filter_eq_nil_iff]
  exact fun e he => by simp [h e he]

theorem Alike.marks (h : Alike a b) : a.filter isMark = b.filter isMark := by
  induction h with
  | nil => rfl
  | cons e _ ih => rw [List.filter_cons, List.filter_cons, ih]
  | @text x y a b hx hy _ ih =>
    have mark : ∀ z : List Char, Markless z → ∀ t, ('>' :: (z ++ '<' :: t)).filter isMark =
        '>' :: '<' :: t.filter isMark := by
      intro z hz t
      rw [List.filter_cons_of_pos (by decide), List.filter_append, filter_markless hz,
        List.nil_append, List.filter_cons_of_pos (by decide)]
    rw [mark x hx, mark y hy, ih]

theorem Alike.add {p q p' q' : String} (h : Alike p.toList q.toList)
    (h' : Alike p'.toList q'.toList) :
    Alike (p ++ p').toList (q ++ q').toList := by
  rw [String.toList_append, String.toList_append]
  exact h.append h'

theorem alike_tagged (tag classes : String) {p q : String} (h : Alike p.toList q.toList) :
    Alike (tagged tag classes p).toList (tagged tag classes q).toList := by
  simp only [tagged]
  exact (((((Alike.refl _).add h).add (.refl _)).add (.refl _)).add (.refl _))

theorem alike_escaped (tag classes t u : String) :
    Alike (tagged tag classes (escaped t)).toList (tagged tag classes (escaped u)).toList := by
  have whole : ∀ t, (tagged tag classes (escaped t)).toList =
      ("<" ++ tag ++ " class=\"" ++ classes ++ "\"").toList ++
        '>' :: ((escaped t).toList ++ '<' :: ("/" ++ tag ++ ">").toList) := by
    intro t
    simp [tagged]
  rw [whole t, whole u]
  exact (Alike.refl _).append (.text (markless_escaped t) (markless_escaped u) (.refl _))

theorem alike_textElement (tag classes : String) {t u : Option String} (same : t.isSome = u.isSome) :
    Alike (textElement tag classes t).toList (textElement tag classes u).toList := by
  cases t with
  | none =>
    cases u with
    | none => exact .refl _
    | some u => cases same
  | some t =>
    cases u with
    | none => cases same
    | some u => exact alike_escaped tag classes t u

namespace SameParts

theorem banner (h : SameParts s s') : Alike (banner s).toList (View.banner s').toList := by
  unfold View.banner
  rw [← h.status]
  split
  · exact .refl _
  · exact alike_tagged _ _ (((Alike.refl _).add (alike_textElement _ _ h.error)).add
      (alike_textElement _ _ h.warning))

theorem content (h : SameParts s s') : Alike (content s).toList (View.content s').toList := by
  unfold View.content
  rw [← h.status, ← h.unit]
  split
  · exact .refl _
  · exact alike_tagged _ _ ((Alike.refl _).add (alike_textElement _ _ h.error))
  · exact .refl _

theorem codePanel (h : SameParts s s') (shown : Bool) :
    Alike (codePanel s shown).toList (View.codePanel s' shown).toList := by
  unfold View.codePanel
  rw [← h.code]
  split
  · exact alike_tagged _ _ ((Alike.refl _).add (alike_escaped _ _ _ _))
  · exact .refl _

end SameParts

/-- Pages that show the same parts have the same shell, whatever their texts: the markup differs only
between tags, and the marks in it are the same. -/
theorem ofState_alike (shown : Bool) (h : SameParts s s') :
    Alike (ofState s shown).html.toList (ofState s' shown).html.toList ∧
      marks (ofState s shown).html = marks (ofState s' shown).html := by
  have alike : Alike (ofState s shown).html.toList (ofState s' shown).html.toList :=
    alike_tagged _ _ ((h.banner.add h.content).add (h.codePanel shown))
  exact ⟨alike, alike.marks⟩

/-- Texts that are full of markup leave the shell as it is around texts that have none. -/
theorem ofState_alike_hostile :
    let quiet : PageState := {
      status := .error, formattedText := "f();", formatWarning := some "slow",
      runtimeError := some "f is not defined" }
    let hostile : PageState := {
      status := .error, formattedText := "</pre></details><script>f();",
      formatWarning := some "\" onload='f()", runtimeError := some "</p><img src=x>" }
    SameParts quiet hostile ∧
      marks (ofState quiet true).html = marks (ofState hostile true).html := by
  intro quiet hostile
  have parts : SameParts quiet hostile := ⟨rfl, rfl, rfl, rfl, by decide⟩
  exact ⟨parts, (ofState_alike true parts).2⟩

end PagePreview.View
