import PagePreview.Proofs.Markup.Summarized
import PagePreview.Proofs.Render.Evaluated

/-!
# What was rendered is summarized

Trees of divisions as typed markup, rendered and read again: the summary of what is rendered is the
summary of the tree.
-/

namespace PagePreview

namespace JsxTree
open Text Matcher JsxText

theorem first?_entity {c : Char} (escaped : entity c ≠ [c]) (b : Option Char) (s : List Char) :
    ∃ ref, charRef.first? ⟨b, entity c ++ s⟩ = some (ref, ⟨some ';', s⟩) ∧ ref.char? = some c := by
  have word (name : List Char) : (JsxText.CharRef.word ⟨name ++ ';' :: s, ';' :: s⟩).char? =
      named.lookup (String.ofList name) := by
    rw [CharRef.char?, Span.text_append]
  revert escaped
  unfold entity
  split <;> intro escaped
  · exact ⟨_, rfl, word ['a', 'm', 'p']⟩
  · exact ⟨_, rfl, word ['l', 't']⟩
  · exact ⟨_, rfl, word ['g', 't']⟩
  · exact ⟨_, rfl, word ['q', 'u', 'o', 't']⟩
  · refine ⟨.hexadecimal ⟨['2', '7'] ++ ';' :: s, ';' :: s⟩, rfl, ?_⟩
    rw [CharRef.char?, Span.text_append]
    rfl
  · exact absurd rfl escaped

theorem first?_of_entity_eq {c : Char} (plain : entity c = [c]) (b : Option Char) (s : List Char) :
    charRef.first? ⟨b, c :: s⟩ = none := by
  refine first?_eq_none fun ref q way => ?_
  obtain ⟨_, r, start, -⟩ := mem_bind.mp way
  obtain ⟨rest, ahead, -⟩ := mem_text.mp start
  have first : c = '&' := (List.cons.inj ahead).1
  subst first
  cases plain

theorem decode_escaped (s : List Char) : decode (s.flatMap entity) = s := by
  unfold decode rewrite pieces
  generalize none = b
  induction s generalizing b with
  | nil => rfl
  | cons c s ih =>
    rw [List.flatMap_cons]
    by_cases plain : entity c = [c]
    · have unread := first?_of_entity_eq plain b (s.flatMap entity)
      simp only [plain, List.singleton_append, piecesFrom, unread, List.flatMap_cons, ih]
      rfl
    · obtain ⟨ref, found, value⟩ := first?_entity plain b (s.flatMap entity)
      have hit := piecesFrom_hit (q := ⟨some ';', s.flatMap entity⟩) (Markup.CharRef.entity_ne_nil c) found
      rw [hit, List.flatMap_cons, ih, Piece.write, value]
      rfl

end JsxTree

namespace Script.Str

theorem concat_plain (texts : List String) :
    concat (texts.map .plain) = .plain (String.ofList (texts.flatMap (·.toList))) := by
  refine (isProper_concat _).ext (isProper_plain _) (Array.toList_inj.mp ?_)
  rw [toUnits_concat, toUnits_toList]
  simp [toUnits_toList, spelling, List.flatMap_map, List.flatMap_assoc]

theorem concat_cons_plain {text rest : List Char} {parts : List Str}
    (within : concat parts = .plain (String.ofList rest)) :
    concat (.plain (String.ofList text) :: parts) = .plain (String.ofList (text ++ rest)) := by
  have flat := concat_flatten [.plain (String.ofList text)] parts []
  have both := concat_plain [String.ofList text, String.ofList rest]
  rw [within, List.append_nil, List.singleton_append, List.singleton_append] at flat
  rw [← flat]
  simpa using both

end Script.Str

namespace Divs
open Script JsxTree

def typedMark (m : Mark × String) : JsxTree.Attribute where
  name := .plain m.1.name
  value := some (String.ofList (escapedChars m.2))
  small := by cases m.1 <;> decide
  free := by cases m.1 <;> decide

def typedMarks (marks : Marks) : Attributes where
  list := marks.list.map typedMark
  distinct := by
    rw [List.map_map]
    exact marks.names_nodup

def divName : JsxTree.Tag := ⟨.plain "div", by decide, by decide⟩

def typed : Divs → List Child
  | nil => []
  | text s rest => .braces (.text (.plain s) s) :: rest.typed
  | div marks inner rest => .tree (.element divName (typedMarks marks) inner.typed false) :: rest.typed

/-- A division with all that is in it, as it is typed. -/
def page (marks : Marks) (inner : Divs) : Tree := .element divName (typedMarks marks) inner.typed false

theorem markup_typedMark (m : Mark × String) :
    (typedMark m).markup = .plain (String.ofList (markChars m)) := by
  have shown : (typedMark m).shown = .plain (String.ofList (escapedChars m.2)) := by
    change escaped (.plain (String.ofList (JsxText.decode (String.ofList (escapedChars m.2)).toList))) = _
    rw [String.toList_ofList, escapedChars, decode_escaped, String.ofList_toList]
    rfl
  have parts := Str.concat_plain [" ", m.1.name, "=\"", String.ofList (escapedChars m.2), "\""]
  have chars : [" ", m.1.name, "=\"", String.ofList (escapedChars m.2), "\""].flatMap (·.toList) = markChars m := by
    simp [markChars]
  rw [chars] at parts
  rw [JsxTree.Attribute.markup, shown]
  exact parts

theorem markup_page {marks : Marks} {inner : Divs} {text : List Char}
    (within : Str.concat (childMarkups inner.typed) = .plain (String.ofList text)) :
    (page marks inner).markup = .plain (String.ofList (startChars marks.list ++ text ++ endChars)) := by
  have marked : (typedMarks marks).list.map JsxTree.Attribute.markup =
      (marks.list.map fun m => String.ofList (markChars m)).map .plain := by
    rw [typedMarks, List.map_map, List.map_map]
    exact List.map_congr_left fun m _ => markup_typedMark m
  let texts := ["<", "div"] ++ (marks.list.map fun m => String.ofList (markChars m)) ++
    [">", String.ofList text, "</", "div", ">"]
  have parts : (page marks inner).markup = Str.concat (texts.map .plain) := by
    rw [page, Tree.markup, elementText, marked, within]
    simp only [texts, List.map_append]
    rfl
  have chars : texts.flatMap (·.toList) = startChars marks.list ++ text ++ endChars := by
    simp [texts, startChars, endChars, List.flatMap_map]
  rw [parts, Str.concat_plain, chars]

theorem markup_typed (f : Divs) : Str.concat (childMarkups f.typed) = .plain (String.ofList f.chars) := by
  induction f with
  | nil => exact Str.concat_plain []
  | text s rest ih => exact Str.concat_cons_plain ih
  | div marks inner rest ihi ihr =>
    have here : (Child.tree (page marks inner)).markup = _ := markup_page ihi
    have shape : childMarkups (div marks inner rest).typed =
      (Child.tree (page marks inner)).markup :: childMarkups rest.typed := rfl
    rw [shape, here, Str.concat_cons_plain ihr, chars]

end Divs

namespace JsxTree
open Script Machine Render

/-- A division and all that is in it, rendered, has the summary that is meant to be read back: the
number of its elements, their marks in document order, and its stretches of text. Only a limit of the
machine can be in the way, and only where there is not the room that the tree takes. -/
theorem rendered_summary {marks : Divs.Marks} {inner : Divs} (held : (Divs.div marks inner .nil).AreHeld) {depth : Nat}
    (deep : (Divs.page marks inner).depth ≤ depth) (count : Nat) {s : State} {c : Context} (ready : Ready s)
    (holds : HoldsHandle s c) (fuel : Nat) :
    let run := rendered c ((ElementCall.expr depth (Divs.page marks inner).expr).run count).1 (engine builtins fuel) s
    (∃ markup s', run = .ok (.string (.plain markup)) s' ∧
        MarkupSummary.ofMarkup markup = (Divs.div marks inner .nil).summary) ∨
      ∃ message s', run = .error (.limit message) s' ∧ ¬Room ((Divs.page marks inner).room + 5) fuel s := by
  intro run
  obtain ⟨count', lowered⟩ := (Divs.page marks inner).lowers deep count
  have same : run = rendered c (Divs.page marks inner).lowered (engine builtins fuel) s := by
    change rendered c ((ElementCall.expr depth (Divs.page marks inner).expr).run count).1 (engine builtins fuel) s = _
    rw [lowered]
  have markup : (Divs.page marks inner).markup = .plain (String.ofList (Divs.div marks inner .nil).chars) := by
    rw [Divs.markup_page (Divs.markup_typed inner), Divs.chars, Divs.chars, List.append_nil]
  rw [same]
  obtain ⟨_, s', ended, -, rfl⟩ | limited := (gives_rendered (Divs.page marks inner) ready holds).ends fuel
  · rw [markup] at ended
    exact .inl ⟨_, s', ended, MarkupSummary.ofMarkup_chars held⟩
  · exact .inr limited

/-- A stand-in with two texts side by side, one like a reference and one like a tag, and an icon. -/
theorem rendered_summary_standIn :
    ∃ markup s', rendered ⟨1, 0, true⟩ ((ElementCall.expr 2 (Divs.page ⟨[(.stub, "A\"")], by decide⟩
          (.text " &lt;" (.text "<b> " (.div ⟨[(.icon, "x")], by decide⟩ (.text "c" .nil) .nil)))).expr).run 0).1
        (engine builtins 200) (withHandle (State.initial { loops := 100, calls := 200 })) =
        .ok (.string (.plain markup)) s' ∧
      MarkupSummary.ofMarkup markup =
        { text := "&lt;<b> c", elementCount := 2, stubMarkers := ["A\""], iconMarkers := ["x"] } := by
  let inner : Divs := .text " &lt;" (.text "<b> " (.div ⟨[(.icon, "x")], by decide⟩ (.text "c" .nil) .nil))
  have held : (Divs.div ⟨[(.stub, "A\"")], by decide⟩ inner .nil).AreHeld := by
    simp only [inner, Divs.AreHeld]
    decide
  have room : Room ((Divs.page ⟨[(.stub, "A\"")], by decide⟩ inner).room + 5) 200
      (withHandle (State.initial { loops := 100, calls := 200 })) := ⟨by decide, by decide, by decide⟩
  have summary : (Divs.div ⟨[(.stub, "A\"")], by decide⟩ inner .nil).summary =
      { text := "&lt;<b> c", elementCount := 2, stubMarkers := ["A\""], iconMarkers := ["x"] } := by
    decide +kernel
  obtain ⟨markup, s', run, read⟩ | ⟨_, _, _, small⟩ := rendered_summary held (Nat.le_refl 2) 0
    (ready_withHandle (ready_initial { loops := 100, calls := 200 })) (holdsHandle_withHandle _ 0 true) 200
  · exact ⟨markup, s', run, summary ▸ read⟩
  · exact absurd room small

end JsxTree
end PagePreview
