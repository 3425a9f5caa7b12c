import PagePreview.Proofs.Markup.Standing
import PagePreview.Proofs.Text.Split
import PagePreview.Proofs.Text.Trim

/-!
# The summary of divisions

The tree that is built from the markup of divisions, and what is collected from it: each part of the
summary is the one that is meant to be read back.
-/

namespace PagePreview

namespace MarkupSummary
open Markup

def Tally.with (tally : Tally) (f : Divs) : Tally where
  texts := f.texts.reverse ++ tally.texts
  elements := tally.elements + f.count
  stubs := tally.stubs ++ f.values .stub
  icons := tally.icons ++ f.values .icon

theorem foldl_addAttribute (marks : List (Divs.Mark × String)) (tally : Tally) :
    (marks.map markAttribute).foldl Tally.addAttribute tally =
      { tally with
        stubs := tally.stubs ++ (marks.filter (·.1 = .stub)).map Prod.snd
        icons := tally.icons ++ (marks.filter (·.1 = .icon)).map Prod.snd } := by
  induction marks generalizing tally with
  | nil => simp
  | cons m marks ih =>
    obtain ⟨kind, value⟩ := m
    rw [List.map_cons, List.foldl_cons, ih]
    cases kind
    · have first : tally.addAttribute (markAttribute (.stub, value)) =
        { tally with stubs := tally.stubs ++ [value] } := rfl
      rw [first]
      simp
    · have first : tally.addAttribute (markAttribute (.icon, value)) =
        { tally with icons := tally.icons ++ [value] } := rfl
      rw [first]
      simp

theorem collect_stands {t : Tree} {floor : Nat} {ids : List Nat} {f : Divs} (h : Stands t floor ids f)
    (fuel : Nat) (rest : List Nat) (tally : Tally) :
    collect t (f.nodes + fuel) (ids ++ rest) tally = collect t fuel rest (tally.with f) := by
  induction h generalizing fuel rest tally with
  | nil =>
    rw [Divs.nodes, Nat.zero_add, List.nil_append]
    simp [Tally.with, Divs.texts, Divs.count, Divs.values]
  | text after there content more ih =>
    rename_i id ids s f
    have one : collect t (f.nodes + fuel + 1) (id :: (ids ++ rest)) tally =
        collect t (f.nodes + fuel) (ids ++ rest) { tally with texts := s :: tally.texts } := by
      rw [collect, content]
    have more_texts : ({ tally with texts := s :: tally.texts } : Tally).with f = tally.with (.text s f) := by
      simp [Tally.with, Divs.texts, Divs.count, Divs.values]
    rw [Divs.nodes, Nat.add_assoc, Nat.add_comm 1, List.cons_append, one, ih, more_texts]
  | div after there content within more ihi ihr =>
    rename_i id ids marks inner f
    let marked : Tally :=
      (marks.list.map markAttribute).foldl Tally.addAttribute { tally with elements := tally.elements + 1 }
    have one : collect t (inner.nodes + (f.nodes + fuel) + 1) (id :: (ids ++ rest)) tally =
        collect t (inner.nodes + (f.nodes + fuel)) ((t.node id).children ++ (ids ++ rest)) marked := by
      rw [collect, content]
      rfl
    have more_parts : (marked.with inner).with f = tally.with (.div marks inner f) := by
      simp [marked, foldl_addAttribute, Tally.with, Divs.texts, Divs.count, Divs.values, Nat.add_assoc]
    have count : (Divs.div marks inner f).nodes + fuel = inner.nodes + (f.nodes + fuel) + 1 := by
      rw [Divs.nodes]
      omega
    rw [count, List.cons_append, one, ihi, ihr, more_parts]

end MarkupSummary

namespace Markup.Build
open Lexer

theorem unifyBreaks_eq {s : List Char} (free : '\r' ∉ s) : JsxText.unifyBreaks s = s := by
  induction s using JsxText.unifyBreaks.induct with
  | case1 s ih => simp at free
  | case2 s _ ih => simp at free
  | case3 c s apart apart' ih =>
    rw [List.mem_cons, not_or] at free
    rw [JsxText.unifyBreaks, ih free.2]
    · exact apart
    · exact apart'
  | case4 => rfl

theorem return_notMem_escaped {s : String} (held : Divs.IsHeld s) : '\r' ∉ Divs.escapedChars s := by
  have own (c : Char) (mem : '\r' ∈ JsxTree.entity c) : '\r' = c := by
    revert mem
    unfold JsxTree.entity
    split <;> simp
  intro mem
  obtain ⟨c, there, mem⟩ := List.mem_flatMap.mp mem
  exact held.2 (own c mem ▸ there)

theorem return_notMem_start {marks : List (Divs.Mark × String)} (held : ∀ m ∈ marks, Divs.IsHeld m.2) :
    '\r' ∉ Divs.startChars marks := by
  have names (mark : Divs.Mark) : '\r' ∉ mark.name.toList := by cases mark <;> decide
  have one (m : Divs.Mark × String) (mem : m ∈ marks) : '\r' ∉ Divs.markChars m := by
    simp [Divs.markChars, names, return_notMem_escaped (held m mem)]
  simpa [Divs.startChars] using fun kind value mem => one (kind, value) mem

theorem return_notMem {f : Divs} (held : f.AreHeld) : '\r' ∉ f.chars := by
  induction f with
  | nil => exact List.not_mem_nil
  | text s rest ih => simp [Divs.chars, return_notMem_escaped held.1, ih held.2]
  | div marks inner rest ihi ihr =>
    simp [Divs.chars, Divs.endChars, return_notMem_start held.1, ihi held.2.1, ihr held.2.2]

theorem tree_chars {marks : Divs.Marks} {inner rest : Divs} (held : (Divs.div marks inner rest).AreHeld) :
    let f := Divs.div marks inner rest
    ∃ ids, Stands (tree f.chars) 3 ids (f.joined "") ∧ Becomes blank 3 [] (tree f.chars) ids ∧
      (tree f.chars).nodes.size = 4 + (f.joined "").nodes := by
  intro f
  have pending : Pending blank 3 "" [] := .none rfl
  have empty : (blank.node 3).children = [] ++ [] := rfl
  obtain ⟨t, ids, ⟨rounds, few, reads⟩, stands, becomes, size⟩ := areRead f held areOpen_blank pending empty
  obtain ⟨last, ok, reads⟩ := reads [] "" true
  have open_t : AreOpen t [3, 1] := becomes.areOpen areOpen_blank fun _ _ => List.not_mem_nil
  have text_read : ofText f.chars = ⟨f.chars, .data, ""⟩ := by
    have unified : ofText f.chars = ⟨JsxText.unifyBreaks f.chars, .data, ""⟩ := rfl
    rw [unified, unifyBreaks_eq (return_notMem held)]
  have chars : f.chars = Divs.startChars marks.list ++ (inner.chars ++ Divs.endChars ++ rest.chars) := by
    simp [f, Divs.chars]
  obtain ⟨left, count⟩ : ∃ left, f.chars.length + 2 = rounds + (left + 1) := ⟨f.chars.length + 1 - rounds, by omega⟩
  have built : tree f.chars = t := calc tree f.chars
    _ = (run (f.chars.length + 2) { lexer := ⟨f.chars, .data, ""⟩ }).2.tree := by rw [← text_read]; rfl
    _ = (run (f.chars.length + 2) (inside blank [3, 1] f.chars "" true)).2.tree := by
      rw [chars, run_first marks _ held.1]
    _ = (run (left + 1) (inside t [3, 1] [] last ok)).2.tree := by
      rw [count, ← reads, List.append_nil]
    _ = t := by
      rw [run_nil open_t]
      rfl
  rw [built]
  exact ⟨ids, stands, becomes, size⟩

end Markup.Build

namespace MarkupSummary
open Text Markup

theorem collect_page {t : Tree} {ids : List Nat} (page : Becomes Build.blank 3 [] t ids) (fuel : Nat) (tally : Tally) :
    collect t (fuel + 4) [0] tally = collect t fuel ids tally := by
  have document : t.node 0 = ⟨.document, none, [1]⟩ := page.kept 0 (by decide) (by decide) List.not_mem_nil
  have html : t.node 1 = ⟨.element ⟨.html, "html"⟩ [], some 0, [2, 3]⟩ :=
    page.kept 1 (by decide) (by decide) List.not_mem_nil
  have head : t.node 2 = ⟨.element ⟨.html, "head"⟩ [], some 1, []⟩ :=
    page.kept 2 (by decide) (by decide) List.not_mem_nil
  have body : t.node 3 = ⟨.element ⟨.html, "body"⟩ [], some 1, ids⟩ := page.node [] rfl
  have bare (name : String) (mem : name ∈ ["html", "head", "body"]) (fuel id : Nat)
      (rest : List Nat) (content : (t.node id).content = .element ⟨.html, name⟩ []) :
      collect t (fuel + 1) (id :: rest) tally = collect t fuel ((t.node id).children ++ rest) tally := by
    simp only [List.mem_cons, List.not_mem_nil, or_false] at mem
    rcases mem with rfl | rfl | rfl <;> rw [collect, content] <;> rfl
  calc collect t (fuel + 4) [0] tally
    _ = collect t (fuel + 3) [1] tally := by rw [collect, document]; rfl
    _ = collect t (fuel + 2) [2, 3] tally := by rw [bare "html" (by decide) _ _ _ (by rw [html]), html]; rfl
    _ = collect t (fuel + 1) [3] tally := by rw [bare "head" (by decide) _ _ _ (by rw [head]), head]; rfl
    _ = collect t fuel ids tally := by
      rw [bare "body" (by decide) _ _ _ (by rw [body]), body, List.append_nil]

theorem spaced_eq (texts : List String) : spaced texts = Divs.collapsed (" ".intercalate texts) := by
  rw [spaced, Divs.collapsed, words_intercalate]

theorem ofMarkup_chars {marks : Divs.Marks} {inner rest : Divs} (held : (Divs.div marks inner rest).AreHeld) :
    ofMarkup (String.ofList (Divs.div marks inner rest).chars) = (Divs.div marks inner rest).summary := by
  have nonblank : (trim (Divs.div marks inner rest).chars).isEmpty = false := by
    have head : (Divs.div marks inner rest).chars = '<' :: (Divs.div marks inner rest).chars.tail := rfl
    rw [head, List.isEmpty_eq_false_iff]
    exact trim_ne_nil (by decide) _
  obtain ⟨ids, stands, page, size⟩ := Markup.Build.tree_chars held
  generalize Divs.div marks inner rest = f at *
  have collected : collect (Build.tree f.chars) ((Build.tree f.chars).nodes.size + 1) [0] {} =
      ({} : Tally).with (f.joined "") := by
    have fuel : (Build.tree f.chars).nodes.size + 1 = (f.joined "").nodes + 1 + 4 := by omega
    have within := collect_stands stands 1 [] {}
    rw [List.append_nil] at within
    rw [fuel, collect_page page, within]
    rfl
  have texts : (({} : Tally).with (f.joined "")).texts.reverse = f.runs := by
    simp [Tally.with, Divs.runs]
  rw [ofMarkup, String.toList_ofList, nonblank, if_neg (by decide), ofTree, collected]
  rw [texts, spaced_eq]
  simp [Tally.with, Divs.summary, Divs.count_joined, Divs.values_joined]

end MarkupSummary
end PagePreview
