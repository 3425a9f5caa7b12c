import PagePreview.Proofs.RenderedSummary
import PagePreview.View

/-!
# Escaped texts

A text is escaped in two places, in the shell of the preview and in the markup of a page. Both write
the same: a reference for each character that markup is made of. Nothing else in an escaped text is a
mark, so decoding its references gives the text back, whatever the text looks like itself.
-/

namespace PagePreview
open Text JsxTree

variable {c : Char} {s : List Char}

def references : List String := ["&amp;", "&lt;", "&gt;", "&quot;", "&#x27;"]

def isMark (c : Char) : Bool := c == '<' || c == '>' || c == '"' || c == '\''

def Markless (s : List Char) : Prop := ∀ c ∈ s, isMark c = false

theorem escapeChar_eq : escapeChar = entity := by
  funext c
  unfold escapeChar
  split <;> try rfl
  · unfold entity
    split <;> first | rfl | contradiction

theorem toList_escaped (t : String) : (escaped t).toList = t.toList.flatMap entity := by
  rw [escaped, escapeMarkup, escapeChar_eq, String.toList_ofList]

theorem entity_written (c : Char) :
    (entity c = [c] ∧ c ≠ '&' ∧ isMark c = false) ∨ String.ofList (entity c) ∈ references := by
  unfold entity
  split
  · exact .inr (by decide)
  · exact .inr (by decide)
  · exact .inr (by decide)
  · exact .inr (by decide)
  · exact .inr (by decide)
  · left
    simp_all [isMark]

theorem markless_of_any (none : s.any isMark = false) : Markless s := fun c hc => by
  simpa using List.any_eq_false.mp none c hc

theorem reference_letters {r : String} (h : r ∈ references) :
    Markless r.toList ∧ ∃ rest, r.toList = '&' :: rest ∧ '&' ∉ rest := by
  have table : ∀ r ∈ references,
      Markless r.toList ∧ ∃ rest, r.toList = '&' :: rest ∧ '&' ∉ rest := by
    simp only [references, List.forall_mem_cons, List.not_mem_nil, false_imp_iff, implies_true,
      and_true]
    refine ⟨?_, ?_, ?_, ?_, ?_⟩ <;>
      exact ⟨markless_of_any rfl, _, rfl, by decide⟩
  exact table r h

theorem markless_entity (c : Char) : Markless (entity c) := by
  rcases entity_written c with ⟨plain, -, other⟩ | reference
  · rw [plain]
    exact fun d hd => List.mem_singleton.mp hd ▸ other
  · have letters := (reference_letters reference).1
    rwa [String.toList_ofList] at letters

theorem markless_escaped (t : String) : Markless (escaped t).toList := by
  rw [toList_escaped]
  intro c hc
  obtain ⟨d, -, hd⟩ := List.mem_flatMap.mp hc
  exact markless_entity d c hd

theorem ampersand_begins (s : List Char) : ∀ {before after : List Char},
    s.flatMap entity = before ++ '&' :: after → ∃ r ∈ references, r.toList <+: '&' :: after := by
  induction s with
  | nil =>
    intro before after parts
    simp at parts
  | cons c s ih =>
    intro before after parts
    rw [List.flatMap_cons] at parts
    rcases List.append_eq_append_iff.mp parts with ⟨front, -, rest⟩ | ⟨front, here, rest⟩
    · exact ih rest
    · cases front with
      | nil => exact @ih [] _ rest.symm
      | cons d front =>
        obtain ⟨rfl, rfl⟩ := List.cons.inj rest
        -- the ampersand is one of those that stand for `c`
        rcases entity_written c with ⟨plain, other, -⟩ | reference
        · rw [plain] at here
          have member : '&' ∈ [c] := by rw [here]; simp
          exact absurd (List.mem_singleton.mp member).symm other
        · obtain ⟨-, letters, written, free⟩ := reference_letters reference
          rw [String.toList_ofList, here] at written
          cases before with
          | nil =>
            refine ⟨_, reference, ?_⟩
            rw [String.toList_ofList, here]
            exact ⟨_, rfl⟩
          | cons e before =>
            obtain ⟨-, rfl⟩ := List.cons.inj written
            exact absurd (by simp) free

/-- Both ways to escape a text write the same. It holds no mark, and an ampersand only where one of
the references begins; decoding gives the text back, so no two texts are escaped alike. -/
theorem escaped_read_back :
    (∀ t : String,
      Render.escape (.plain t) = .plain (escaped t) ∧
      Markless (escaped t).toList ∧
      (∀ before after, (escaped t).toList = before ++ '&' :: after →
        ∃ r ∈ references, r.toList <+: '&' :: after) ∧
      JsxText.decode (escaped t).toList = t.toList) ∧
    Function.Injective escaped := by
  have decoded : ∀ t : String, JsxText.decode (escaped t).toList = t.toList := fun t => by
    rw [toList_escaped, decode_escaped]
  refine ⟨fun t => ⟨?_, markless_escaped t, fun before after parts => ?_, decoded t⟩,
    fun t u same => ?_⟩
  · rw [escape_eq, escaped, escapeMarkup, escapeChar_eq]
    rfl
  · rw [toList_escaped] at parts
    exact ampersand_begins _ parts
  · have both := decoded t
    rw [same, decoded u] at both
    exact String.toList_inj.mp both.symm

end PagePreview
