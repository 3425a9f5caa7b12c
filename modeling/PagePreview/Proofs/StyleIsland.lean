import PagePreview.Proofs.Text.Seam
import PagePreview.StyleIsland

/-!
# Style islands in front of more text

An island and an opening tag end with `>`, so a text without that character is left as it is behind
any text, and what stands before it is normalized as if it stood alone.
-/

namespace PagePreview.StyleIsland
open Text Matcher

variable {tail : List Char}

theorem literalRuns_cons {quote c : Char} (hc : c ≠ '\\') (b : Option Char) (s : List Char) :
    literalRuns quote b (c :: s) =
      ⟨b, c :: s⟩ :: if c == quote then [] else literalRuns quote (some c) s := by
  rw [literalRuns]
  · intro same
    exact absurd same hc
  · intro _ _ same
    exact absurd same hc

theorem suffix_of_mem_literalRuns {quote : Char} {b : Option Char} {s : List Char} {q : Place}
    (h : q ∈ literalRuns quote b s) : q.ahead <:+ s := by
  induction b, s using literalRuns.induct with
  | case1 b =>
    obtain rfl := List.mem_singleton.mp h
    exact List.suffix_refl _
  | case2 b =>
    obtain rfl := List.mem_singleton.mp h
    exact List.suffix_refl _
  | case3 b c s ih =>
    rw [literalRuns, List.mem_cons] at h
    rcases h with rfl | h
    · exact List.suffix_refl _
    · exact (ih h).trans ⟨['\\', c], rfl⟩
  | case4 b c s alone followed ih =>
    have hc : c ≠ '\\' := by
      intro same
      cases s with
      | nil => exact alone same rfl
      | cons d s => exact followed d s same rfl
    rw [literalRuns_cons hc, List.mem_cons] at h
    rcases h with rfl | h
    · exact List.suffix_refl _
    · split at h
      · cases h
      · exact (ih h).trans (List.suffix_cons c s)

theorem sameEnds_literalRuns (quote : Char) (b : Option Char) (s : List Char) :
    SameEnds tail (literalRuns quote b s) (literalRuns quote b (s ++ tail)) := by
  induction b, s using literalRuns.induct with
  | case1 b =>
    refine .nil ?_ fun q hq => suffix_of_mem_literalRuns hq
    intro q hq
    obtain rfl := List.mem_singleton.mp hq
    rfl
  | case2 b =>
    cases tail with
    | nil => exact .cons b '\\' [] (.nil (by simp) (by simp))
    | cons c tail =>
      refine .cons b '\\' [] (.nil (by simp) fun q hq => ?_)
      exact (suffix_of_mem_literalRuns hq).trans (List.suffix_cons c tail)
  | case3 b c s ih =>
    rw [List.cons_append, List.cons_append, literalRuns, literalRuns]
    exact .cons b '\\' (c :: s) ih
  | case4 b c s alone followed ih =>
    have hc : c ≠ '\\' := by
      intro same
      cases s with
      | nil => exact alone same rfl
      | cons d s => exact followed d s same rfl
    rw [List.cons_append, literalRuns_cons hc, literalRuns_cons hc]
    refine .cons b c s ?_
    split
    · exact .nil (by simp) (by simp)
    · exact ih

theorem alike_literal (quote : Char) : Alike tail Span.text (literal quote) (literal quote) := by
  have payload : Alike tail Span.text
      (fun p => spans p (literalRuns quote p.behind p.ahead).reverse)
      (fun p => spans p (literalRuns quote p.behind p.ahead).reverse) := by
    have advances : Advances fun p => spans p (literalRuns quote p.behind p.ahead).reverse := by
      rintro p x q h
      obtain ⟨member, -⟩ := mem_spans.mp h
      obtain ⟨run, parts⟩ := suffix_of_mem_literalRuns (List.mem_reverse.mp member)
      exact ⟨run, parts.symm⟩
    exact ⟨advances, advances, fun b s => (sameEnds_literalRuns quote b s).reverse.spans b s⟩
  exact (alike_char _).bind fun _ _ _ => payload.bind fun _ _ same =>
    (alike_char _).bind fun _ _ _ => alike_pure same

theorem alike_flag (name : String) : Alike tail (fun _ => ()) (flag name) (flag name) := by
  have given : Alike tail (fun _ => ()) (opt (text "=\x7btrue\x7d")) (opt (text "=\x7btrue\x7d")) :=
    (alike_text _).opt
  exact (alike_text name).bind fun _ _ _ => given.bind fun _ _ _ => alike_pure rfl

theorem closed_island {payload : Matcher Span} (hp : Alike tail Span.text payload payload)
    (free : '>' ∉ tail) : Closed tail Span.text (island payload) (island payload) := by
  have global : Alike tail (fun _ => ()) (opt (do let _ ← blanks1; flag "global"))
      (opt (do let _ ← blanks1; flag "global")) :=
    Alike.opt ((alike_most1 isBlank).bind fun _ _ _ => alike_flag "global")
  exact (alike_text _).close fun _ _ _ => (alike_most1 _).close fun _ _ _ =>
    (alike_flag _).close fun _ _ _ => global.close fun _ _ _ => (alike_most _).close fun _ _ _ =>
      (alike_text _).close fun _ _ _ => (alike_most _).close fun _ _ _ =>
        (alike_text _).close fun _ _ _ => (alike_most _).close fun _ _ _ => hp.close fun _ _ same =>
          (alike_most _).close fun _ _ _ => (alike_text _).close fun _ _ _ =>
            (alike_most _).close fun _ _ _ => (alike_text _).close fun _ _ _ =>
              (alike_most _).close fun _ _ _ => (closed_text rfl free).return same

theorem closed_openTag (free : '>' ∉ tail) : Closed tail Span.text openTag openTag := by
  have atEdge : Alike tail (fun _ => ()) (edge isWord) (edge isWord) :=
    alike_here fun _ _ _ _ => rfl
  exact (alike_text _).close fun _ _ _ => atEdge.close fun _ _ _ => (alike_most _).close
    fun _ _ same => (closed_text rfl free).return same

theorem rewriteIslands_append {payload : Matcher Span} (hp : Alike tail Span.text payload payload)
    (free : '>' ∉ tail) (s : List Char) :
    rewriteIslands (island payload) (s ++ tail) = rewriteIslands (island payload) s ++ tail := by
  refine (closed_island hp free).rewrite_append (fun a a' whole same => ?_) s
  simp only [same]

theorem normalize_append (free : '>' ∉ tail) (s : List Char) :
    normalize (s ++ tail) = normalize s ++ tail := by
  have template : templateIsland = island (literal '\x60') := rfl
  have string : stringIsland = island (literal '"' <|> literal '\'') := rfl
  have tags : ∀ t, openTag.rewrite cleanTag (t ++ tail) = openTag.rewrite cleanTag t ++ tail := by
    refine (closed_openTag free).rewrite_append fun a a' whole same => ?_
    simp only [cleanTag, same]
  unfold normalize
  rw [template, string, rewriteIslands_append (alike_literal _) free,
    rewriteIslands_append ((alike_literal _).orElse (alike_literal _)) free, tags]

end PagePreview.StyleIsland
