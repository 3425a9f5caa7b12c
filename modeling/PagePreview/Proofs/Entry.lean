import PagePreview.Proofs.Passes

/-!
# Locating the entry

Whatever form an entry is found in, its body is the text before with at most one statement edited:
a default declaration loses its export, a default export of a name is cut, and an anonymous default
is bound to the fallback name. Only a fabricated entry changes the text elsewhere.
-/

namespace PagePreview
open Text Matcher Statement

theorem Text.Matcher.Cut.dropFirst? {α : Type} {m : Matcher α} {test : α → Bool} {b : Option Char}
    {s out : List Char} {ps : List (Piece α)} {a : α} (h : Cut m b s ps)
    (dropped : Entry.dropFirst? test ps = some (a, out)) :
    test a = true ∧ ∃ skipped run q, s = skipped ++ (run ++ q.ahead) ∧ out = skipped ++ q.ahead ∧
      m.first? ⟨lastOr b skipped, run ++ q.ahead⟩ = some (a, q) := by
  induction h generalizing out with
  | nil b => cases dropped
  | @kept b c s ps _ _ ih =>
    obtain ⟨⟨a', out'⟩, found, same⟩ := Option.map_eq_some_iff.mp dropped
    obtain ⟨rfl, rfl⟩ := Prod.mk.inj same
    obtain ⟨passes, skipped, run, q, rfl, rfl, first⟩ := ih found
    exact ⟨passes, c :: skipped, run, q, rfl, rfl, first⟩
  | @hit b run a' q ps _ found rest ih =>
    unfold Entry.dropFirst? at dropped
    split at dropped
    · rename_i passes
      obtain ⟨rfl, rfl⟩ := Prod.mk.inj (Option.some.inj dropped)
      exact ⟨passes, [], run, q, rfl, by rw [rest.write_self, List.nil_append], found⟩
    · obtain ⟨⟨a', out'⟩, found', same⟩ := Option.map_eq_some_iff.mp dropped
      obtain ⟨rfl, rfl⟩ := Prod.mk.inj same
      obtain ⟨passes, skipped, run', q', parts, rfl, first⟩ := ih found'
      refine ⟨passes, run ++ skipped, run', q', by rw [parts, List.append_assoc],
        (List.append_assoc _ _ _).symm, ?_⟩
      rw [lastOr_append]
      exact first

theorem noIndent : InlineBlank [] := fun _ member => absurd member List.not_mem_nil

theorem lineExportDefault_startsStatement : StartsStatement Entry.lineExportDefault :=
  (lineLed fun _ => exportDefault_beginsWith).startsStatement (.inr rfl)

def Declares (declared : Matcher Span) : Prop :=
  ∀ p name q, (name, q) ∈ declared p → ∃ w ∈ putWords, ∃ rest,
    p.ahead = w.toList ++ rest ∧ (w = "function" ∨ rest.head?.any isWord = false)

theorem dropExport_edited {declared : Matcher Span} (hd : Declares declared) {body : List Char}
    {found : List Char × Span}
    (h : Entry.dropExport? (Entry.exportedDeclaration declared) body = some found) :
    Edited (fun _ => False) none body found.1 := by
  obtain ⟨f, search, rfl⟩ := Option.map_eq_some_iff.mp h
  obtain ⟨t, rfl, member⟩ := mem_of_search? search
  obtain ⟨_, p, way, tail⟩ := mem_bind.mp member
  obtain ⟨⟨name, q⟩, hname, same⟩ := List.mem_map.mp tail
  obtain ⟨start, opening, run, nonempty, parts⟩ := lineExportDefault_startsStatement _ _ p way
  obtain ⟨w, hw, rest, ahead, ends⟩ := hd p name q hname
  have value : f.value.1.start = p.ahead := by
    rw [← (Prod.mk.inj same).1]
  obtain rfl : t = run ++ p.ahead := parts
  dsimp only at opening
  rw [ahead, ← List.append_assoc] at opening
  rw [value, ahead, ← List.append_assoc run]
  obtain ⟨some, unbroken⟩ := unbroken_putWords hw
  refine Edited.keeps _ (fun _ _ _ _ => id) (.put start opening some unbroken ?_ (.refl _ _))
  rcases ends with rfl | ends
  · exact editedLine_of_function noIndent rest
  · exact editedLine_of_word noIndent hw ends

theorem defaultFunction_edited {body : List Char} {found : List Char × Span}
    (h : Entry.dropExport? Entry.defaultFunction body = some found) :
    Edited (fun _ => False) none body found.1 := by
  refine dropExport_edited ?_ h
  rintro p name q way
  obtain ⟨_, p₁, h₁, tail₁⟩ := mem_bind.mp way
  obtain ⟨_, p₂, h₂, -⟩ := mem_bind.mp tail₁
  obtain ⟨s, parts, -⟩ := mem_text.mp h₂
  rcases mem_opt.mp h₁ with ⟨_, async, -⟩ | ⟨-, rfl⟩
  · obtain ⟨_, p₃, h₃, tail₃⟩ := mem_bind.mp async
    obtain ⟨s₃, parts₃, rfl⟩ := mem_text.mp h₃
    obtain ⟨_, p₄, h₄, -⟩ := mem_bind.mp tail₃
    obtain ⟨run, s₄, rfl, some, blank, -, -⟩ := mem_least1.mp (mem_most1.mp h₄)
    exact ⟨"async", by decide, run ++ s₄, parts₃, .inr (head?_of_blanks some blank)⟩
  · exact ⟨"function", by decide, s, parts, .inl rfl⟩

theorem defaultClass_edited {body : List Char} {found : List Char × Span}
    (h : Entry.dropExport? Entry.defaultClass body = some found) :
    Edited (fun _ => False) none body found.1 := by
  refine dropExport_edited ?_ h
  rintro p name q way
  obtain ⟨_, p₁, h₁, tail₁⟩ := mem_bind.mp way
  obtain ⟨s₁, parts₁, rfl⟩ := mem_text.mp h₁
  obtain ⟨_, p₂, h₂, -⟩ := mem_bind.mp tail₁
  obtain ⟨run, s₂, rfl, some, blank, -, -⟩ := mem_least1.mp (mem_most1.mp h₂)
  exact ⟨"class", by decide, run ++ s₂, parts₁, .inr (head?_of_blanks some blank)⟩

theorem defaultIdentifier_startsStatement : StartsStatement Entry.defaultIdentifier :=
  lineExportDefault_startsStatement.bind fun _ => advances_declaredName.bind fun _ =>
    (advances_most _).bind fun _ => (advances_char _).opt.bind fun _ =>
      (advances_most _).bind fun _ => (advances_here _).bind fun _ => advances_pure _

theorem defaultIdentifier_edited {body rest : List Char} {name : Span}
    (h : Entry.dropFirst? Entry.isBindingName (Entry.defaultIdentifier.pieces body) =
      some (name, rest)) :
    Edited (fun _ => False) none body rest := by
  have ends : EndsLine Entry.defaultIdentifier :=
    EndsLine.bind fun _ => EndsLine.bind fun _ => EndsLine.bind fun _ => EndsLine.bind fun _ =>
      EndsLine.bind fun _ => endsLine_pure _
  obtain ⟨-, skipped, run, q, rfl, rfl, found⟩ := (cut_pieces defaultIdentifier_startsStatement.consumes body).dropFirst? h
  have way := mem_of_first? found
  obtain ⟨start, opening, -⟩ := defaultIdentifier_startsStatement _ name q way
  exact Edited.keeps _ (fun _ _ _ _ => id) (.cut start opening (ends _ name q way) (.refl _ _))

theorem anonymousDefault_edited {fallback : String} (plain : isPlainName fallback.toList = true)
    {body : List Char} {entry : Entry} (h : Entry.bindAnonymous? fallback body = some entry) :
    Edited (fun _ => False) none body entry.body := by
  obtain ⟨f, search, rfl⟩ := Option.map_eq_some_iff.mp h
  obtain ⟨t, rfl, way⟩ := mem_of_search? search
  obtain ⟨start, opening, run, -, parts⟩ := lineExportDefault_startsStatement _ _ _ way
  obtain rfl : t = run ++ f.rest.ahead := parts
  have binding : ("const " ++ fallback ++ " = ").toList =
      "const".toList ++ (' ' :: (fallback.toList ++ " = ".toList)) := by
    simp
  have unbroken : Unbroken ("const " ++ fallback ++ " = ").toList := by
    rw [String.toList_append, String.toList_append]
    exact (Unbroken.append (unbroken_of_all (by decide)) (plainName_unbroken plain)).append
      (unbroken_of_all (by decide))
  simp only [List.append_assoc]
  refine Edited.keeps _ (fun _ _ _ _ => id) (.put start opening (by simp) unbroken ?_ (.refl _ _))
  rw [binding, List.append_assoc]
  exact editedLine_of_word (w := "const") noIndent (by decide) rfl

theorem locate_edited {fallback : String} (plain : isPlainName fallback.toList = true)
    (body : List Char) (found : (Entry.locate fallback body).form ≠ .fabricated) :
    Edited (fun _ => False) none body (Entry.locate fallback body).body := by
  unfold Entry.locate at found ⊢
  dsimp only at found ⊢
  generalize chosen : (Option.map _ _ <|> _ : Option Entry) = form at found ⊢
  cases form with
  | none => exact absurd rfl found
  | some entry =>
    rw [Option.getD_some]
    simp only [Option.orElse_eq_orElse, Option.orElse_eq_or, Option.or_eq_some_iff,
      Option.map_eq_some_iff] at chosen
    rcases chosen with ⟨x, h, rfl⟩ | ⟨-, ⟨⟨name, rest⟩, h, rfl⟩ | ⟨-, ⟨x, h, rfl⟩ | ⟨-, h |
      ⟨-, ⟨f, -, rfl⟩ | ⟨-, f, -, rfl⟩⟩⟩⟩⟩
    · exact defaultFunction_edited h
    · exact defaultIdentifier_edited h
    · exact defaultClass_edited h
    · exact anonymousDefault_edited plain h
    · exact .refl _ _
    · exact .refl _ _

end PagePreview
