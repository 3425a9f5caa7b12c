import PagePreview.Proofs.DefaultExport

/-!
# The entry of a default export

An entry is read off a default export exactly if some line begins with `export default` and a blank;
only without such a line do the guesses apply. The words of that line are told apart by blanks alone,
so a declaration with a comment between its words goes unread, and a value may be read as one.
-/

namespace PagePreview
open Text Matcher Statement

variable {b : Option Char} {before tail body name : List Char} {fallback : String}

namespace Entry

/-- An entry as it is read off `tail`, which a line behind `before` exports by default. -/
inductive Exposes (fallback : String) (before tail : List Char) : Entry → Prop
  | function {async between name : List Char} : FunctionHead Blank async between name tail →
    Exposes fallback before tail ⟨before ++ tail, String.ofList name, .defaultFunction⟩
  | identifier {name : List Char} : AloneOnLine name tail → String.ofList name ∉ nonBindingWords →
    Exposes fallback before tail ⟨before ++ afterLine tail, String.ofList name, .defaultIdentifier⟩
  | class {name : List Char} : ClassHead Blank name tail →
    Exposes fallback before tail ⟨before ++ tail, String.ofList name, .defaultClass⟩
  | value : Exposes fallback before tail
    ⟨before ++ ("const " ++ fallback ++ " = ").toList ++ tail, fallback, .anonymousDefault⟩

/-- The forms of an entry that no default export names. -/
def guesses : List EntryForm := [.constDeclaration, .functionDeclaration, .fabricated]

theorem isBindingName_iff {x : Span} :
    isBindingName x = true ↔ String.ofList x.text ∉ nonBindingWords := by
  simp [isBindingName]

theorem functionHead_of_first? {x : Span} {q : Place} (h : functionHead.first? ⟨b, tail⟩ = some (x, q)) :
    ∃ async between, FunctionHead Blank async between x.text tail :=
  functionHead_reads (mem_of_first? h)

theorem classHead_of_first? {x : Span} {q : Place} (h : classHead.first? ⟨b, tail⟩ = some (x, q)) :
    ClassHead Blank x.text tail := by
  obtain ⟨name, head⟩ := classHead_reads (mem_of_first? h)
  obtain ⟨x', q', found, rfl⟩ := first?_classHead (b := b) head
  obtain ⟨rfl, rfl⟩ := Prod.mk.inj (Option.some.inj (h.symm.trans found))
  exact head

theorem first?_behind {α : Type} {n : Matcher α} {x : α} {q : Place} {after : List Char}
    (solid : ∀ p, n p ≠ [] → p.ahead.head?.any isBlank = false)
    (found : (do lineExportDefault; n).first? ⟨lastOr none before, after⟩ = some (x, q)) :
    ∃ b tail, ExportsAt before tail (before ++ after) ∧ n.first? ⟨b, tail⟩ = some (x, q) := by
  obtain ⟨u, p, way, behind⟩ := mem_bind.mp (mem_of_first? found)
  obtain ⟨start, head, gap, rfl, hd, hg, some⟩ := lineExportDefault_reads way
  have stops := solid p (List.ne_nil_of_mem behind)
  rw [first?_default start hd hg some stops solid] at found
  exact ⟨_, p.ahead, ⟨head, gap, rfl, start, hd, hg, some, stops⟩, found⟩

theorem exposes_function {found : List Char × Span}
    (h : dropExport? defaultFunction body = some found) :
    ∃ before tail, ExportsAt before tail body ∧
      Exposes fallback before tail (ofDeclared .defaultFunction found) := by
  obtain ⟨f, search, rfl⟩ := Option.map_eq_some_iff.mp h
  obtain ⟨after, rfl, first⟩ := first?_of_search? search
  obtain ⟨b, tail, place, here⟩ := first?_behind (located_solid functionHead_solid) first
  rw [first?_located] at here
  obtain ⟨⟨x, q⟩, read, same⟩ := Option.map_eq_some_iff.mp here
  obtain ⟨async, between, head⟩ := functionHead_of_first? read
  refine ⟨f.skipped, tail, place, ?_⟩
  rw [← (Prod.mk.inj same).1]
  exact .function head

theorem exposes_class {found : List Char × Span} (h : dropExport? defaultClass body = some found) :
    ∃ before tail, ExportsAt before tail body ∧
      Exposes fallback before tail (ofDeclared .defaultClass found) := by
  obtain ⟨f, search, rfl⟩ := Option.map_eq_some_iff.mp h
  obtain ⟨after, rfl, first⟩ := first?_of_search? search
  obtain ⟨b, tail, place, here⟩ := first?_behind (located_solid classHead_solid) first
  rw [first?_located] at here
  obtain ⟨⟨x, q⟩, read, same⟩ := Option.map_eq_some_iff.mp here
  refine ⟨f.skipped, tail, place, ?_⟩
  rw [← (Prod.mk.inj same).1]
  exact .class (classHead_of_first? read)

theorem exposes_identifier {x : Span} {rest : List Char}
    (h : dropFirst? isBindingName (defaultIdentifier.pieces body) = some (x, rest)) :
    ∃ before tail, ExportsAt before tail body ∧
      Exposes fallback before tail (ofDeclared .defaultIdentifier (rest, x)) := by
  obtain ⟨binds, skipped, run, q, rfl, rfl, first⟩ :=
    (cut_pieces defaultIdentifier_startsStatement.consumes body).dropFirst? h
  obtain ⟨b, tail, place, here⟩ := first?_behind aloneOnLine_solid first
  obtain ⟨alone, ahead⟩ := aloneOnLine_reads_line (mem_of_first? here)
  refine ⟨skipped, tail, place, ?_⟩
  rw [ahead]
  exact .identifier alone (isBindingName_iff.mp binds)

theorem exposes_value {entry : Entry} (h : bindAnonymous? fallback body = some entry) :
    ∃ before tail, ExportsAt before tail body ∧ Exposes fallback before tail entry := by
  obtain ⟨f, search, rfl⟩ := Option.map_eq_some_iff.mp h
  obtain ⟨after, rfl, found⟩ := first?_of_search? search
  obtain ⟨start, head, gap, parts, hd, hg, some⟩ := lineExportDefault_reads (mem_of_first? found)
  have blanks : Blank (gap ++ f.rest.ahead.takeWhile isBlank) := by
    intro c hc
    rcases List.mem_append.mp hc with old | new
    · exact hg c old
    · exact List.all_eq_true.mp List.all_takeWhile c new
  have stops := head?_dropWhile isBlank f.rest.ahead
  have shape : after = head ++ ((gap ++ f.rest.ahead.takeWhile isBlank) ++ f.rest.ahead.dropWhile isBlank) := by
    rw [List.append_assoc, List.takeWhile_append_dropWhile]
    exact parts
  have nonempty : gap ++ f.rest.ahead.takeWhile isBlank ≠ [] := by simp [some]
  have first := first?_lineExportDefault start hd blanks nonempty stops
  rw [← shape, found] at first
  have rest : f.rest.ahead = f.rest.ahead.dropWhile isBlank :=
    congrArg Place.ahead (Prod.mk.inj (Option.some.inj first)).2
  refine ⟨f.skipped, f.rest.ahead, ⟨head, gap, by rw [parts], start, hd, hg, some, ?_⟩, .value⟩
  rw [rest]
  exact stops

theorem Exposes.form_not_mem {entry : Entry} (h : Exposes fallback before tail entry) :
    entry.form ∉ guesses := by
  cases h <;> simp [guesses]

theorem bindAnonymous?_ne_none (place : ExportsAt before tail body) :
    bindAnonymous? fallback body ≠ none := by
  obtain ⟨head, gap, rfl, start, hd, hg, some, -⟩ := place
  obtain ⟨u, way⟩ := lineExportDefault_reaches (s := tail) start hd hg some
  intro none
  have unread : lineExportDefault.occurs (before ++ (head ++ (gap ++ tail))) = false := by
    rw [occurs, Option.map_eq_none_iff.mp none]
    rfl
  exact unread_of_occurs unread _ _ rfl u _ way

/-- The entry of a body is read off one of its default exports, or else it is guessed. -/
theorem locate_cases (fallback : String) (body : List Char) :
    (∃ before tail, ExportsAt before tail body ∧
        Exposes fallback before tail (locate fallback body)) ∨
      (∀ before tail, ¬ExportsAt before tail body) ∧ (locate fallback body).form ∈ guesses := by
  unfold locate
  dsimp only
  generalize chosen : (Option.map _ _ <|> _ : Option Entry) = form
  cases form with
  | none =>
    simp only [Option.orElse_eq_orElse, Option.orElse_eq_or, Option.or_eq_none_iff] at chosen
    exact .inr ⟨fun before tail place => bindAnonymous?_ne_none place chosen.2.2.2.1, by simp [fabricate, guesses]⟩
  | some entry =>
    rw [Option.getD_some]
    simp only [Option.orElse_eq_orElse, Option.orElse_eq_or, Option.or_eq_some_iff,
      Option.map_eq_some_iff] at chosen
    rcases chosen with ⟨x, h, rfl⟩ | ⟨-, ⟨⟨name, rest⟩, h, rfl⟩ | ⟨-, ⟨x, h, rfl⟩ | ⟨-, h |
      ⟨none, ⟨f, -, rfl⟩ | ⟨-, f, -, rfl⟩⟩⟩⟩⟩
    · exact .inl (exposes_function h)
    · exact .inl (exposes_identifier h)
    · exact .inl (exposes_class h)
    · exact .inl (exposes_value h)
    · exact .inr ⟨fun before tail place => bindAnonymous?_ne_none place none, by simp [ofDeclared, guesses]⟩
    · exact .inr ⟨fun before tail place => bindAnonymous?_ne_none place none, by simp [ofDeclared, guesses]⟩

/-- Guesses apply exactly where no line begins with `export default` and a blank. Where one does, the
entry is read off such a line, and only the removal of exports follows. -/
theorem extract_guesses_iff (fallback : String) (body : List Char) :
    ((extract fallback body).form ∈ guesses ↔ ∀ before tail, ¬ExportsAt before tail body) ∧
      ((∃ before tail, ExportsAt before tail body) → ∃ before tail found,
        ExportsAt before tail body ∧ Exposes fallback before tail found ∧
          extract fallback body = { found with body := stripExports found.body }) := by
  rcases locate_cases fallback body with ⟨before, tail, place, exposes⟩ | ⟨none, guessed⟩
  · refine ⟨⟨fun guessed => absurd guessed exposes.form_not_mem, fun none => ?_⟩, fun _ => ?_⟩
    · exact absurd place (none before tail)
    · exact ⟨before, tail, _, place, exposes, rfl⟩
  · refine ⟨⟨fun _ => none, fun _ => guessed⟩, ?_⟩
    rintro ⟨before, tail, place⟩
    exact absurd place (none before tail)

/-- A list can export an entry by default, and another constant is taken for it. -/
theorem extract_guesses_listed :
    let entry := extract "WebsitePage"
      "const Other = () => null;\nfunction Page() \x7b return null; \x7d\nexport \x7b Page as default \x7d;\n".toList
    entry.form = .constDeclaration ∧ entry.name = "Other" ∧ entry.name ≠ "Page" := by
  decide +kernel

theorem first?_functionHead (head : ∃ async between, FunctionHead Blank async between name tail) :
    ∃ x q, functionHead.first? ⟨b, tail⟩ = some (x, q) ∧ x.text = name := by
  obtain ⟨async, between, head⟩ := head
  obtain ⟨q, way⟩ := functionHead_reaches (b := b) head
  obtain ⟨⟨x, r⟩, found⟩ := Option.isSome_iff_exists.mp way.first?
  obtain ⟨async', between', head'⟩ := functionHead_of_first? found
  exact ⟨x, r, found, (head'.eq head.trivia).2⟩

theorem first?_functionHead_eq_none (none : ∀ async between name,
    ¬FunctionHead Blank async between name tail) : functionHead.first? ⟨b, tail⟩ = Option.none :=
  first?_eq_none fun _ _ way => by
    obtain ⟨async, between, head⟩ := functionHead_reads way
    exact none async between _ head

theorem first?_classHead_eq_none (none : ∀ name, ¬ClassHead Blank name tail) :
    classHead.first? ⟨b, tail⟩ = Option.none :=
  first?_eq_none fun _ _ way => by
    obtain ⟨name, head⟩ := classHead_reads way
    exact none name head

theorem first?_aloneOnLine (alone : AloneOnLine name tail) :
    ∃ x q, aloneOnLine.first? ⟨b, tail⟩ = some (x, q) ∧ x.text = name ∧ q.ahead = afterLine tail := by
  obtain ⟨q, way⟩ := aloneOnLine_reaches (b := b) alone
  obtain ⟨⟨x, r⟩, found⟩ := Option.isSome_iff_exists.mp way.first?
  obtain ⟨alone', ahead⟩ := aloneOnLine_reads_line (mem_of_first? found)
  obtain ⟨rest, rfl, hn, hc⟩ := alone
  exact ⟨x, r, found, alone'.eq hn (closing_head? hc), ahead⟩

theorem filter_aloneOnLine_eq_none (none : ∀ name, AloneOnLine name tail →
    String.ofList name ∈ nonBindingWords) :
    ((aloneOnLine.first? ⟨b, tail⟩).filter fun (way : Span × Place) => isBindingName way.1) =
      Option.none := by
  cases found : aloneOnLine.first? ⟨b, tail⟩ with
  | none => rfl
  | some way =>
    have word := none _ (aloneOnLine_reads_line (mem_of_first? found)).1
    have other : ¬isBindingName way.1 = true := fun binds => isBindingName_iff.mp binds word
    rw [Option.filter, if_neg other]

section Sole

variable (place : ExportsAt before tail body) (sole : SoleDefault before body)

include place sole

theorem locate_function (head : ∃ async between, FunctionHead Blank async between name tail) :
    locate fallback body = ⟨before ++ tail, String.ofList name, .defaultFunction⟩ := by
  obtain ⟨b, located⟩ := locate_sole fallback place sole
  obtain ⟨x, q, found, rfl⟩ := first?_functionHead (b := b) head
  rw [located, found]
  rfl

theorem locate_identifier
    (function : ∀ async between name, ¬FunctionHead Blank async between name tail)
    (alone : AloneOnLine name tail) (binds : String.ofList name ∉ nonBindingWords) :
    locate fallback body = ⟨before ++ afterLine tail, String.ofList name, .defaultIdentifier⟩ := by
  obtain ⟨b, located⟩ := locate_sole fallback place sole
  obtain ⟨x, q, found, rfl, ahead⟩ := first?_aloneOnLine (b := b) alone
  rw [located, first?_functionHead_eq_none function, found, Option.filter,
    if_pos (isBindingName_iff.mpr binds), ← ahead]
  rfl

theorem locate_class
    (function : ∀ async between name, ¬FunctionHead Blank async between name tail)
    (identifier : ∀ name, AloneOnLine name tail → String.ofList name ∈ nonBindingWords)
    (head : ClassHead Blank name tail) :
    locate fallback body = ⟨before ++ tail, String.ofList name, .defaultClass⟩ := by
  obtain ⟨b, located⟩ := locate_sole fallback place sole
  obtain ⟨x, q, found, rfl⟩ := first?_classHead (b := b) head
  rw [located, first?_functionHead_eq_none function, filter_aloneOnLine_eq_none identifier, found]
  rfl

theorem locate_value
    (function : ∀ async between name, ¬FunctionHead Blank async between name tail)
    (identifier : ∀ name, AloneOnLine name tail → String.ofList name ∈ nonBindingWords)
    («class» : ∀ name, ¬ClassHead Blank name tail) :
    locate fallback body =
      ⟨before ++ ("const " ++ fallback ++ " = ").toList ++ tail, fallback, .anonymousDefault⟩ := by
  obtain ⟨b, located⟩ := locate_sole fallback place sole
  rw [located, first?_functionHead_eq_none function, filter_aloneOnLine_eq_none identifier,
    first?_classHead_eq_none «class»]
  rfl

end Sole

end Entry

end PagePreview
