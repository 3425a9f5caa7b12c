import PagePreview.Proofs.DefaultEntry
import PagePreview.Proofs.Sections

/-!
# The name of a default export

A default export that declares a function or a class has the name of that declaration, and any other
is bound to the fallback name. The entry has that name if the words of the declaration are told apart
by blanks. A value is taken for a declaration, or for a name, if it only begins as one does.
-/

namespace PagePreview
open Text Matcher Statement

variable {b : Option Char} {before tail body name declared post : List Char} {fallback : String}

/-- `tail` begins with the declaration of a function of this name. A comment may stand between any
two of its words, and the first of them may stand behind one. -/
def DeclaresFunction (name tail : List Char) : Prop :=
  ∃ lead async between rest, tail = lead ++ rest ∧ Trivia lead ∧
    FunctionHead Trivia async between name rest ∧ OneLine async ∧ between ≠ []

def heritageWords : List String := ["extends", "implements"]

/-- `tail` begins with the declaration of a class of this name. -/
def DeclaresClass (name tail : List Char) : Prop :=
  ∃ lead abstract rest, tail = lead ++ (abstract ++ rest) ∧ Trivia lead ∧
    (abstract = [] ∨ ∃ g, abstract = "abstract".toList ++ g ∧ Trivia g ∧ g ≠ [] ∧ OneLine g) ∧
    ClassHead Trivia name rest ∧ String.ofList name ∉ heritageWords

/-- The text that is exported by default is neither a name nor a declaration of one. -/
def Nameless (declared post : List Char) : Prop :=
  (∀ name, ¬DeclaresFunction name (declared ++ post) ∧ ¬DeclaresClass name (declared ++ post)) ∧
    ¬IsDeclaredName declared

/-- A text that only begins as a declaration of a name does, or as a name on its own. -/
def Misread (declared post : List Char) : Prop :=
  (∃ async between name, FunctionHead Blank async between name (declared ++ post) ∧
    (between = [] ∨ ¬OneLine async)) ∨
  (∃ name, ClassHead Blank name (declared ++ post) ∧ String.ofList name ∈ heritageWords) ∨
  ∃ name, AloneOnLine name (declared ++ post) ∧ name ≠ declared ∧
    String.ofList name ∉ Entry.nonBindingWords

theorem Trivia.eq_nil {lead s t : List Char} {c : Char} (h : Trivia lead)
    (same : lead ++ s = c :: t) (letter : isDeclaredRest c = true) : lead = [] := by
  cases lead with
  | nil => rfl
  | cons d lead =>
    obtain ⟨rfl, -⟩ := List.cons.inj same
    have stop := h.head? (s := []) rfl
    rw [List.append_nil, List.head?_cons, Option.any_some, letter] at stop
    cases stop

theorem FunctionHead.head {Gap : List Char → Prop} {async between s : List Char}
    (h : FunctionHead Gap async between name s) :
    ∃ c t, s = c :: t ∧ isDeclaredRest c = true ∧ c ≠ 'c' := by
  obtain ⟨gap, star, gap', gap'', c, rest, rfl, -, hasync, -⟩ := h
  rcases hasync with rfl | ⟨g, rfl, -⟩
  · exact ⟨'f', _, rfl, by decide, by decide⟩
  · exact ⟨'a', _, rfl, by decide, by decide⟩

theorem ClassHead.head {Gap : List Char → Prop} {s : List Char} (h : ClassHead Gap name s) :
    ∃ t, s = 'c' :: t := by
  obtain ⟨gap, rest, rfl, -⟩ := h
  exact ⟨_, rfl⟩

theorem AloneOnLine.head {s : List Char} (h : AloneOnLine name s) :
    ∃ c t, s = c :: t ∧ isDeclaredRest c = true := by
  obtain ⟨rest, rfl, hn, -⟩ := h
  have letters := hn.declared
  obtain ⟨c, more, rfl, -⟩ := hn
  exact ⟨c, _, rfl, letters c (by simp)⟩

theorem Trivia.stops {g : List Char} (h : Trivia g) (some : g ≠ []) (s : List Char) :
    (g ++ s).head?.any isDeclaredRest = false := by
  obtain ⟨c, g, rfl⟩ := List.exists_cons_of_ne_nil some
  have stop := h.head? (s := []) rfl
  rwa [List.append_nil] at stop

theorem isDeclaredName_word {word : String}
    (h : word ∈ ["function", "async", "class", "abstract"]) : IsDeclaredName word.toList := by
  have table : ["function", "async", "class", "abstract"].all
      (fun word => word.toList.head?.any isPlainStart && word.toList.all isDeclaredRest) = true := by
    decide
  obtain ⟨start, all⟩ := Bool.and_eq_true_iff.mp (List.all_eq_true.mp table word h)
  rw [List.all_eq_true] at all
  cases letters : word.toList with
  | nil =>
    rw [letters] at start
    cases start
  | cons c rest =>
    rw [letters] at start all
    exact ⟨c, rest, rfl, start, fun d hd => all d (by simp [hd])⟩

namespace DeclaresFunction

theorem bare {c : Char} {t : List Char} (h : DeclaresFunction name (c :: t))
    (letter : isDeclaredRest c = true) :
    ∃ async between, FunctionHead Trivia async between name (c :: t) ∧ OneLine async ∧
      between ≠ [] := by
  obtain ⟨lead, async, between, rest, parts, hl, head, line, some⟩ := h
  obtain rfl := hl.eq_nil parts.symm letter
  obtain rfl : c :: t = rest := parts
  exact ⟨async, between, head, line, some⟩

theorem eq {async between name' : List Char} (h : DeclaresFunction name tail)
    (head : FunctionHead Blank async between name' tail) : name' = name := by
  obtain ⟨c, t, rfl, letter, -⟩ := head.head
  obtain ⟨async', between', head', -⟩ := h.bare letter
  exact (head.eq head').2

theorem no_class {name' : List Char} (h : DeclaresFunction name tail) :
    ¬ClassHead Blank name' tail := by
  intro head
  obtain ⟨t, rfl⟩ := head.head
  obtain ⟨async, between, head', -⟩ := h.bare (by decide)
  obtain ⟨c, t', parts, -, other⟩ := head'.head
  exact other (List.cons.inj parts).1.symm

/-- The only name that can stand alone on the line is the first word of the declaration. -/
theorem alone {name' : List Char} (h : DeclaresFunction name tail) (alone : AloneOnLine name' tail) :
    String.ofList name' ∈ Entry.nonBindingWords := by
  obtain ⟨c, t, rfl, letter⟩ := alone.head
  obtain ⟨async, between, ⟨gap, star, gap', gap'', d, rest, parts, rfl, hasync, hg, hstar, hg', -⟩,
    -, some⟩ := h.bare letter
  have solid : isDeclaredRest '*' = false := by decide
  rw [parts] at alone
  rcases hasync with rfl | ⟨g, rfl, trivia, nonempty⟩
  · have stops : ((gap ++ (star ++ gap')) ++ (name ++ (gap'' ++ d :: rest))).head?.any
        isDeclaredRest = false := by
      cases gap with
      | cons e gap =>
        rw [List.append_assoc]
        exact hg.stops (by simp) _
      | nil =>
        rcases hstar with rfl | rfl
        · exact Trivia.stops (g := gap') hg' some _
        · exact solid
    rw [List.nil_append] at alone
    rw [alone.eq (isDeclaredName_word (by simp)) stops]
    decide
  · rw [List.append_assoc] at alone
    rw [alone.eq (isDeclaredName_word (by simp)) (trivia.stops nonempty _)]
    decide

end DeclaresFunction

namespace DeclaresClass

theorem bare {c : Char} {t : List Char} (h : DeclaresClass name (c :: t))
    (letter : isDeclaredRest c = true) :
    ∃ abstract rest, c :: t = abstract ++ rest ∧
      (abstract = [] ∨ ∃ g, abstract = "abstract".toList ++ g ∧ Trivia g ∧ g ≠ [] ∧ OneLine g) ∧
      ClassHead Trivia name rest := by
  obtain ⟨lead, abstract, rest, parts, hl, word, head, -⟩ := h
  obtain rfl := hl.eq_nil parts.symm letter
  exact ⟨abstract, rest, parts, word, head⟩

theorem eq {name' : List Char} (h : DeclaresClass name tail) (head : ClassHead Blank name' tail) :
    name' = name := by
  obtain ⟨t, rfl⟩ := head.head
  obtain ⟨abstract, rest, parts, rfl | ⟨g, rfl, -⟩, head'⟩ := h.bare (by decide)
  · obtain rfl : 'c' :: t = rest := parts
    exact head.eq head'
  · cases parts

theorem no_function {async between name' : List Char} (h : DeclaresClass name tail) :
    ¬FunctionHead Blank async between name' tail := by
  intro head
  obtain ⟨gap, star, gap', gap'', d, rest, parts, -, hasync, -⟩ := id head
  obtain ⟨c, t, rfl, letter, other⟩ := head.head
  obtain ⟨abstract, rest', parts', word, head'⟩ := h.bare letter
  obtain ⟨t', rfl⟩ := head'.head
  rcases word with rfl | ⟨g, rfl, -⟩
  · exact other (List.cons.inj parts').1
  · rw [parts'] at parts
    rcases hasync with rfl | ⟨g', rfl, -⟩
    · cases parts
    · cases parts

theorem alone {name' : List Char} (h : DeclaresClass name tail) (alone : AloneOnLine name' tail) :
    String.ofList name' ∈ Entry.nonBindingWords := by
  obtain ⟨c, t, rfl, letter⟩ := alone.head
  obtain ⟨abstract, rest, parts, word, ⟨gap, rest', rfl, hg, some, -⟩⟩ := h.bare letter
  rw [parts] at alone
  rcases word with rfl | ⟨g, rfl, trivia, nonempty, line⟩
  · rw [List.nil_append] at alone
    rw [alone.eq (isDeclaredName_word (by simp)) (hg.stops some _)]
    decide
  · -- the word `class` stands on the line of the word `abstract`, so that is not alone there
    obtain ⟨rest, same, hn, closing⟩ := alone
    have abstract : IsDeclaredName "abstract".toList := isDeclaredName_word (by simp)
    rw [List.append_assoc] at same
    obtain ⟨-, rfl⟩ := hn.eq abstract (closing_head? closing)
      (trivia.stops nonempty _) same.symm
    have unbroken : '\n' ∉ g := fun member => by simpa [isLineEnd] using line '\n' member
    rw [firstLine_append unbroken] at closing
    have filler := closing_filler closing 'c' (List.mem_append_right g List.mem_cons_self)
    exact absurd filler (by decide)

end DeclaresClass

namespace Entry

/-- The only default export is anonymous unless its text has one of the three shapes. -/
theorem locate_form_iff (place : ExportsAt before tail body) (sole : SoleDefault before body) :
    (locate fallback body).form = .anonymousDefault ↔
      (∀ async between name, ¬FunctionHead Blank async between name tail) ∧
      (∀ name, AloneOnLine name tail → String.ofList name ∈ nonBindingWords) ∧
      ∀ name, ¬ClassHead Blank name tail := by
  constructor
  · intro anonymous
    have function : ∀ async between name, ¬FunctionHead Blank async between name tail := by
      intro async between name head
      rw [locate_function place sole ⟨async, between, head⟩] at anonymous
      cases anonymous
    have identifier : ∀ name, AloneOnLine name tail → String.ofList name ∈ nonBindingWords := by
      intro name alone
      by_contra binds
      rw [locate_identifier place sole function alone binds] at anonymous
      cases anonymous
    refine ⟨function, identifier, fun name head => ?_⟩
    rw [locate_class place sole function identifier head] at anonymous
    cases anonymous
  · rintro ⟨function, identifier, «class»⟩
    rw [locate_value place sole function identifier «class»]

theorem locate_value_of_form (place : ExportsAt before tail body) (sole : SoleDefault before body)
    (anonymous : (locate fallback body).form = .anonymousDefault) :
    locate fallback body =
      ⟨before ++ ("const " ++ fallback ++ " = ").toList ++ tail, fallback, .anonymousDefault⟩ := by
  obtain ⟨function, identifier, «class»⟩ := (locate_form_iff place sole).mp anonymous
  exact locate_value place sole function identifier «class»

theorem function_name_iff (place : ExportsAt before tail body) (sole : SoleDefault before body)
    (declares : DeclaresFunction name tail) :
    (extract fallback body).name = String.ofList name ↔
      (∃ async between, FunctionHead Blank async between name tail) ∨
        String.ofList name = fallback := by
  change (locate fallback body).name = _ ↔ _
  by_cases head : ∃ async between, FunctionHead Blank async between name tail
  · simp [locate_function place sole head, head]
  · have anonymous : (locate fallback body).form = .anonymousDefault :=
      (locate_form_iff place sole).mpr ⟨fun async between name' read =>
        head ⟨async, between, declares.eq read ▸ read⟩, fun _ => declares.alone, fun _ => declares.no_class⟩
    simp [locate_value_of_form place sole anonymous, head, eq_comm]

theorem class_name_iff (place : ExportsAt before tail body) (sole : SoleDefault before body)
    (declares : DeclaresClass name tail) :
    (extract fallback body).name = String.ofList name ↔
      ClassHead Blank name tail ∨ String.ofList name = fallback := by
  change (locate fallback body).name = _ ↔ _
  have function : ∀ async between name', ¬FunctionHead Blank async between name' tail :=
    fun _ _ _ => declares.no_function
  have identifier : ∀ name', AloneOnLine name' tail → String.ofList name' ∈ nonBindingWords :=
    fun _ => declares.alone
  by_cases head : ClassHead Blank name tail
  · simp [locate_class place sole function identifier head, head]
  · have anonymous : (locate fallback body).form = .anonymousDefault :=
      (locate_form_iff place sole).mpr ⟨function, identifier, fun name' read =>
        head (declares.eq read ▸ read)⟩
    simp [locate_value_of_form place sole anonymous, head, eq_comm]

theorem nameless_form_iff (place : ExportsAt before (declared ++ post) body)
    (sole : SoleDefault before body) (nameless : Nameless declared post) :
    (extract fallback body).form = .anonymousDefault ↔ ¬Misread declared post := by
  change (locate fallback body).form = _ ↔ _
  rw [locate_form_iff place sole]
  obtain ⟨none, other⟩ := nameless
  constructor
  · rintro ⟨function, identifier, «class»⟩ (⟨async, between, name, head, -⟩ | ⟨name, head, -⟩ |
      ⟨name, alone, -, binds⟩)
    · exact function async between name head
    · exact «class» name head
    · exact binds (identifier name alone)
  · intro read
    refine ⟨fun async between name head => read (.inl ⟨async, between, name, head, ?_⟩),
      fun name alone => ?_, fun name head => read (.inr (.inl ⟨name, head, ?_⟩))⟩
    · by_contra far
      obtain ⟨apart, line⟩ := not_or.mp far
      exact (none name).1 ⟨[], async, between, _, rfl, .nil, head.trivia, not_not.mp line, apart⟩
    · by_contra binds
      refine read (.inr (.inr ⟨name, alone, ?_, binds⟩))
      rintro rfl
      obtain ⟨rest, -, hn, -⟩ := alone
      exact other hn
    · by_contra free
      exact (none name).2 ⟨[], [], _, rfl, .nil, .inl rfl, head.trivia, free⟩

/-- Sections in front of the default export and behind it are left as they are elsewhere. -/
theorem stripExports_bound (plain : isPlainName fallback.toList = true) (front rest : List Section)
    {line : List Char} (ends : line.getLast? = some '\n') (free : FreeInside line) :
    stripExports (front.flatMap Section.text ++ (("const " ++ fallback ++ " = ").toList ++
      (line ++ rest.flatMap Section.text))) =
    front.flatMap Section.left ++ (("const " ++ fallback ++ " = ").toList ++
      (line ++ rest.flatMap Section.left)) := by
  have words : '\n' ∉ ("const " ++ fallback ++ " = ").toList := by
    have unbroken : '\n' ∉ fallback.toList := (plainName_unbroken plain).noBreak
    simpa using unbroken
  have start : ("const " ++ fallback ++ " = ").toList ++ line =
      'c' :: ("onst ".toList ++ (fallback.toList ++ (" = ".toList ++ line))) := by simp
  have unled : ¬ExportLed (("const " ++ fallback ++ " = ").toList ++ line) := by
    rw [start]
    exact not_exportLed (by decide) (by decide)
  let bound : Code := {
    text := ("const " ++ fallback ++ " = ").toList ++ line
    ends := by rw [List.getLast?_append, ends]; rfl
    free := (free.prepend words).free unled }
  have stripped := Section.stripExports_text (front ++ .code bound :: rest)
  simpa [Section.text, Section.left, Section.unstarred, Section.unlisted, bound] using stripped

/-- The only default export of a body, `declared` with `post` behind it. A function or a class gives
its name exactly if blanks alone stand between its words. A text without a name is bound to the
fallback name exactly if it does not begin as a declaration does and has no name alone on its line. -/
theorem extract_default (fallback : String) (plain : isPlainName fallback.toList = true)
    (before declared post body : List Char) (place : ExportsAt before (declared ++ post) body)
    (sole : SoleDefault before body) :
    (∀ name, DeclaresFunction name (declared ++ post) →
      ((extract fallback body).name = String.ofList name ↔
        (∃ async between, FunctionHead Blank async between name (declared ++ post)) ∨
          String.ofList name = fallback)) ∧
    (∀ name, DeclaresClass name (declared ++ post) →
      ((extract fallback body).name = String.ofList name ↔
        ClassHead Blank name (declared ++ post) ∨ String.ofList name = fallback)) ∧
    (Nameless declared post →
      ((extract fallback body).form = .anonymousDefault ↔ ¬Misread declared post)) ∧
    ((extract fallback body).form = .anonymousDefault →
      (extract fallback body).name = fallback ∧
      (extract fallback body).body = stripExports (before ++
        (("const " ++ fallback ++ " = ").toList ++ (declared ++ post))) ∧
      ∀ (front : List Section) (line : List Char) (rest : List Section), before = front.flatMap Section.text →
        post = line ++ rest.flatMap Section.text → (declared ++ line).getLast? = some '\n' →
        FreeInside (declared ++ line) →
        (extract fallback body).body = front.flatMap Section.left ++
          (("const " ++ fallback ++ " = ").toList ++ (declared ++ line ++
            rest.flatMap Section.left))) := by
  refine ⟨fun name => function_name_iff place sole, fun name => class_name_iff place sole,
    nameless_form_iff place sole, fun anonymous => ?_⟩
  have located := locate_value_of_form place sole anonymous
  have bound : (extract fallback body).body = stripExports (before ++
      (("const " ++ fallback ++ " = ").toList ++ (declared ++ post))) := by
    change stripExports (locate fallback body).body = _
    rw [located, List.append_assoc]
  refine ⟨congrArg Entry.name located, bound, ?_⟩
  rintro front line rest rfl rfl ends free
  rw [bound, ← stripExports_bound plain front rest ends free, List.append_assoc]

theorem extract_default_memo :
    let body := "export const a = 1;\nexport default memo(a);\nexport \x7b a \x7d;\n".toList
    SoleDefault "export const a = 1;\n".toList body ∧
      (extract "WebsitePage" body).name = "WebsitePage" ∧
      (extract "WebsitePage" body).body =
        "const a = 1;\nconst WebsitePage = memo(a);\n\n".toList := by
  have sole : SoleDefault "export const a = 1;\n".toList
      "export const a = 1;\nexport default memo(a);\nexport \x7b a \x7d;\n".toList := by
    decide +kernel
  have place : ExportsAt "export const a = 1;\n".toList
      ("memo(a)".toList ++ ";\nexport \x7b a \x7d;\n".toList)
      "export const a = 1;\nexport default memo(a);\nexport \x7b a \x7d;\n".toList :=
    ⟨_, [' '], rfl, rfl, defaultHead_line, blank_space, by simp, rfl⟩
  obtain ⟨name, -, left⟩ := (extract_default "WebsitePage" (by decide) _ _ _ _ place sole).2.2.2
    (by decide +kernel)
  let constant : ExportedDeclaration := {
    word := "const"
    rest := " a = 1;\n".toList
    known := by decide
    stops := rfl
    ends := rfl
    free := freeInside_break.prepend (s := " a = 1;".toList) (by decide)
    noList := fun same => absurd same (by decide) }
  let list : ExportedList := ⟨false, " a ".toList, none, by decide⟩
  have kept := left [.declaration constant] ";\n".toList [.list list] (by decide) (by decide) rfl
    (freeInside_break.prepend (s := "memo(a);".toList) (by decide))
  exact ⟨sole, name, kept.trans (by decide)⟩

/-- A class without a name that extends another is given the name `extends`. -/
theorem extract_default_extends :
    let body := "export default class extends Base \x7b\x7d\n".toList
    SoleDefault [] body ∧ Nameless "class extends Base \x7b\x7d".toList ['\n'] ∧
      (extract "WebsitePage" body).form = .defaultClass ∧
      (extract "WebsitePage" body).name = "extends" := by
  have head : ClassHead Blank "extends".toList
      ("class extends Base \x7b\x7d".toList ++ ['\n']) := by
    refine ⟨[' '], " Base \x7b\x7d\n".toList, by decide, blank_space, by simp,
      ⟨'e', "xtends".toList, rfl, by decide, List.all_eq_true.mp rfl⟩, by decide⟩
  refine ⟨by decide +kernel, ⟨fun name => ⟨fun declares => declares.no_class head, fun declares => ?_⟩, ?_⟩,
    by decide +kernel⟩
  · obtain rfl := declares.eq head
    obtain ⟨_, _, _, _, _, _, _, free⟩ := declares
    exact absurd free (by decide)
  · intro name
    exact absurd (name.declared ' ' (by decide)) (by decide)

end Entry

end PagePreview
