import PagePreview.Proofs.Items

/-!
# The body of a module, section by section

The body of a module is made of code, of exported declarations, of lists of exports, and of exports
of everything, each on lines of its own. A section is an item of the module and the end of its last
line, so what is left of a body without its exports is what is left of its sections.
-/

namespace PagePreview
open Text Matcher Statement
open Reference (isQuote isModuleChar)

variable {s t : List Char}

structure ExportedList where
  isType : Bool
  inner : List Char
  module : Option ModuleName
  plain : '\x7d' ∉ inner

structure ExportedStar where
  name : Option (List Char)
  module : ModuleName
  declared : ∀ n, name = some n → IsDeclaredName n

/-- An exported declaration: its first word, and all that follows. -/
structure ExportedDeclaration where
  word : String
  rest : List Char
  known : word ∈ Entry.declarationWords
  stops : rest.head?.any isWord = false
  ends : rest.getLast? = some '\n'
  free : FreeInside rest
  noList : word = "type" → ∃ gap c more, rest = gap ++ c :: more ∧ Blank gap ∧
    isBlank c = false ∧ c ≠ '\x7b'

structure Code where
  text : List Char
  ends : text.getLast? = some '\n'
  free : Free ExportLed text

inductive Section
  | code (code : Code)
  | declaration (declaration : ExportedDeclaration)
  | list (list : ExportedList)
  | star (star : ExportedStar)

def fromModule (module : ModuleName) : List Char :=
  "from".toList ++ ([' '] ++ '\'' :: (module.text ++ ['\'']))

def ExportedList.statement (l : ExportedList) : List Char :=
  "export".toList ++ ([' '] ++ ((if l.isType then "type".toList ++ [' '] else []) ++
    ("\x7b".toList ++ (l.inner ++ ("\x7d".toList ++
      ((l.module.map fun module => [' '] ++ fromModule module).getD [] ++ [';']))))))

def ExportedStar.statement (x : ExportedStar) : List Char :=
  "export".toList ++ ([' '] ++ ("*".toList ++ ([' '] ++
    ((x.name.map fun n => "as".toList ++ ([' '] ++ (n ++ [' ']))).getD [] ++
      (fromModule x.module ++ [';'])))))

def ExportedDeclaration.statement (d : ExportedDeclaration) : List Char :=
  "export".toList ++ ([' '] ++ d.word.toList)

namespace Section

def text : Section → List Char
  | code c => c.text
  | declaration d => d.statement ++ d.rest
  | list l => l.statement ++ ['\n']
  | star x => x.statement ++ ['\n']

def unlisted : Section → List Char
  | list _ => ['\n']
  | x => x.text

def unstarred : Section → List Char
  | star _ => ['\n']
  | x => x.unlisted

def left : Section → List Char
  | declaration d => d.word.toList ++ d.rest
  | x => x.unstarred

end Section

theorem ExportLed.append (h : ExportLed t) (stops : Stops s) : ExportLed (t ++ s) := by
  obtain ⟨indent, rest, rfl, hi, word⟩ := h
  refine ⟨indent, rest ++ s, by simp only [List.append_assoc], hi, ?_⟩
  cases rest with
  | nil =>
    cases s with
    | nil => rfl
    | cons c s => exact (Bool.or_eq_false_iff.mp stops).1
  | cons c rest => exact word

def ModuleName.origin (m : ModuleName) : Origin where
  quote := '\''
  name := m.text
  quotes := rfl
  closed member := absurd (m.plain _ member) (by decide)
  unbroken := m.unbroken

theorem ModuleName.origin_plain (m : ModuleName) : m.origin.Plain := by
  intro c hc
  simpa [isModuleChar] using m.plain c hc

theorem ExportedDeclaration.statement_eq (d : ExportedDeclaration) :
    d.statement = exported d.word.toList := rfl

theorem ExportedStar.statement_eq (x : ExportedStar) :
    x.statement = exported (starred x.name x.module.origin) := rfl

theorem ExportedList.statement_eq (l : ExportedList) :
    l.statement = exported (braced l.isType l.inner (l.module.map ModuleName.origin)) := by
  have origin : (l.module.map fun module => [' '] ++ fromModule module).getD [] =
      originText (l.module.map ModuleName.origin) := by
    cases l.module <;> rfl
  have shape : l.statement = exported ((if l.isType then "type".toList ++ [' '] else []) ++
      '\x7b' :: (l.inner ++ '\x7d' ::
        ((l.module.map fun module => [' '] ++ fromModule module).getD [] ++ [';']))) := rfl
  rw [shape, origin]
  rfl

namespace Section

theorem item_code (c : Code) : ∃ i : Item, i.Readable ∧ (code c).text = i.text ++ ['\n'] ∧
    (code c).left = i.left ++ ['\n'] := by
  obtain ⟨t, ends⟩ := List.getLast?_eq_some_iff.mp c.ends
  have free : Free ExportLed t := by
    rintro back ⟨front, rfl, start⟩ led
    refine c.free (back ++ ['\n']) ⟨front, by rw [ends, List.append_assoc], start⟩ ?_
    exact led.append (stops_of_line rfl)
  exact ⟨.code t free, trivial, ends, ends⟩

theorem item_declaration (d : ExportedDeclaration) : ∃ i : Item, i.Readable ∧
    (declaration d).text = i.text ++ ['\n'] ∧ (declaration d).left = i.left ++ ['\n'] := by
  obtain ⟨rest, ends⟩ := List.getLast?_eq_some_iff.mp d.ends
  have stops : rest.head?.any isWord = false := by
    have first := d.stops
    rw [ends] at first
    cases rest with
    | nil => rfl
    | cons c rest => exact first
  have free : FreeInside rest := by
    rintro front back rfl some start led
    refine d.free front (back ++ ['\n']) (by rw [ends, List.append_assoc]) some start ?_
    exact led.append (stops_of_line rfl)
  have noList : d.word = "type" → ∃ gap c more, rest = gap ++ c :: more ∧ Blank gap ∧
      isBlank c = false ∧ c ≠ '\x7b' := by
    intro type
    obtain ⟨gap, c, more, parts, hg, solid, other⟩ := d.noList type
    rw [ends] at parts
    rcases more.eq_nil_or_concat with rfl | ⟨more, e, rfl⟩
    · obtain ⟨-, feed⟩ := List.append_inj' parts rfl
      rw [← (List.cons.inj feed).1] at solid
      exact absurd solid (by decide)
    · rw [List.concat_eq_append, ← List.cons_append, ← List.append_assoc] at parts
      exact ⟨gap, c, more, (List.append_inj' parts rfl).1, hg, solid, other⟩
  refine ⟨.declaration ⟨d.word, rest, d.known, stops, free, noList⟩, trivial, ?_, ?_⟩
  · simp only [text, Item.text, d.statement_eq, exported_append, ends, List.append_assoc]
  · simp only [left, Item.left, ends, List.append_assoc]

theorem item_list (l : ExportedList) : ∃ i : Item, i.Readable ∧
    (list l).text = i.text ++ ['\n'] ∧ (list l).left = i.left ++ ['\n'] := by
  have whole : Item.Whole l.inner (l.module.map ModuleName.origin) := by
    refine ⟨l.plain, fun o origin => ?_⟩
    obtain ⟨m, -, rfl⟩ := Option.map_eq_some_iff.mp origin
    exact m.origin_plain
  refine ⟨.names ⟨l.isType, l.inner, l.module.map ModuleName.origin,
    fun early => absurd whole early⟩, whole, ?_, rfl⟩
  rw [text, l.statement_eq]
  rfl

theorem item_star (x : ExportedStar) : ∃ i : Item, i.Readable ∧
    (star x).text = i.text ++ ['\n'] ∧ (star x).left = i.left ++ ['\n'] := by
  refine ⟨.star ⟨x.name, x.module.origin, x.declared⟩, x.module.origin_plain, ?_, rfl⟩
  rw [text, x.statement_eq]
  rfl

theorem item : ∀ x : Section, ∃ i : Item, i.Readable ∧ x.text = i.text ++ ['\n'] ∧
    x.left = i.left ++ ['\n']
  | code c => item_code c
  | declaration d => item_declaration d
  | list l => item_list l
  | star x => item_star x

theorem stacked_sections {f : Section → List Char} {g : Section → List Char}
    (same : ∀ x, f x = g x ++ ['\n']) (sections : List Section) :
    sections.flatMap f = stacked (sections.map g ++ [[]]) := by
  have texts : f = fun x => g x ++ ['\n'] := funext same
  rw [stacked_append, texts]
  simp [linesOf, List.flatMap_map]

theorem stripExports_text (sections : List Section) :
    Entry.stripExports (sections.flatMap text) = sections.flatMap left := by
  choose item readable text_eq left_eq using item
  obtain ⟨us, done, stripped⟩ :=
    Item.stripExports_stacked (sections.map item ++ [.code [] Item.free_nil])
  have whole : ∀ i ∈ sections.map item ++ [.code [] Item.free_nil], i.Readable := by
    intro i hi
    rcases List.mem_append.mp hi with section_ | last
    · obtain ⟨x, -, rfl⟩ := List.mem_map.mp section_
      exact readable x
    · rw [List.mem_singleton.mp last]
      trivial
  rw [(Item.stacked_eq_iff done).mpr whole] at stripped
  rw [stacked_sections text_eq, stacked_sections left_eq]
  rw [List.map_append, List.map_append, List.map_map, List.map_map] at stripped
  exact stripped

end Section

end PagePreview
