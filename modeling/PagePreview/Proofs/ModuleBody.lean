import PagePreview.Proofs.DefaultEntry
import PagePreview.Proofs.Items

/-!
# The body of a module with one default export

A module with one default export exposes the function or the name that it exports, and its body is
the module without what exports: lists, stars and the default export of a name are cut, and what
declares something loses the words in front. That goes by statements, whichever they are and however
they are ordered, unless a list or a star ends too early for the passes.
-/

namespace PagePreview
open Text Matcher Statement

/-- The default export of a module: a function with a name, or a name. -/
inductive DefaultItem
  | function (async : Bool) (name rest : List Char) (declared : IsDeclaredName name)
    (free : FreeInside rest)
  | identifier (name : List Char) (declared : IsDeclaredName name)
    (binds : String.ofList name ∉ Entry.nonBindingWords)

namespace DefaultItem

variable {s : List Char}

def tail : DefaultItem → List Char
  | function async name rest .. => (if async then "async".toList ++ [' '] else []) ++
    ("function".toList ++ ([' '] ++ (name ++ '(' :: rest)))
  | identifier name .. => name ++ [';']

def text (d : DefaultItem) : List Char := exported ("default".toList ++ ([' '] ++ d.tail))

def name : DefaultItem → List Char
  | function _ name .. | identifier name .. => name

def form : DefaultItem → EntryForm
  | function .. => .defaultFunction
  | identifier .. => .defaultIdentifier

/-- What it is without its export: a function stays, a name does not. -/
def left (d : DefaultItem) : List Char :=
  match d with
  | function .. => d.tail
  | identifier .. => []

theorem tail_inside (d : DefaultItem) : FreeInside d.tail := by
  match d with
  | function async name rest declared free =>
    have unbroken : '\n' ∉ (if async then "async".toList ++ [' '] else []) ++
        ("function".toList ++ ([' '] ++ (name ++ ['(']))) := by
      have letters := declared.noBreak
      cases async <;> simp [letters]
    have inside := free.prepend unbroken
    have shape : (if async then "async".toList ++ [' '] else []) ++ ("function".toList ++
        ([' '] ++ (name ++ ['(']))) ++ rest = (function async name rest declared free).tail := by
      simp only [tail, List.append_assoc, List.cons_append, List.nil_append]
    rwa [shape] at inside
  | identifier name declared binds =>
    have unbroken : '\n' ∉ name ++ [';'] := by simp [declared.noBreak]
    exact freeInside_unbroken unbroken

theorem text_inside (d : DefaultItem) : FreeInside d.text :=
  (d.tail_inside.prepend (s := "default".toList ++ [' ']) (by decide)).exported

theorem left_free (d : DefaultItem) : Free ExportLed d.left := by
  match d with
  | function async name rest declared free =>
    refine (tail_inside (function async name rest declared free)).free ?_
    cases async with
    | false => exact not_exportLed (c := 'f') (by decide) (by decide)
    | true => exact not_exportLed (c := 'a') (by decide) (by decide)
  | identifier .. => exact Item.free_nil

def code (d : DefaultItem) : Item := .code d.left d.left_free

end DefaultItem

def Parts (s : List Char) : Prop :=
  ∃ c rest, s = c :: rest ∧ isDeclaredRest c = false ∧ c ≠ ';'

theorem parts_of_blank {gap s : List Char} (hg : Blank gap) (some : gap ≠ []) :
    Parts (gap ++ s) := by
  obtain ⟨c, gap, rfl⟩ := List.exists_cons_of_ne_nil some
  have blank : isBlank c = true := hg c List.mem_cons_self
  refine ⟨c, gap ++ s, rfl, ?_, ?_⟩
  · cases letter : isDeclaredRest c with
    | false => rfl
    | true =>
      rw [Entry.not_isBlank_of_isDeclaredRest letter] at blank
      cases blank
  · rintro rfl
    exact absurd blank (by decide)

theorem FunctionHead.run {async between name s : List Char}
    (h : FunctionHead Blank async between name s) :
    ∃ run rest, s = run ++ rest ∧ (∀ e ∈ run, isDeclaredRest e = true) ∧ Parts rest := by
  have word : ∀ e ∈ "async".toList ++ "function".toList, isDeclaredRest e = true :=
    List.all_eq_true.mp rfl
  have asyncWord := fun e he => word e (List.mem_append_left _ he)
  have functionWord := fun e he => word e (List.mem_append_right _ he)
  obtain ⟨gap, star, gap', gap'', c, rest, rfl, rfl, rfl | ⟨g, rfl, hg', some⟩, hg, hstar, hgap', hn,
    hgap'', hc⟩ := h
  · rcases eq_or_ne gap [] with rfl | some
    · rcases hstar with rfl | rfl
      · rcases eq_or_ne gap' [] with rfl | some'
        · refine ⟨"function".toList ++ name, gap'' ++ c :: rest, by simp, ?_, ?_⟩
          · intro e he
            exact (List.mem_append.mp he).elim (functionWord e) (hn.declared e)
          · rcases eq_or_ne gap'' [] with rfl | some''
            · rcases hc with rfl | rfl
              · exact ⟨'(', rest, rfl, by decide, by decide⟩
              · exact ⟨'<', rest, rfl, by decide, by decide⟩
            · exact parts_of_blank hgap'' some''
        · exact ⟨"function".toList, _, rfl, functionWord, parts_of_blank hgap' some'⟩
      · exact ⟨"function".toList, _, rfl, functionWord, '*', _, rfl, by decide, by decide⟩
    · refine ⟨"function".toList, _, rfl, functionWord, ?_⟩
      rw [List.append_assoc]
      exact parts_of_blank hg some
  · refine ⟨"async".toList, _, List.append_assoc .., asyncWord, parts_of_blank hg' some⟩

theorem not_functionHead {async between name name' s : List Char} (hn : IsDeclaredName name) :
    ¬FunctionHead Blank async between name' (name ++ ';' :: s) := by
  intro head
  obtain ⟨run, rest, parts, hrun, c, more, rfl, hc, other⟩ := head.run
  obtain ⟨-, same, -⟩ := run_eq_of_append hn.declared hrun (by decide) hc parts
  exact other same.symm

theorem DefaultLed.append {t : List Char} (h : DefaultLed t) (s : List Char) :
    DefaultLed (t ++ s) := by
  obtain ⟨head, gap, rest, rfl, hd, hg, some⟩ := h
  exact ⟨head, gap, rest ++ s, by simp only [List.append_assoc], hd, hg, some⟩

namespace Item

def Ordinary : Item → Prop
  | names l => NoneInside DefaultLed l.inner
  | _ => True

theorem Names.ordinary_line (l : Names) (ordinary : NoneInside DefaultLed l.inner)
    {inner outer s : List Char} (parts : (names l).text = inner ++ outer) (some : inner ≠ [])
    (start : startsLine (lastOr none inner) = true) : ¬DefaultLed (outer ++ s) := by
  have none : NoneInside DefaultLed (names l).text :=
    noneInside_braced ordinary (fun _ led => led.of_append (by decide) (by decide))
      fun led => not_exportLed_of_line rfl led.exportLed
  obtain ⟨whole, ends⟩ : ∃ whole, (names l).text = whole ++ [';'] :=
    ⟨exported ((if l.isType then "type".toList ++ [' '] else []) ++ '\x7b' :: (l.inner ++
      '\x7d' :: originText l.origin)), by
        simp only [text, exported_eq, braced, List.append_assoc, List.cons_append]⟩
  intro led
  rcases outer.eq_nil_or_concat with rfl | ⟨front, c, rfl⟩
  · rw [← List.append_nil inner, ← parts, ends, lastOr_append] at start
    cases start
  · rw [List.concat_eq_append] at parts led
    have last : whole ++ [';'] = inner ++ front ++ [c] := by rw [← ends, parts, List.append_assoc]
    obtain ⟨-, same⟩ := List.append_inj' last rfl
    obtain rfl : ';' = c := (List.cons.inj same).1
    rw [List.append_assoc] at led
    have shorter : DefaultLed front := led.of_append (c := ';') (by decide) (by decide)
    exact none inner (front ++ [';']) parts some start (shorter.append [';'])

theorem ordinary_line (i : Item) (ordinary : i.Ordinary) {inner outer s : List Char}
    (parts : i.text = inner ++ outer) (start : startsLine (lastOr none inner) = true)
    (ends : firstLine s = []) :
    ¬DefaultLed (outer ++ s) := by
  intro led
  have shorter : ExportLed outer := led.exportLed.of_append (stops_of_line ends)
  rcases eq_or_ne inner [] with rfl | some
  · obtain rfl : i.text = outer := parts
    cases i with
    | code t free => exact free t ⟨[], rfl, rfl⟩ shorter
    | declaration d =>
      obtain ⟨c, more, word, letter⟩ := declarationWord_eq d.known
      rw [text, exported_append, word] at led
      obtain ⟨rest, same, stops⟩ := defaultLed_opens (not_isBlank_of_isWord letter) led
      have whole : d.word.toList ++ (d.rest ++ s) = "default".toList ++ rest := by
        rw [word, ← same]
        simp
      obtain ⟨default, -⟩ := word_eq_of_append (declarationWord_letters d.known)
        (List.all_eq_true.mp rfl) (d.stops_append ends) stops whole
      exact absurd (default ▸ d.known) (by decide)
    | names l =>
      obtain ⟨c, t, opens, blank, -, other⟩ := l.opens
      rw [text, exported_append, opens] at led
      obtain ⟨rest, same, -⟩ := defaultLed_opens blank led
      exact other (List.cons.inj same).1
    | star x =>
      obtain ⟨rest, same, -⟩ := defaultLed_opens (c := '*') (by decide) led
      cases (List.cons.inj same).1
  · cases i with
    | code t free => exact free outer ⟨inner, parts, start⟩ shorter
    | declaration d =>
      exact (d.free.prepend d.unbroken).exported inner outer parts some start shorter
    | names l => exact l.ordinary_line ordinary parts some start led
    | star x =>
      exact (freeInside_unbroken x.unbroken).exported inner outer parts some start shorter

end Item

/-- The body of a module with one default export. -/
structure ModuleBody where
  front : List Item
  default : DefaultItem
  rest : List Item
  only : ∀ i ∈ front ++ rest, i.Ordinary

namespace ModuleBody

def text (m : ModuleBody) : List Char :=
  stacked (m.front.map Item.text ++ m.default.text :: m.rest.map Item.text)

def left (m : ModuleBody) : List Char :=
  stacked (m.front.map Item.left ++ m.default.left :: m.rest.map Item.left)

end ModuleBody

namespace ModuleBody

variable (m : ModuleBody)

def before : List Char := (m.front.map Item.text).flatMap (· ++ ['\n'])

/-- What stands behind `export default` and a space. -/
def behind : List Char := m.default.tail ++ linesOf (m.rest.map Item.text)

theorem text_eq : m.text =
    m.before ++ (("export".toList ++ ([' '] ++ "default".toList)) ++ ([' '] ++ m.behind)) := by
  rw [text, stacked_append, before, behind, DefaultItem.text]
  simp only [exported_eq, List.append_assoc]

theorem startsLine_before : startsLine (lastOr none m.before) = true := by
  rw [before]
  rcases m.front.eq_nil_or_concat with none | ⟨items, i, whole⟩
  · rw [none]
    rfl
  · rw [whole, List.concat_eq_append, List.map_append, List.flatMap_append, lastOr_append]
    simp [lastOr_append, startsLine]

theorem behind_solid : m.behind.head?.any isBlank = false := by
  rw [behind]
  match m.default with
  | .function true .. | .function false .. => rfl
  | .identifier name declared binds =>
    rw [DefaultItem.tail, List.append_assoc]
    exact declared.head?_isBlank _

theorem exportsAt : ExportsAt m.before m.behind m.text :=
  ⟨_, [' '], m.text_eq, m.startsLine_before, Entry.defaultHead_line, blank_space, by simp,
    m.behind_solid⟩

theorem sole : SoleDefault m.before m.text := by
  rintro start line parts ⟨q, u, way⟩
  obtain ⟨starts, head, gap, here, hd, hg, some⟩ := lineExportDefault_reads way
  have led : DefaultLed line := ⟨head, gap, q.ahead, here, hd, hg, some⟩
  obtain ⟨t, ts, texts⟩ := List.exists_cons_of_ne_nil
    (show m.front.map Item.text ++ m.default.text :: m.rest.map Item.text ≠ [] by simp)
  rw [text, texts] at parts
  obtain ⟨above, x, below, inner, outer, whole, hx, rfl, rfl, first⟩ := stacked_line parts starts
  rw [← texts] at whole
  have noItem : x ∉ (m.front ++ m.rest).map Item.text := by
    intro member
    obtain ⟨i, hi, rfl⟩ := List.mem_map.mp member
    exact i.ordinary_line (m.only i hi) hx first (firstLine_linesOf below) led
  rw [List.map_append, List.mem_append, not_or] at noItem
  have place : above = m.front.map Item.text ∧ x = m.default.text := by
    rcases List.append_eq_append_iff.mp whole with ⟨more, rfl, items⟩ | ⟨more, items, behind⟩
    · cases more with
      | nil => exact ⟨List.append_nil _, (List.cons.inj items).1.symm⟩
      | cons y more => exact absurd (by rw [(List.cons.inj items).2]; simp) noItem.2
    · cases more with
      | nil => exact ⟨by rw [items, List.append_nil], (List.cons.inj behind).1⟩
      | cons y more => exact absurd (by rw [items, (List.cons.inj behind).1]; simp) noItem.1
  obtain ⟨rfl, rfl⟩ := place
  rcases eq_or_ne inner [] with rfl | some'
  · exact List.append_nil _
  · have shorter := led.exportLed.of_append (stops_of_line (firstLine_linesOf below))
    exact absurd shorter (m.default.text_inside inner outer hx some' first)

/-- The items of the module once its entry is taken: what is left of the default export is code. -/
def items : List Item := m.front ++ m.default.code :: m.rest

theorem locate_text (fallback : String) : Entry.locate fallback m.text =
    ⟨stacked (m.items.map Item.text), String.ofList m.default.name, m.default.form⟩ := by
  have place := m.exportsAt
  have alone := m.sole
  have kept : stacked (m.items.map Item.text) =
      m.before ++ (m.default.left ++ linesOf (m.rest.map Item.text)) := by
    rw [items, List.map_append, List.map_cons, stacked_append]
    rfl
  rw [kept]
  cases exports : m.default with
  | function async name more declared free =>
    have head : ∃ async between, FunctionHead Blank async between name m.behind := by
      refine ⟨if async then "async".toList ++ [' '] else [], [' '], [' '], [], [], [], '(',
        more ++ linesOf (m.rest.map Item.text), ?_, rfl, ?_, blank_space, .inl rfl, noIndent.blank,
        declared, noIndent.blank, .inl rfl⟩
      · simp only [behind, exports, DefaultItem.tail, List.append_assoc, List.cons_append,
          List.nil_append]
      · cases async with
        | false => exact .inl rfl
        | true => exact .inr ⟨[' '], rfl, blank_space, by simp⟩
    rw [Entry.locate_function place alone head, behind, exports]
    rfl
  | identifier name declared binds =>
    have shape : m.behind = name ++ ';' :: linesOf (m.rest.map Item.text) := by
      simp [behind, exports, DefaultItem.tail]
    have line : firstLine (';' :: linesOf (m.rest.map Item.text)) = [';'] := by
      rw [firstLine_cons (by decide), firstLine_linesOf]
    have after : afterLine (name ++ ';' :: linesOf (m.rest.map Item.text)) =
        linesOf (m.rest.map Item.text) := by
      have split := firstLine_afterLine (name ++ ';' :: linesOf (m.rest.map Item.text))
      rw [firstLine_append declared.noBreak, line, List.append_assoc] at split
      exact (List.cons.inj (List.append_cancel_left split)).2
    have closing : Closing [';'] := ⟨[], [';'], [], rfl, noIndent, noIndent, .inr rfl⟩
    rw [shape] at place
    rw [Entry.locate_identifier place alone (fun _ _ _ => not_functionHead declared)
      ⟨_, rfl, declared, line ▸ closing⟩ binds, after]
    rfl

/-- The entry of a module is its default export. The body is the module without its lists, stars and
default export of a name, and without the words that export in front of its declarations, exactly if
no list and no star ends too early. -/
theorem extract_text (fallback : String) :
    (Entry.extract fallback m.text).name = String.ofList m.default.name ∧
      (Entry.extract fallback m.text).form = m.default.form ∧
      ((Entry.extract fallback m.text).body = m.left ↔ ∀ i ∈ m.front ++ m.rest, i.Readable) := by
  obtain ⟨us, done, stripped⟩ := Item.stripExports_stacked m.items
  have extracted : Entry.extract fallback m.text =
      ⟨stacked us, String.ofList m.default.name, m.default.form⟩ := by
    rw [Entry.extract, m.locate_text]
    dsimp only
    rw [stripped]
  have left : m.left = stacked (m.items.map Item.left) := by
    rw [items, List.map_append, List.map_cons]
    rfl
  have all : (∀ i ∈ m.items, i.Readable) ↔ ∀ i ∈ m.front ++ m.rest, i.Readable := by
    have code : m.default.code.Readable := trivial
    simp [items, or_imp, forall_and, code]
  rw [extracted, left, ← all, ← Item.stacked_eq_iff done]
  exact ⟨rfl, rfl, Iff.rfl⟩

def types : Origin := ⟨'"', "./types".toList, rfl, by decide, by decide⟩

theorem types_plain : types.Plain := by
  have unquoted : types.name.all (!Reference.isQuote ·) = true := rfl
  simpa [Origin.Plain] using unquoted

/-- Code, a list, a list of types, a star and a declaration around the export of a function. -/
def mixed : ModuleBody where
  front := [
    .code "const Hero = () => null;".toList
      ((freeInside_unbroken (by decide)).free (not_exportLed (by decide) (by decide))),
    .names ⟨false, " Hero as Banner ".toList, none, absurd ⟨by decide, nofun⟩⟩,
    .names ⟨true, " Props ".toList, some types,
      absurd ⟨by decide, fun _ same => Option.some.inj same ▸ types_plain⟩⟩,
    .star ⟨some "icons".toList, types, fun _ same =>
      Option.some.inj same ▸ ⟨'i', "cons".toList, rfl, rfl, List.all_eq_true.mp rfl⟩⟩]
  default := .function false "Page".toList ") \x7b return null; \x7d".toList
    ⟨'P', "age".toList, rfl, rfl, List.all_eq_true.mp rfl⟩ (freeInside_unbroken (by decide))
  rest := [
    .declaration ⟨"const", " meta = 1;".toList, by decide, rfl, freeInside_unbroken (by decide),
      fun type => absurd type (by decide)⟩,
    .code [] Item.free_nil]
  only := by
    have list : ∀ inner : List Char, '\n' ∉ inner → NoneInside DefaultLed inner :=
      fun _ => noneInside_unbroken
    simp [Item.Ordinary, list]

theorem extract_text_mixed :
    let entry := Entry.extract "WebsitePage" mixed.text
    mixed.text = stacked ["const Hero = () => null;".toList, "export \x7b Hero as Banner \x7d;".toList,
        "export type \x7b Props \x7d from \"./types\";".toList,
        "export * as icons from \"./types\";".toList,
        "export default function Page() \x7b return null; \x7d".toList,
        "export const meta = 1;".toList, []] ∧
      entry.name = "Page" ∧ entry.form = .defaultFunction ∧
      entry.body = stacked ["const Hero = () => null;".toList, [], [], [],
        "function Page() \x7b return null; \x7d".toList, "const meta = 1;".toList, []] := by
  obtain ⟨name, form, body⟩ := extract_text mixed "WebsitePage"
  have readable : ∀ i ∈ mixed.front ++ mixed.rest, i.Readable := by
    simp [mixed, Item.Readable, Item.Whole, types_plain]
  refine ⟨?_, name, form, (body.mpr readable).trans ?_⟩
  · decide +kernel
  · decide

/-- A brace in a comment ends a list: its last line is left, which closes nothing. -/
theorem extract_comment :
    let page := "default function Page() \x7b return null; \x7d".toList
    let texts := ["const Hero = () => null;".toList,
      exported (braced false "\n  Hero, // \x7blegacy\x7d\n".toList none), exported page, []]
    let entry := Entry.extract "WebsitePage" (stacked texts)
    entry.name = "Page" ∧ entry.form = .defaultFunction ∧
      entry.body =
        ("const Hero = () => null;\n\n\x7d;\nfunction Page() \x7b return null; \x7d\n").toList ∧
      entry.body ≠ stacked ["const Hero = () => null;".toList, [],
        "function Page() \x7b return null; \x7d".toList, []] := by
  decide +kernel

end ModuleBody

end PagePreview
