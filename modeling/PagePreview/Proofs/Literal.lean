import PagePreview.Proofs.DefaultEntry
import PagePreview.Proofs.Weight

/-!
# Literals over several lines

A page is read as text, so the lines of a literal are read like any other lines. A page that begins with
a constant bound to a literal keeps that constant exactly if no pass finds anything in the page but the
export of the entry behind it: a pass that finds more makes the page too light to have the constant in it.
-/

namespace PagePreview
open Text Matcher Statement

/-- A source without references has been scanned for imports, and there are none in it. -/
theorem Scan.unread_of_references {config : Config} {source : List Char} {scan : Scan}
    (h : Scan.ofSource config source = .ok scan) (none : scan.references = []) :
    (Reference.onLines Reference.boundImport).occurs source = false ∧
      (Reference.onLines Reference.effectImport).occurs source = false ∧ scan.body = source := by
  have values : ∀ ps : List (Piece (Span × Span)), readStatements ps = .ok [] →
      ps.filterMap Piece.value? = [] := by
    intro ps
    induction ps with
    | nil => exact fun _ => rfl
    | cons piece ps ih =>
      intro read
      cases piece with
      | kept c => exact ih read
      | hit a run =>
        obtain ⟨r, -, read⟩ := ok_of_bind read
        obtain ⟨rs, -, read⟩ := ok_of_bind read
        cases read
  have consumes {α : Type} {m : Matcher α} (begins : BeginsWith "import" m) :
      (Reference.onLines m).Consumes := (onLines_startsStatement begins).consumes
  rw [ofSource_body h]
  obtain ⟨references, read, h⟩ := ok_of_bind h
  obtain rfl := Except.ok.inj h
  obtain ⟨rfl, effects⟩ := List.append_eq_nil_iff.mp none
  have bound := occurs_of_values (consumes boundImport_beginsWith) (values _ read)
  have kept : (Reference.onLines Reference.boundImport).erase source = source :=
    (unread_of_occurs bound).rewrite _
  rw [kept] at effects ⊢
  have effect := occurs_of_values (consumes effectImport_beginsWith) (List.map_eq_nil_iff.mp effects)
  exact ⟨bound, effect, (unread_of_occurs effect).rewrite _⟩

section Tick

variable {b : Option Char} {before head gap back s tail body : List Char} {fallback : String}

theorem DefaultHead.heavy (h : DefaultHead head) : 0 < weight head := by
  obtain ⟨indent, gap, rfl, -⟩ := h
  have word : weight "export".toList = 1 := by decide
  rw [weight_append, weight_append, word]
  omega

theorem DefaultHead.tick_not_mem (h : DefaultHead head) (hg : Blank gap) : '\x60' ∉ head ++ gap := by
  obtain ⟨indent, gap', rfl, hi, hg', -⟩ := h
  have tick : isBlank '\x60' = false := by decide
  have unblank : ∀ run, Blank run → '\x60' ∉ run := fun run blank member => by
    have := blank _ member
    rw [tick] at this
    cases this
  simp only [List.mem_append, not_or]
  exact ⟨⟨unblank _ hi.blank, by decide, unblank _ hg', by decide⟩, unblank _ hg⟩

theorem default_before_tick {u : Unit} {q : Place}
    (way : (u, q) ∈ Entry.lineExportDefault ⟨b, back ++ '\x60' :: s⟩) :
    startsLine b = true ∧ ∃ head gap rest, back = head ++ (gap ++ rest) ∧ DefaultHead head ∧
      Blank gap ∧ gap ≠ [] ∧ q.ahead = rest ++ '\x60' :: s := by
  obtain ⟨start, head, gap, parts, hd, hg, some⟩ := lineExportDefault_reads way
  refine ⟨start, head, gap, ?_⟩
  rw [← List.append_assoc] at parts
  rcases List.append_eq_append_iff.mp parts with ⟨beyond, inside, behind⟩ | ⟨rest, rfl, ahead⟩
  · cases beyond with
    | nil => exact ⟨[], by simpa using inside.symm, hd, hg, some, behind.symm⟩
    | cons c beyond =>
      obtain ⟨rfl, -⟩ := List.cons.inj behind
      exact absurd (by simp [inside]) (hd.tick_not_mem hg)
  · exact ⟨rest, List.append_assoc .., hd, hg, some, ahead⟩

theorem ExportsAt.tail_eq {tail' : List Char} (h : ExportsAt before tail body)
    (h' : ExportsAt before tail' body) : tail = tail' := by
  obtain ⟨head, gap, rfl, -, hd, hg, -, stops⟩ := h
  obtain ⟨head', gap', parts, -, hd', hg', -, stops'⟩ := h'
  obtain ⟨-, same⟩ := hd.eq hd' (List.append_cancel_left parts)
  exact (run_eq_of_stops hg hg' stops stops' same).2

theorem afterLine_append (r z : List Char) : ∃ w, afterLine (r ++ '\n' :: z) = w ++ '\n' :: z := by
  induction r with
  | nil => exact ⟨[], rfl⟩
  | cons c r ih =>
    by_cases feed : c = '\n'
    · subst feed
      exact ⟨'\n' :: r, rfl⟩
    · obtain ⟨w, same⟩ := ih
      refine ⟨w, ?_⟩
      rw [List.cons_append, afterLine, List.dropWhile_cons_of_pos (by simpa using feed)]
      exact same

theorem weight_afterLine (s : List Char) : weight (afterLine s) ≤ weight s :=
  (List.dropWhile_sublist _).countP_le

/-- An entry that is not bound to the fallback name makes its body lighter than the text it is read off. -/
theorem Entry.Exposes.lighter {entry : Entry} (h : Exposes fallback before tail entry)
    (place : ExportsAt before tail body) (other : entry.name ≠ fallback) :
    weight entry.body < weight body := by
  obtain ⟨head, gap, rfl, -, hd, -⟩ := place
  have heavy := hd.heavy
  have rest := weight_afterLine tail
  cases h with
  | value => exact absurd rfl other
  | _ =>
    simp only [weight_append]
    omega

end Tick

namespace Literal

variable {payload : String} {before back tail : List Char}

def line (payload : String) : String := "const t = \x60" ++ payload ++ "\x60;"

def entry : String := "function Real() \x7b return t; \x7d\n"

def page (payload : String) : String := line payload ++ "\nexport default " ++ entry

def kept (payload : String) : String := line payload ++ "\n" ++ entry

/-- No pass finds anything to take from the page but the export of its entry. -/
structure Untouched (payload : String) : Prop where
  styles : StyleIsland.normalize (page payload).toList = (page payload).toList
  boundImports : (Reference.onLines Reference.boundImport).occurs (page payload).toList = false
  effectImports : (Reference.onLines Reference.effectImport).occurs (page payload).toList = false
  exportless : Entry.Exportless (kept payload).toList

def opened (payload : String) : List Char := "const t = \x60".toList ++ payload.toList

def closed : List Char := '\x60' :: (";\nexport default ".toList ++ entry.toList)

theorem page_eq (payload : String) : (page payload).toList = opened payload ++ closed := by
  unfold page line opened
  simp only [String.toList_append, List.append_assoc]
  rfl

theorem page_parts (payload : String) :
    (page payload).toList = (line payload).toList ++ ("\nexport default ".toList ++ entry.toList) := by
  unfold page
  simp only [String.toList_append, List.append_assoc]

theorem kept_parts (payload : String) :
    (kept payload).toList = (line payload).toList ++ ['\n'] ++ entry.toList := by
  unfold kept
  simp only [String.toList_append]
  rfl

theorem line_eq (payload : String) : (line payload).toList = opened payload ++ "\x60;".toList := by
  unfold line opened
  simp only [String.toList_append]

theorem exportsAt_behind (front : List Char) : ExportsAt (front ++ ['\n']) entry.toList
    (front ++ ("\nexport default ".toList ++ entry.toList)) := by
  refine ⟨_, [' '], ?_, ?_, Entry.defaultHead_line, List.all_eq_true.mp rfl, by simp, rfl⟩
  · simp only [List.append_assoc]
    rfl
  · rw [lastOr_append]
    rfl

theorem sole_closed : SoleDefault "\x60;\n".toList closed := by decide +kernel

/-- A default export of the page stands behind the constant or begins inside the literal. -/
theorem place_of_default {u : Unit} {q : Place} (parts : (page payload).toList = before ++ back)
    (way : (u, q) ∈ Entry.lineExportDefault ⟨lastOr none before, back⟩) :
    before = (line payload).toList ++ ['\n'] ∨
      startsLine (lastOr none before) = true ∧ ∃ head gap rest,
        opened payload = before ++ (head ++ (gap ++ rest)) ∧ DefaultHead head ∧ Blank gap ∧
          gap ≠ [] ∧ q.ahead = rest ++ closed := by
  rw [page_eq] at parts
  rcases List.append_eq_append_iff.mp parts with ⟨beyond, rfl, behind⟩ | ⟨rest, inside, rfl⟩
  · left
    cases beyond with
    | nil =>
      rw [List.nil_append] at behind
      rw [← behind] at way
      obtain ⟨-, head, gap, rest, nothing, -, -, some, -⟩ : _ ∧ ∃ head gap rest,
          ([] : List Char) = _ ∧ _ := default_before_tick way
      simp [some] at nothing
    | cons c beyond =>
      rw [lastOr_append] at way
      rw [sole_closed (c :: beyond) back behind ⟨q, u, way⟩, line_eq, List.append_assoc]
      rfl
  · right
    obtain ⟨start, head, gap, rest, rfl, hd, hg, some, ahead⟩ := default_before_tick way
    exact ⟨start, head, gap, rest, inside, hd, hg, some, ahead⟩

theorem functionHead_entry :
    ∃ async between, FunctionHead Blank async between "Real".toList entry.toList :=
  ⟨[], [' '], [' '], [], [], [], '(', ") \x7b return t; \x7d\n".toList, rfl, rfl, .inl rfl,
    List.all_eq_true.mp rfl, .inl rfl, by simp [Blank], ⟨'R', "eal".toList, rfl, by decide, List.all_eq_true.mp rfl⟩,
    by simp [Blank], .inl rfl⟩

theorem stripClientDirective_page (payload : String) :
    Entry.stripClientDirective (page payload).toList = (page payload).toList := by
  rw [page_eq]
  rfl

theorem Untouched.sole (h : Untouched payload) :
    SoleDefault ((line payload).toList ++ ['\n']) (page payload).toList := by
  rintro front back parts ⟨q, u, way⟩
  rcases place_of_default parts way with here | ⟨start, head, gap, rest, inside, hd, hg, some, -⟩
  · exact here
  · have begins := lineExportDefault_reaches (s := rest ++ ("\x60;".toList ++ ['\n'] ++ entry.toList))
      start hd hg some
    obtain ⟨x, read⟩ := leftoverDefault_of_begins begins
    refine absurd read (unread_of_occurs h.exportless.defaults front _ ?_ x _)
    simp only [kept_parts, line_eq, inside, List.append_assoc]

theorem Untouched.ofSource (h : Untouched payload) :
    Sanitized.ofSource {} (page payload) = .ok {
      standIns := ""
      body := kept payload
      entryName := "Real"
      entryForm := .defaultFunction
      references := [] } := by
  have scan := Sanitized.scan_unread {} (unread_of_occurs h.boundImports)
    (unread_of_occurs h.effectImports)
  have place := exportsAt_behind (line payload).toList
  rw [← page_parts] at place
  have located : Entry.locate ({} : Config).fallbackEntryName (page payload).toList =
      ⟨(line payload).toList ++ ['\n'] ++ entry.toList, "Real", .defaultFunction⟩ :=
    Entry.locate_function place h.sole functionHead_entry
  have made : Sanitized.ofSource {} (page payload) = (do
      let scan ← Scan.ofSource {} (Sanitized.scanned (page payload))
      let entry := Entry.extract ({} : Config).fallbackEntryName scan.body
      pure {
        standIns := StandIn.runtimeBindings scan.runtimeBindings ++ StandIn.prelude {} scan.symbols
        body := String.ofList entry.body
        entryName := entry.name
        entryForm := entry.form
        references := scan.references }) := rfl
  rw [made, Sanitized.scanned, stripClientDirective_page, h.styles, scan]
  change Except.ok _ = _
  dsimp only
  rw [Entry.extract, located, ← kept_parts]
  dsimp only
  rw [h.exportless.stripExports, String.ofList_toList]
  rfl

theorem exposed_body {e : Entry} {fallback : String} (place : ExportsAt before tail (page payload).toList)
    (exposes : Entry.Exposes fallback before tail e) (name : e.name = "Real") (other : fallback ≠ "Real") :
    e.body = (kept payload).toList ∨
      ∃ front, e.body = front ++ ("\nexport default ".toList ++ entry.toList) := by
  have behind := exportsAt_behind (line payload).toList
  rw [← page_parts] at behind
  obtain ⟨head, gap, parts, start, hd, hg, some, -⟩ := id place
  obtain ⟨u, way⟩ := lineExportDefault_reaches (s := tail) start hd hg some
  rcases place_of_default parts way with rfl | ⟨-, head', gap', rest, -, -, -, -, ahead⟩
  · obtain rfl := place.tail_eq behind
    left
    rw [kept_parts]
    cases exposes with
    | function => rfl
    | «class» => rfl
    | value => exact absurd name other
    | @identifier word alone =>
      obtain ⟨rest, whole, -⟩ := alone
      have letters := congrArg String.toList name
      dsimp only at letters
      rw [String.toList_ofList] at letters
      rw [letters] at whole
      exact absurd (List.cons.inj whole).1 (by decide)
  · right
    have shape : tail = rest ++ "\x60;".toList ++ ("\nexport default ".toList ++ entry.toList) := by
      rw [List.append_assoc]
      exact ahead
    rw [shape] at exposes
    cases exposes with
    | function => exact ⟨before ++ (rest ++ "\x60;".toList), (List.append_assoc ..).symm⟩
    | «class» => exact ⟨before ++ (rest ++ "\x60;".toList), (List.append_assoc ..).symm⟩
    | value => exact absurd name other
    | identifier =>
      obtain ⟨w, line⟩ := afterLine_append (rest ++ "\x60;".toList) ("export default ".toList ++ entry.toList)
      refine ⟨before ++ w, ?_⟩
      rw [List.append_assoc before]
      exact congrArg (before ++ ·) line

theorem not_exportless (front : List Char) :
    ¬Entry.Exportless (front ++ ("\nexport default ".toList ++ entry.toList)) := by
  intro exportless
  obtain ⟨head, gap, parts, start, hd, hg, some, -⟩ := exportsAt_behind front
  obtain ⟨x, read⟩ := leftoverDefault_of_begins (lineExportDefault_reaches (s := entry.toList) start hd hg some)
  exact unread_of_occurs exportless.defaults _ _ parts x _ read

theorem weight_page (payload : String) :
    weight (page payload).toList = weight (line payload).toList + 1 := by
  have rest : weight ("\nexport default ".toList ++ entry.toList) = 1 := by decide
  rw [page_parts, weight_append, rest]

theorem untouched_of_kept {s : Sanitized} (made : Sanitized.ofSource {} (page payload) = .ok s)
    (name : s.entryName = "Real") (none : s.references = [])
    (inside : (line payload).toList <:+: s.body.toList) : Untouched payload := by
  obtain ⟨scan, hscan, scanned⟩ := Sanitized.ofSource_scanned made
  obtain ⟨bound, effect, body⟩ := Scan.unread_of_references hscan (scanned.references ▸ none)
  have other : ({} : Config).fallbackEntryName ≠ "Real" := by decide
  rw [Sanitized.scanned, stripClientDirective_page] at bound effect body
  generalize located : Entry.locate ({} : Config).fallbackEntryName scan.body = e at scanned
  have named : e.name = "Real" := by rw [← name, scanned.entryName, located]
  have stripped : s.body.toList = Entry.stripExports e.body := by rw [scanned.body, located]
  rw [body] at located
  -- where the styles are rewritten, the entry is still exported behind the constant
  have place := exportsAt_behind (StyleIsland.normalize (line payload).toList)
  have free : '>' ∉ "\nexport default ".toList ++ entry.toList := by decide
  rw [← StyleIsland.normalize_append free (line payload).toList, ← page_parts] at place
  obtain ⟨before, tail, place, exposes⟩ :=
    (Entry.locate_cases ({} : Config).fallbackEntryName _).resolve_right fun none => none.1 _ _ place
  rw [located] at exposes
  -- the constant weighs one less than the page, and so does the entry's body at most
  have heavy : weight (line payload).toList ≤ weight s.body.toList := inside.sublist.countP_le
  have strips := Entry.lightening_stripExports.le e.body
  have lighter := exposes.lighter place (named ▸ other.symm)
  have page := weight_page payload
  rw [stripped] at heavy
  have styles := (StyleIsland.normalize_eq (Literal.page payload).toList).resolve_right (by omega)
  rw [styles] at bound effect place lighter
  obtain ⟨exportless, -⟩ := Entry.lightening_stripExports.alone (s := e.body) (by omega)
  rcases exposed_body place exposes named other with whole | ⟨front, rest⟩
  · exact ⟨styles, bound, effect, whole ▸ exportless⟩
  · exact absurd (rest ▸ exportless) (not_exportless front)

/-- A literal that a page begins with is kept, and its entry is found, exactly if no pass finds
anything else in the page, whatever the literal holds. -/
theorem kept_iff_untouched (payload : String) :
    (∃ s, Sanitized.ofSource {} (page payload) = .ok s ∧ s.entryName = "Real" ∧ s.references = [] ∧
      s.standIns = "" ∧ (line payload).toList <:+: s.body.toList) ↔ Untouched payload := by
  constructor
  · rintro ⟨s, made, name, none, -, inside⟩
    exact untouched_of_kept made name none inside
  · intro untouched
    refine ⟨_, untouched.ofSource, rfl, rfl, rfl, [], '\n' :: entry.toList, ?_⟩
    dsimp only
    rw [kept_parts, List.append_assoc, List.append_assoc]
    rfl

/-- An import inside of the literal is taken for an import of the page, and is cut. -/
theorem kept_not_imported :
    let payload := "\nimport a from 'b';\n"
    (∀ c ∈ payload.toList, c ≠ '\x60' ∧ c ≠ '\\' ∧ c ≠ '$') ∧
    ∃ s, Sanitized.ofSource {} (page payload) = .ok s ∧ s.entryName = "Real" ∧
      s.references.length = 1 ∧ s.standIns ≠ "" ∧ ¬(line payload).toList <:+: s.body.toList := by
  have made : (Sanitized.ofSource {} (page "\nimport a from 'b';\n")).toOption.map
      (fun s => (s.entryName, s.references.length, s.standIns, s.body)) = some ("Real", 1,
        "\nconst a = function () \x7b return null; \x7d;\n",
        "const t = \x60\n\n\x60;\nfunction Real() \x7b return t; \x7d\n") := by
    decide +kernel
  have plain : "\nimport a from 'b';\n".toList.all (fun c => decide (c ≠ '\x60' ∧ c ≠ '\\' ∧ c ≠ '$')) = true := by
    decide
  refine ⟨fun c mem => of_decide_eq_true (List.all_eq_true.mp plain c mem), ?_⟩
  cases h : Sanitized.ofSource {} (page "\nimport a from 'b';\n") with
  | error e => simp [h, Except.toOption] at made
  | ok s =>
    simp only [h, Except.toOption, Option.map_some, Option.some.injEq, Prod.mk.injEq] at made
    obtain ⟨name, references, standIns, body⟩ := made
    refine ⟨s, rfl, name, references, by rw [standIns]; decide, ?_⟩
    rw [body]
    decide +kernel

end Literal

end PagePreview
