import PagePreview.Proofs.Entry
import PagePreview.Proofs.StandIn
import PagePreview.Sanitized

/-!
# What is left in a sanitized text

A sanitized text should hold no import declaration and no module-export syntax at the start of a
line. The passes read a statement only where it stands at the start of a line that ends with a line
feed, indented by spaces and tabs, and fills its lines. So a line that begins a statement is left
exactly if the statement does not have that form, as one with a comment behind it has not.
-/

namespace PagePreview
open Text Matcher Statement
open Reference (isClauseChar)

namespace Statement

def IsClause (clause : List Char) : Prop :=
  ∃ gap c rest, clause = gap ++ c :: rest ∧ Blank gap ∧
    (c = '\x7b' ∨ c = '*' ∨ gap ≠ [] ∧ isDeclaredRest c = true) ∧
    (∀ d ∈ clause, isClauseChar d = true) ∧ clause.getLast?.any isDeclaredRest = false

/-- The text begins with an import declaration or with module-export syntax, whatever follows. -/
inductive Begins : List Char → Prop
  | effect {gap s name rest : List Char} :
    Blank gap → Quoted s name rest → Begins ("import".toList ++ (gap ++ s))
  | bound {clause gap s name rest : List Char} :
    IsClause clause → Blank gap → Quoted s name rest →
    Begins ("import".toList ++ (clause ++ ("from".toList ++ (gap ++ s))))
  | default {gap rest : List Char} :
    Blank gap → gap ≠ [] → rest.head?.any isWord = false →
    Begins ("export".toList ++ (gap ++ ("default".toList ++ rest)))
  | declaration {gap rest : List Char} {w : String} :
    Blank gap → gap ≠ [] → w ∈ Entry.declarationWords → rest.head?.any isWord = false →
    Begins ("export".toList ++ (gap ++ (w.toList ++ rest)))
  | list {gap rest : List Char} : Blank gap → Begins ("export".toList ++ (gap ++ '\x7b' :: rest))
  | star {gap rest : List Char} : Blank gap → Begins ("export".toList ++ (gap ++ '*' :: rest))

/-- Wherever a line starts, whichever way the line before it ends, no statement begins. -/
def Clean (s : List Char) : Prop :=
  ∀ before after, s = before ++ after → (lastOr none before).all isBreak = true →
    ¬Begins (dropIndent after)

theorem Begins.keyword {s : List Char} (h : Begins s) : Keyword s := by
  cases h with
  | effect hg quoted => exact ⟨_, _, .inl rfl, rfl, head?_of_gap hg quoted.head?⟩
  | bound clause hg quoted =>
    obtain ⟨gap, c, rest, rfl, hgap, first, -⟩ := clause
    refine ⟨_, _, .inl rfl, rfl, ?_⟩
    rw [List.append_assoc]
    rcases first with rfl | rfl | ⟨some, -⟩
    · exact head?_of_gap hgap rfl
    · exact head?_of_gap hgap rfl
    · exact head?_of_blanks some hgap
  | default hg some _ => exact ⟨_, _, .inr rfl, rfl, head?_of_blanks some hg⟩
  | declaration hg some _ _ => exact ⟨_, _, .inr rfl, rfl, head?_of_blanks some hg⟩
  | list hg => exact ⟨_, _, .inr rfl, rfl, head?_of_gap hg rfl⟩
  | star hg => exact ⟨_, _, .inr rfl, rfl, head?_of_gap hg rfl⟩

theorem Begins.headed {s : List Char} (h : Begins (dropIndent s)) : Headed s := by
  have indent : ∀ c ∈ s.takeWhile fun c => isBlank c && !isBreak c,
      isBlank c = true ∧ isBreak c = false := by
    intro c hc
    simpa using List.all_eq_true.mp List.all_takeWhile c hc
  refine ⟨_, dropIndent s, List.takeWhile_append_dropWhile.symm, ⟨fun c hc => (indent c hc).1, ?_⟩,
    h.keyword⟩
  intro member
  exact absurd (indent _ member).2 (by decide)

theorem Begins.isKeyed {s : List Char} (h : Begins (dropIndent s)) : isKeyed s = true := by
  obtain ⟨w, rest, hw, parts, -⟩ := h.keyword
  unfold Text.isKeyed
  rw [Bool.or_eq_true, startsWith_iff, startsWith_iff]
  rcases hw with rfl | rfl
  · exact .inl ⟨rest, parts⟩
  · exact .inr ⟨rest, parts⟩

theorem clean_append {s : List Char} (hs : StandIn.QuietLines s) (t : List Char) :
    Clean (s ++ t) ↔ Clean t := by
  constructor
  · rintro clean before after rfl line begins
    refine clean (s ++ before) after (List.append_assoc _ _ _).symm ?_ begins
    rw [lastOr_append]
    cases before with
    | cons c before => exact line
    | nil =>
      rcases hs.ends with rfl | ends
      · rfl
      · obtain ⟨front, rfl⟩ := List.getLast?_eq_some_iff.mp ends
        rw [lastOr_nil, lastOr_append]
        rfl
  · intro clean before after parts line begins
    rcases List.append_eq_append_iff.mp parts with ⟨rest, rfl, rfl⟩ | ⟨rest, rfl, rfl⟩
    · refine clean rest after rfl ?_ begins
      cases rest with
      | nil => rfl
      | cons c rest => rwa [lastOr_append] at line
    · rcases eq_or_ne rest [] with rfl | some
      · exact clean [] t rfl rfl begins
      · have breaks : ∃ c ∈ rest, isBreak c = true := by
          rcases hs.ends with ends | ends
          · exact absurd (List.append_eq_nil_iff.mp ends).2 some
          · obtain ⟨last, hlast⟩ := Option.ne_none_iff_exists'.mp (mt List.getLast?_eq_none_iff.mp some)
            rw [List.getLast?_append, hlast] at ends
            obtain rfl := Option.some.inj ends
            exact ⟨_, List.mem_of_getLast? hlast, rfl⟩
        have keyed := begins.isKeyed
        rw [isKeyed_append breaks, isKeyed_of_isQuiet hs.quiet line (fun _ => rfl) some] at keyed
        cases keyed

end Statement

theorem Scan.ofSource_body {config : Config} {source : List Char} {scan : Scan}
    (h : ofSource config source = .ok scan) :
    scan.body = (Reference.onLines Reference.effectImport).erase
      ((Reference.onLines Reference.boundImport).erase source) := by
  obtain ⟨references, -, h⟩ := ok_of_bind h
  obtain rfl := Except.ok.inj h
  rfl

theorem Scan.body_free {config : Config} {source : List Char} {scan : Scan}
    (h : ofSource config source = .ok scan) : Free Imported scan.body := by
  rw [ofSource_body h]
  have bound := (boundImport_edited source).free_own form_bound
  have effect := effectImport_edited ((Reference.onLines Reference.boundImport).erase source)
  rintro t line (whole | whole)
  · exact effect.free form_bound bound t line whole
  · exact effect.free_own form_effect t line whole

theorem Scan.body_tidy {config : Config} {source : List Char} {scan : Scan}
    (h : ofSource config source = .ok scan) {P : List Char → Prop} (hP : Form P)
    (tidy : Tidy P source) : Tidy P scan.body := by
  rw [ofSource_body h]
  exact (effectImport_edited _).tidy hP ((boundImport_edited source).tidy hP tidy)

theorem Scan.body_noReturn {config : Config} {source : List Char} {scan : Scan}
    (h : ofSource config source = .ok scan) (none : '\r' ∉ source) : '\r' ∉ scan.body := by
  rw [ofSource_body h]
  exact (effectImport_edited _).noReturn ((boundImport_edited source).noReturn none)

namespace Entry

theorem stripExports_free {P : List Char → Prop} (hP : Form P) {s : List Char} (h : Free P s) :
    Free P (stripExports s) :=
  (leftoverDefault_edited _).free hP ((exportDeclaration_edited _).free hP
    ((exportStar_edited _).free hP ((exportList_edited s).free hP h)))

theorem stripExports_tidy {P : List Char → Prop} (hP : Form P) {s : List Char} (h : Tidy P s) :
    Tidy P (stripExports s) :=
  (leftoverDefault_edited _).tidy hP ((exportDeclaration_edited _).tidy hP
    ((exportStar_edited _).tidy hP ((exportList_edited s).tidy hP h)))

theorem stripExports_noReturn {s : List Char} (h : '\r' ∉ s) : '\r' ∉ stripExports s :=
  (leftoverDefault_edited _).noReturn ((exportDeclaration_edited _).noReturn
    ((exportStar_edited _).noReturn ((exportList_edited s).noReturn h)))

theorem stripExports_exported (s : List Char) : Free Exported (stripExports s) := by
  have list := (exportList_edited s).free_own form_exportList
  have star := (exportStar_edited (exportList.erase s)).free_own form_star
  have declaration := (exportDeclaration_edited (exportStar.erase (exportList.erase s))).free_own
    form_declaration
  rintro t line (whole | whole | whole | whole)
  · exact (leftoverDefault_edited _).free form_exportList ((exportDeclaration_edited _).free
      form_exportList ((exportStar_edited _).free form_exportList list)) t line whole
  · exact (leftoverDefault_edited _).free form_star
      ((exportDeclaration_edited _).free form_star star) t line whole
  · exact (leftoverDefault_edited _).free form_declaration declaration t line whole
  · exact (leftoverDefault_edited _).free_own form_default t line whole

end Entry

namespace Sanitized

def scanned (source : String) : List Char :=
  StyleIsland.normalize (Entry.stripClientDirective source.toList)

/-- Whether an entry was found, and can be bound to the fallback name: what is located then leaves
the other lines as they are. -/
def keepsLines (config : Config) (s : Sanitized) : Bool :=
  isPlainName config.fallbackEntryName.toList && s.entryForm != .fabricated

/-- A line of the body that begins a statement and is not of a form that the passes read. Imports
are cut before the entry is located. -/
def Stray (config : Config) (s : Sanitized) (before after : List Char) : Prop :=
  (lastOr none before).all isBreak = true ∧ Begins (dropIndent after) ∧
    ¬(startsLine (lastOr none before) = true ∧
      (Exported after ∨ keepsLines config s = true ∧ Imported after))

structure Scanned (config : Config) (scan : Scan) (s : Sanitized) : Prop where
  standIns : s.standIns =
    StandIn.runtimeBindings scan.runtimeBindings ++ StandIn.prelude config scan.symbols
  body : s.body.toList =
    Entry.stripExports (Entry.locate config.fallbackEntryName scan.body).body
  entryName : s.entryName = (Entry.locate config.fallbackEntryName scan.body).name
  entryForm : s.entryForm = (Entry.locate config.fallbackEntryName scan.body).form
  references : s.references = scan.references

theorem ofSource_scanned {config : Config} {source : String} {s : Sanitized}
    (h : ofSource config source = .ok s) :
    ∃ scan, Scan.ofSource config (scanned source) = .ok scan ∧ Scanned config scan s := by
  obtain ⟨scan, hscan, h⟩ := ok_of_bind h
  unfold Entry.extract at h
  dsimp only at h
  obtain rfl := Except.ok.inj h
  exact ⟨scan, hscan, rfl, String.toList_ofList, rfl, rfl, rfl⟩

theorem standIns_quiet {config : Config} {source : String} {s : Sanitized}
    (h : ofSource config source = .ok s) : StandIn.QuietLines s.standIns.toList := by
  obtain ⟨scan, hscan, made⟩ := ofSource_scanned h
  rw [made.standIns, String.toList_append]
  exact (StandIn.runtimeBindings_quiet (Scan.runtimeBindings_plain hscan)).append
    (StandIn.prelude_quiet config (Scan.symbols_plain hscan))

theorem Scanned.located {config : Config} {scan : Scan} {s : Sanitized}
    (made : Scanned config scan s) (keeps : keepsLines config s = true) :
    Edited (fun _ => False) none scan.body
      (Entry.locate config.fallbackEntryName scan.body).body := by
  rw [keepsLines, Bool.and_eq_true, made.entryForm, bne_iff_ne] at keeps
  exact locate_edited keeps.1 scan.body keeps.2

theorem body_free {config : Config} {source : String} {s : Sanitized}
    (h : ofSource config source = .ok s) :
    Free (fun t => Exported t ∨ keepsLines config s = true ∧ Imported t) s.body.toList := by
  obtain ⟨scan, hscan, made⟩ := ofSource_scanned h
  rw [made.body]
  rintro t line (whole | ⟨keeps, whole⟩)
  · exact Entry.stripExports_exported _ t line whole
  · have located := (made.located keeps).free form_imported (Scan.body_free hscan)
    exact Entry.stripExports_free form_imported located t line whole

theorem clean_iff_no_stray {config : Config} {source : String} {s : Sanitized}
    (h : ofSource config source = .ok s) :
    Clean s.text.toList ↔
      ∀ before after, s.body.toList = before ++ after → ¬Stray config s before after := by
  rw [text, String.toList_append, clean_append (standIns_quiet h)]
  constructor
  · rintro clean before after parts ⟨line, begins, -⟩
    exact clean before after parts line begins
  · intro none before after parts line begins
    refine none before after parts ⟨line, begins, ?_⟩
    rintro ⟨start, whole⟩
    exact body_free h after ⟨before, parts, start⟩ whole

theorem clean_of_tidy {config : Config} {source : String} {s : Sanitized}
    (h : ofSource config source = .ok s) (keeps : keepsLines config s = true)
    (none : '\r' ∉ scanned source)
    (tidy : Tidy (fun t => Exported t ∨ Imported t) (scanned source)) : Clean s.text.toList := by
  obtain ⟨scan, hscan, made⟩ := ofSource_scanned h
  have form := form_exported.or form_imported
  have located := made.located keeps
  have tidy' : Tidy (fun t => Exported t ∨ Imported t) s.body.toList := by
    rw [made.body]
    exact Entry.stripExports_tidy form (located.tidy form (Scan.body_tidy hscan form tidy))
  have none' : '\r' ∉ s.body.toList := by
    rw [made.body]
    exact Entry.stripExports_noReturn (located.noReturn (Scan.body_noReturn hscan none))
  rw [clean_iff_no_stray h]
  rintro before after parts ⟨line, begins, unread⟩
  have start : startsLine (lastOr Option.none before) = true := by
    rcases before.eq_nil_or_concat with rfl | ⟨front, c, rfl⟩
    · rfl
    · rw [List.concat_eq_append] at line parts ⊢
      have hc : c ≠ '\r' := fun same => none' (by simp [parts, same])
      rw [lastOr_append] at line ⊢
      simpa [startsLine, isBreak, hc] using line
  refine unread ⟨start, ?_⟩
  exact (tidy' after ⟨before, parts, start⟩ begins.headed).imp_right fun whole => ⟨keeps, whole⟩

/-- A sanitized text is clean exactly if its body has no stray line. That is so if an entry is found,
lines end with line feeds, and every line of the source that is headed by `import` or `export` has
one of the forms that the passes read. -/
theorem text_clean (config : Config) (source : String) (s : Sanitized)
    (h : ofSource config source = .ok s) :
    (Clean s.text.toList ↔
      ∀ before after, s.body.toList = before ++ after → ¬Stray config s before after) ∧
    (keepsLines config s = true → '\r' ∉ scanned source →
      Tidy (fun t => Exported t ∨ Imported t) (scanned source) → Clean s.text.toList) :=
  ⟨clean_iff_no_stray h, clean_of_tidy h⟩

theorem text_clean_whole_lines :
    let source := "import './a.css';\nexport default function P() \x7b return null; \x7d\n"
    ∃ s, ofSource {} source = .ok s ∧
      s.text = "\nfunction P() \x7b return null; \x7d\n" ∧ Clean s.text.toList := by
  intro source
  have made : (ofSource {} source).toOption.map (fun s => (s.text, keepsLines {} s)) =
      some ("\nfunction P() \x7b return null; \x7d\n", true) := by
    decide +kernel
  have scan : scanned source = "import './a.css';".toList ++ '\n' ::
      ("export default function P() \x7b return null; \x7d".toList ++ '\n' :: []) := by
    decide +kernel
  have none : '\r' ∉ scanned source := by
    rw [scan]
    decide +kernel
  have effect : EffectLine "import './a.css';".toList :=
    ⟨[], [' '], '\'' :: ("./a.css".toList ++ '\'' :: [';']), "./a.css".toList, [';'], by decide,
      by simp [InlineBlank], List.all_eq_true.mp (by decide), ⟨'\'', '\'', rfl, rfl, rfl, List.all_eq_true.mp (by decide)⟩,
      by decide, [], [';'], [], rfl, by simp [InlineBlank], by simp [InlineBlank], .inr rfl⟩
  have default : DefaultLine "export default function P() \x7b return null; \x7d".toList :=
    ⟨[], [' '], ' ', "function P() \x7b return null; \x7d".toList, by decide,
      by simp [InlineBlank], List.all_eq_true.mp (by decide), by simp, rfl⟩
  have tidy : Tidy (fun t => Exported t ∨ Imported t) (scanned source) := by
    rw [scan]
    refine tidy_line (by decide) ?_ (tidy_line (by decide) ?_ (tidy_nil _))
    · refine .inr (.inr ?_)
      rw [Effect, firstLine_append (by decide)]
      exact effect
    · refine .inl (.inr (.inr (.inr ?_)))
      rw [Default, firstLine_append (by decide)]
      exact default
  cases h : ofSource {} source with
  | error e => simp [h, Except.toOption] at made
  | ok s =>
    obtain ⟨text, keeps⟩ : s.text = "\nfunction P() \x7b return null; \x7d\n" ∧
        keepsLines {} s = true := by
      simpa [h, Except.toOption] using made
    exact ⟨s, rfl, text, (text_clean {} source s h).2 keeps none tidy⟩

/-- A comment behind an import keeps the import in the text. -/
theorem text_not_clean_commented :
    let source := "import './a.css'; // styles\nexport default function P() \x7b return null; \x7d\n"
    ∃ s, ofSource {} source = .ok s ∧
      s.text = "import './a.css'; // styles\nfunction P() \x7b return null; \x7d\n" ∧
      ¬Clean s.text.toList := by
  intro source
  have made : (ofSource {} source).toOption.map (·.text) =
      some "import './a.css'; // styles\nfunction P() \x7b return null; \x7d\n" := by
    decide +kernel
  cases h : ofSource {} source with
  | error e => simp [h, Except.toOption] at made
  | ok s =>
    have text : s.text = "import './a.css'; // styles\nfunction P() \x7b return null; \x7d\n" := by
      simpa [h, Except.toOption] using made
    have shape : dropIndent s.text.toList = "import".toList ++ ([' '] ++ ('\'' ::
        ("./a.css".toList ++ '\'' ::
          "; // styles\nfunction P() \x7b return null; \x7d\n".toList))) := by
      rw [text]
      decide +kernel
    refine ⟨s, rfl, text, fun clean => clean [] s.text.toList rfl rfl ?_⟩
    rw [shape]
    exact .effect (List.all_eq_true.mp (by decide)) ⟨'\'', '\'', rfl, rfl, rfl,
      List.all_eq_true.mp (by decide)⟩

end Sanitized
end PagePreview
