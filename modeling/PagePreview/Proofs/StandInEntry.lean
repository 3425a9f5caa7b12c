import PagePreview.Proofs.Guess
import PagePreview.Proofs.StandIn
import PagePreview.Proofs.Resanitized
import PagePreview.Proofs.Sections

/-!
# Stand-ins in front of a page

The stand-ins are put in front of a page before its entry is read. No line of them begins as a
module export, and no guess opens in them, whatever the page binds and whatever it is called: so the
entry of the whole is the entry of the page.
-/

namespace PagePreview
open Text Matcher Statement

variable {α β : Type} {m : Matcher α} {front body s : List Char}

def IgnoresBehind (m : Matcher α) : Prop := ∀ b b' s, m ⟨b, s⟩ = m ⟨b', s⟩

def StartsAlike (m : Matcher α) : Prop := ∀ s, m ⟨some '\n', s⟩ = m ⟨none, s⟩

theorem ignoresBehind_text {w : String} (some : w.toList ≠ []) {f : Unit → Matcher β} :
    IgnoresBehind (text w >>= f) := by
  intro b b' s
  obtain ⟨c, letters, parts⟩ := List.exists_cons_of_ne_nil some
  have same : text w ⟨b, s⟩ = text w ⟨b', s⟩ := by
    rw [text, parts]
    rfl
  change (text w ⟨b, s⟩).flatMap _ = (text w ⟨b', s⟩).flatMap _
  rw [same]

theorem ignoresBehind_most {test : Char → Bool} {f : Span → Matcher β}
    (hf : ∀ x, IgnoresBehind (f x)) : IgnoresBehind (most test >>= f) := by
  intro b b' s
  have runs : ∃ ends, ∀ b, runs test b s = ⟨b, s⟩ :: ends := by
    cases s with
    | nil => exact ⟨[], fun _ => rfl⟩
    | cons c s => exact ⟨_, fun _ => rfl⟩
  obtain ⟨ends, runs⟩ := runs
  change (spans ⟨b, s⟩ (Matcher.runs test b s).reverse).flatMap _ =
    (spans ⟨b', s⟩ (Matcher.runs test b' s).reverse).flatMap _
  simp only [runs, spans, List.reverse_cons, List.map_append, List.flatMap_append, List.map_cons,
    List.map_nil, List.flatMap_cons, List.flatMap_nil, List.append_nil]
  rw [hf ⟨s, s⟩ b b' s]

theorem startsAlike_here {test : Place → Bool} {f : Unit → Matcher β}
    (same : ∀ s, test ⟨some '\n', s⟩ = test ⟨none, s⟩) (hf : IgnoresBehind (f ())) :
    StartsAlike (here test >>= f) := by
  intro s
  change (here test ⟨some '\n', s⟩).flatMap _ = (here test ⟨none, s⟩).flatMap _
  unfold here
  rw [same s]
  split
  · simpa using hf _ _ s
  · rfl

theorem StartsAlike.bind (h : StartsAlike m) (f : α → Matcher β) : StartsAlike (m >>= f) := by
  intro s
  change (m ⟨some '\n', s⟩).flatMap _ = (m ⟨none, s⟩).flatMap _
  rw [h s]

theorem StartsAlike.search? (h : StartsAlike m) (s : List Char) :
    m.search? (some '\n') s = m.search? none s := by
  cases s with
  | nil => simp only [Matcher.search?, first?, h []]
  | cons c s => simp only [Matcher.search?, first?, h (c :: s)]

theorem StartsAlike.piecesFrom (h : StartsAlike m) (s : List Char) :
    m.piecesFrom 0 (some '\n') s = m.piecesFrom 0 none s := by
  cases s with
  | nil => rfl
  | cons c s => simp only [Matcher.piecesFrom, first?, h (c :: s)]

def ReadOver (m : Matcher α) (s : List Char) : Prop :=
  ∀ before after, s = before ++ after → after ≠ [] → ∀ t, m ⟨lastOr none before, after ++ t⟩ = []

theorem ReadOver.bind (h : ReadOver m s) (f : α → Matcher β) : ReadOver (m >>= f) s := by
  intro before after parts some t
  change (m _).flatMap _ = []
  rw [h before after parts some t]
  rfl

theorem ReadOver.first? (h : ReadOver m front) {before after : List Char}
    (parts : front = before ++ after) (some : after ≠ []) (t : List Char) :
    m.first? ⟨lastOr none before, after ++ t⟩ = none := by
  rw [Matcher.first?, h before after parts some t]
  rfl

def Lines (s : List Char) : Prop := s = [] ∨ s.getLast? = some '\n'

theorem ReadOver.find? (h : ReadOver m front) (alike : StartsAlike m) (lines : Lines front)
    (body : List Char) :
    m.find? (front ++ body) = (m.find? body).map fun f => { f with skipped := front ++ f.skipped } := by
  rw [Matcher.find?, search?_skip fun _ _ parts some => h.first? parts some body]
  rcases lines with rfl | ends
  · rfl
  · rw [lastOr_of_break ends, alike.search?]
    rfl

theorem ReadOver.pieces (h : ReadOver m front) (alike : StartsAlike m) (lines : Lines front)
    (body : List Char) : m.pieces (front ++ body) = front.map .kept ++ m.pieces body := by
  rw [Matcher.pieces, piecesFrom_kept fun _ _ parts some => h.first? parts some body]
  rcases lines with rfl | ends
  · rfl
  · rw [lastOr_of_break ends, alike.piecesFrom]
    rfl

namespace Entry

theorem lineExportDefault_alike : StartsAlike lineExportDefault :=
  startsAlike_here (fun _ => rfl) (ignoresBehind_most fun _ => ignoresBehind_text (by decide))

theorem constDeclaration_alike : StartsAlike constDeclaration :=
  startsAlike_here (fun _ => rfl) (ignoresBehind_text (by decide))

theorem functionDeclaration_alike : StartsAlike functionDeclaration :=
  startsAlike_here (fun _ => rfl) (ignoresBehind_text (by decide))

theorem lineExportDefault_readOver (quiet : StandIn.QuietLines front) :
    ReadOver lineExportDefault front := by
  rintro before after rfl some t
  refine List.eq_nil_iff_forall_not_mem.mpr fun ⟨u, q⟩ way => ?_
  obtain ⟨start, indent, run, hi, begins, -⟩ := lineLed (fun _ => exportDefault_beginsWith) _ u q way
  have breaks : ∃ c ∈ after, isBreak c = true := by
    have ends := quiet.ends.resolve_left (by simp [some])
    rw [List.getLast?_append_of_ne_nil _ some] at ends
    exact ⟨_, List.mem_of_getLast? ends, rfl⟩
  have keyed : isKeyed (indent ++ ("export".toList ++ (run ++ q.ahead))) = true :=
    isKeyed_of_word hi (.inr rfl)
  rw [← begins, isKeyed_append breaks, isKeyed_of_isQuiet quiet.quiet
    (all_isBreak_of_startsLine start) (fun _ => rfl) some] at keyed
  cases keyed

theorem Passed.constDeclaration (h : Passed front) : ReadOver constDeclaration front := by
  intro before after parts some t
  refine List.eq_nil_iff_forall_not_mem.mpr fun ⟨x, q⟩ way => ?_
  obtain ⟨_, p, here, way⟩ := mem_bind.mp (constDeclaration_eq ▸ way)
  obtain ⟨-, rfl⟩ := mem_here.mp here
  exact h before after parts some t (constGuess_reads way)

theorem Passed.functionDeclaration (h : Passed front) : ReadOver functionDeclaration front := by
  intro before after parts some t
  refine List.eq_nil_iff_forall_not_mem.mpr fun ⟨x, q⟩ way => ?_
  obtain ⟨_, p, here, way⟩ := mem_bind.mp (functionDeclaration_eq ▸ way)
  obtain ⟨-, rfl⟩ := mem_here.mp here
  exact h before after parts some t (functionGuess_reads way)

theorem extract_name (fallback : String) (body : List Char) :
    (extract fallback body).name = (locate fallback body).name := by
  unfold extract
  rfl

theorem extract_form (fallback : String) (body : List Char) :
    (extract fallback body).form = (locate fallback body).form := by
  unfold extract
  rfl

def behind (front : List Char) (entry : Entry) : Entry := { entry with body := front ++ entry.body }

section Behind

variable (quiet : StandIn.QuietLines front) (passed : Passed front)

include quiet

theorem dropExport?_behind (declared : Matcher Span) (body : List Char) :
    dropExport? (exportedDeclaration declared) (front ++ body) =
      (dropExport? (exportedDeclaration declared) body).map fun found => (front ++ found.1, found.2) := by
  have readOver : ReadOver (exportedDeclaration declared) front :=
    (lineExportDefault_readOver quiet).bind _
  have alike : StartsAlike (exportedDeclaration declared) := lineExportDefault_alike.bind _
  rw [dropExport?, readOver.find? alike quiet.ends, dropExport?, Option.map_map, Option.map_map]
  congr 1
  funext f
  simp

theorem dropFirst?_behind (test : Span → Bool) (body : List Char) :
    dropFirst? test (defaultIdentifier.pieces (front ++ body)) =
      (dropFirst? test (defaultIdentifier.pieces body)).map fun found => (found.1, front ++ found.2) := by
  have readOver : ReadOver defaultIdentifier front := (lineExportDefault_readOver quiet).bind _
  have alike : StartsAlike defaultIdentifier := lineExportDefault_alike.bind _
  rw [readOver.pieces alike quiet.ends, dropFirst?_kept]

theorem bindAnonymous?_behind (fallback : String) (body : List Char) :
    bindAnonymous? fallback (front ++ body) = (bindAnonymous? fallback body).map (behind front) := by
  rw [bindAnonymous?, (lineExportDefault_readOver quiet).find? lineExportDefault_alike quiet.ends,
    bindAnonymous?, Option.map_map, Option.map_map]
  congr 1
  funext f
  simp [behind]

include passed

theorem locate_behind (fallback : String) (body : List Char) :
    (locate fallback (front ++ body)).name = (locate fallback body).name ∧
      (locate fallback (front ++ body)).form = (locate fallback body).form := by
  have function : dropExport? defaultFunction (front ++ body) =
      (dropExport? defaultFunction body).map fun found => (front ++ found.1, found.2) :=
    dropExport?_behind quiet functionHead body
  have classes : dropExport? defaultClass (front ++ body) =
      (dropExport? defaultClass body).map fun found => (front ++ found.1, found.2) :=
    dropExport?_behind quiet classHead body
  unfold locate
  rw [function, dropFirst?_behind quiet, classes, bindAnonymous?_behind quiet,
    passed.constDeclaration.find? constDeclaration_alike quiet.ends,
    passed.functionDeclaration.find? functionDeclaration_alike quiet.ends]
  -- the first form that applies is the same in both
  cases dropExport? defaultFunction body with
  | some found => exact ⟨rfl, rfl⟩
  | none =>
    cases dropFirst? isBindingName (defaultIdentifier.pieces body) with
    | some found => exact ⟨rfl, rfl⟩
    | none =>
      cases dropExport? defaultClass body with
      | some found => exact ⟨rfl, rfl⟩
      | none =>
        cases bindAnonymous? fallback body with
        | some entry => exact ⟨rfl, rfl⟩
        | none =>
          cases constDeclaration.find? body with
          | some found => exact ⟨rfl, rfl⟩
          | none => cases functionDeclaration.find? body <;> exact ⟨rfl, rfl⟩

end Behind

end Entry

namespace StandIn
open Entry

theorem helper_passed {s : List Char} (const : constGuess.occurs s = false)
    (function : functionGuess.occurs s = false) (ends : s.getLast? = some ';') :
    Passed (s ++ ['\n']) :=
  (unguessed_of_occurs const function).passed ends

theorem fixedHelpers_passed : ∀ s ∈ fixedHelpers, Passed (s.toList ++ ['\n']) := by
  intro s hs
  rcases mem_fixedHelpers.mp hs with rfl | rfl | rfl | rfl | rfl | rfl
  · rw [componentHelper, toList_script, String.toList_ofList]
    exact helper_passed (by decide +kernel) (by decide +kernel) (by decide +kernel)
  · rw [hookHelper, toList_script, String.toList_ofList]
    exact helper_passed (by decide +kernel) (by decide +kernel) (by decide +kernel)
  · rw [namespaceHelper, toList_script, String.toList_ofList]
    exact helper_passed (by decide +kernel) (by decide +kernel) (by decide +kernel)
  · rw [iconHelper, toList_script, String.toList_ofList]
    exact helper_passed (by decide +kernel) (by decide +kernel) (by decide +kernel)
  · rw [imageHelper, toList_script, String.toList_ofList]
    exact helper_passed (by decide +kernel) (by decide +kernel) (by decide +kernel)
  · rw [linkHelper, toList_script, String.toList_ofList]
    exact helper_passed (by decide +kernel) (by decide +kernel) (by decide +kernel)

theorem free_of_isPlain {name : String} (plain : IsPlain name) : '(' ∉ name.toList := by
  obtain ⟨c, rest, parts, start, others⟩ := declared_of_isPlainName plain
  rw [parts, List.mem_cons, not_or]
  exact ⟨fun same => absurd (same ▸ start) (by decide),
    fun member => absurd (others _ member) (by decide)⟩

theorem hexDigit_ne {n : Nat} (h : n < 16) : hexDigit n ≠ '(' := by
  have table : ∀ n < 16, hexDigit n ≠ '(' := by decide
  exact table n h

theorem quoteChar_free {c : Char} (h : c ≠ '(') : '(' ∉ quoteChar c := by
  unfold quoteChar
  split_ifs with quote slash feed return_ tab back form control
  · decide
  · decide
  · decide
  · decide
  · decide
  · decide
  · decide
  · have high : hexDigit (c.toNat / 16) ≠ '(' := hexDigit_ne (by omega)
    have low : hexDigit (c.toNat % 16) ≠ '(' := hexDigit_ne (by omega)
    simp [high.symm, low.symm]
  · simpa using Ne.symm h

theorem quoted_free {s : String} (free : '(' ∉ s.toList) : '(' ∉ (quoted s).toList := by
  rw [quoted, String.toList_ofList, quote]
  simp only [List.cons_append, List.mem_cons, List.mem_append, List.mem_flatMap, not_or, not_exists,
    not_and]
  exact ⟨by decide, fun c hc => quoteChar_free fun same => free (same ▸ hc), by decide, by simp⟩

theorem harmless_of_prefix {opening s : List Char} (const : constGuess.occurs opening = false)
    (function : functionGuess.occurs opening = false)
    (opens : opening.head?.any (fun c => !isBlank c && c != '(') = true) (free : '(' ∉ s) :
    Harmless (opening ++ s) := by
  refine ⟨(unguessed_of_occurs const function).append_free free, ?_⟩
  cases opening with
  | nil => cases opens
  | cons c opening =>
    rw [List.head?_cons, Option.any_some, Bool.and_eq_true] at opens
    exact ⟨c, opening ++ s, rfl, by simpa using opens.1, by simpa using opens.2⟩

theorem glyph_free : ∀ glyph ∈ Icon.glyphs, '(' ∉ glyph.2.toList := by
  simp only [Icon.glyphs, List.forall_mem_cons, String.toList_append, List.mem_append, not_or]
  repeat' apply And.intro
  all_goals first
    | rw [String.toList_ofList]; decide
    | simp

theorem path_free {name path : String} (h : Icon.path? name = some path) : '(' ∉ path.toList := by
  have drawn : ∀ {name : List Char}, Icon.glyph? name = some path → '(' ∉ path.toList := by
    intro name found
    obtain ⟨before, after, parts, -⟩ := List.lookup_eq_some_iff.mp found
    exact glyph_free (String.ofList name, path) (by simp [parts])
  rcases Option.or_eq_some_iff.mp h with found | ⟨-, found⟩
  · exact drawn found
  · exact drawn found

theorem iconPathValue_free (s : ClassifiedSymbol) : '(' ∉ (iconPathValue s).toList := by
  unfold iconPathValue
  split
  · rename_i path found
    rcases Option.or_eq_some_iff.mp found with found | ⟨-, found⟩
    · exact quoted_free (path_free found)
    · exact quoted_free (path_free found)
  · decide

theorem value_harmless {s : ClassifiedSymbol} (plain : IsPlain s.name) :
    Harmless (value s).toList := by
  have named : '(' ∉ (quoted s.name).toList := quoted_free (free_of_isPlain plain)
  have call : ∀ {f x : String}, constGuess.occurs f.toList = false →
      functionGuess.occurs f.toList = false →
      f.toList.head?.any (fun c => !isBlank c && c != '(') = true → '(' ∉ x.toList →
      Harmless (f ++ x ++ ")").toList := by
    intro f x const function opens free
    rw [String.toList_append, String.toList_append, List.append_assoc]
    refine harmless_of_prefix const function opens ?_
    rw [List.mem_append, not_or]
    exact ⟨free, by decide⟩
  have whole : ∀ {v : List Char}, constGuess.occurs v = false → functionGuess.occurs v = false →
      v.head?.any (fun c => !isBlank c && c != '(') = true → Harmless v := by
    intro v const function opens
    rw [← List.append_nil v]
    exact harmless_of_prefix const function opens (by simp)
  unfold value
  split
  · exact call (by decide +kernel) (by decide +kernel) (by decide +kernel) named
  · exact call (by decide +kernel) (by decide +kernel) (by decide +kernel) named
  · have parts : "__createIconStub(" ++ quoted s.name ++ ", " ++ iconPathValue s ++ ")" =
        "__createIconStub(" ++ (quoted s.name ++ ", " ++ iconPathValue s) ++ ")" := by
      simp only [String.append_assoc]
    rw [parts]
    refine call (by decide +kernel) (by decide +kernel) (by decide +kernel) ?_
    simp only [String.toList_append, List.mem_append, not_or]
    exact ⟨⟨named, by decide⟩, iconPathValue_free s⟩
  · exact call (by decide +kernel) (by decide +kernel) (by decide +kernel) named
  · exact whole (by decide +kernel) (by decide +kernel) (by decide +kernel)
  · exact whole (by decide +kernel) (by decide +kernel) (by decide +kernel)
  · rw [toList_script]
    exact whole (by decide +kernel) (by decide +kernel) (by decide +kernel)
  · rw [toList_script]
    exact whole (by decide +kernel) (by decide +kernel) (by decide +kernel)

theorem declare_passed {name value : String} (plain : IsPlain name) (hv : Harmless value.toList) :
    Passed ((declare name value).toList ++ ['\n']) := by
  have parts : (declare name value).toList =
      "const".toList ++ ([' '] ++ (name.toList ++ ([' '] ++ '=' :: ([' '] ++ value.toList)))) ++ [';'] := by
    simp [declare]
  obtain ⟨c, rest, named, start, others⟩ := declared_of_isPlainName plain
  rw [parts]
  refine ((unguessed_const ⟨c, rest, named, start, others⟩ hv).append_free (by decide)).passed ?_
  exact List.getLast?_concat

theorem lines_passed {texts : List String} (h : ∀ s ∈ texts, Passed (s.toList ++ ['\n'])) :
    Passed (lines texts).toList := by
  rcases eq_or_ne texts [] with rfl | some
  · exact passed_feed
  · rw [lines_toList some]
    exact passed_flatten (List.forall_mem_map.mpr h)

theorem harmless_quoted {s : String} (free : '(' ∉ s.toList) : Harmless (quoted s).toList := by
  refine ⟨unguessed_of_free (quoted_free free), ?_⟩
  rw [quoted, String.toList_ofList]
  exact ⟨'"', _, rfl, by decide, by decide⟩

theorem helpers_passed {config : Config} (image : '(' ∉ config.imagePlaceholderUrl.toList)
    (link : '(' ∉ config.linkPlaceholderHref.toList) (table : SymbolTable) :
    ∀ s ∈ helpers config table, Passed (s.toList ++ ['\n']) := by
  have needed : ∀ {p : Bool} {texts : List String} {s : String},
      (∀ t ∈ texts, Passed (t.toList ++ ['\n'])) → s ∈ (if p then texts else []) →
      Passed (s.toList ++ ['\n']) := by
    intro p texts s passed hs
    split at hs
    · exact passed s hs
    · cases hs
  have glyph : '(' ∉ Icon.defaultPath.toList := by decide
  intro s hs
  simp only [helpers, List.mem_append] at hs
  rcases hs with ((((hs | hs) | hs) | hs) | hs) | hs
  · exact needed (by simpa using fixedHelpers_passed componentHelper (by simp [mem_fixedHelpers])) hs
  · exact needed (by simpa using fixedHelpers_passed hookHelper (by simp [mem_fixedHelpers])) hs
  · exact needed (by simpa using fixedHelpers_passed namespaceHelper (by simp [mem_fixedHelpers])) hs
  · refine needed ?_ hs
    simpa using ⟨declare_passed (by unfold IsPlain; decide) (harmless_quoted glyph),
      fixedHelpers_passed iconHelper (by simp [mem_fixedHelpers])⟩
  · refine needed ?_ hs
    simpa using ⟨declare_passed (by unfold IsPlain; decide) (harmless_quoted image),
      fixedHelpers_passed imageHelper (by simp [mem_fixedHelpers])⟩
  · refine needed ?_ hs
    simpa using ⟨declare_passed (by unfold IsPlain; decide) (harmless_quoted link),
      fixedHelpers_passed linkHelper (by simp [mem_fixedHelpers])⟩

theorem prelude_passed {config : Config} (image : '(' ∉ config.imagePlaceholderUrl.toList)
    (link : '(' ∉ config.linkPlaceholderHref.toList) {table : SymbolTable}
    (plain : ∀ s ∈ table.entries, IsPlain s.name) : Passed (prelude config table).toList := by
  unfold prelude
  split
  · exact passed_nil
  · rw [String.toList_append]
    refine (lines_passed (helpers_passed image link table)).append (lines_passed ?_)
    intro text member
    obtain ⟨s, hs, rfl⟩ := List.mem_map.mp member
    exact declare_passed (plain s hs) (value_harmless (plain s hs))

theorem memberPattern_free {imported name : String} (hi : IsPlain imported) (hn : IsPlain name) :
    '(' ∉ (memberPattern imported name).toList := by
  unfold memberPattern
  split
  · exact free_of_isPlain hn
  · simp only [String.toList_append, List.mem_append, not_or]
    exact ⟨⟨free_of_isPlain hi, by decide⟩, free_of_isPlain hn⟩

theorem members_passed {members : List String} (h : ∀ s ∈ members, '(' ∉ s.toList) :
    Passed (if members.isEmpty then "" else "const \x7b " ++ ", ".intercalate members ++
      " \x7d = " ++ runtimeHandle ++ ";\n").toList := by
  split
  · exact passed_nil
  · have parts : ("const \x7b " ++ ", ".intercalate members ++ " \x7d = " ++ runtimeHandle ++
        ";\n").toList = ("const \x7b ".toList ++ (", ".intercalate members).toList ++
          " \x7d = React".toList ++ [';']) ++ ['\n'] := by
      simp [runtimeHandle]
    rw [parts]
    refine (unguessed_of_free ?_).passed List.getLast?_concat
    simp only [List.mem_append, not_or]
    refine ⟨⟨⟨by decide, fun member => ?_⟩, by decide⟩, by decide⟩
    rcases mem_intercalate member with comma | ⟨s, hs, opens⟩
    · exact absurd comma (by decide)
    · exact h s hs opens

theorem runtimeBindings_passed {bindings : List RuntimeBinding}
    (plain : ∀ b ∈ bindings, ∀ name ∈ b.names, IsPlain name) :
    Passed (runtimeBindings bindings).toList := by
  unfold runtimeBindings
  rw [String.toList_append]
  refine Passed.append (members_passed ?_) ?_
  · intro s hs
    obtain ⟨b, hb, found⟩ := List.mem_filterMap.mp hs
    cases b with
    | member imported name =>
      obtain rfl := Option.some.inj found
      exact memberPattern_free (plain _ hb imported (by simp [RuntimeBinding.names]))
        (plain _ hb name (by simp [RuntimeBinding.names]))
    | handle name => cases found
  · rw [String.toList_join, List.flatMap]
    refine passed_flatten ?_
    intro s hs
    obtain ⟨text, member, rfl⟩ := List.mem_map.mp hs
    obtain ⟨b, hb, found⟩ := List.mem_filterMap.mp member
    cases b with
    | member imported name => cases found
    | handle name =>
      obtain rfl := Option.some.inj found
      rw [String.toList_append]
      exact declare_passed (plain _ hb name (by simp [RuntimeBinding.names]))
        ⟨unguessed_of_free (by decide), 'R', "eact".toList, rfl, by decide, by decide⟩

/-- Whatever names a page binds, the stand-ins in front of a body take no entry from it: the name and
the form of the entry are those of the body alone. -/
theorem extract_behind_standIns (config : Config) (table : SymbolTable)
    (bindings : List RuntimeBinding) (fallback : String) (body : List Char)
    (symbols : ∀ s ∈ table.entries, IsPlain s.name)
    (bound : ∀ b ∈ bindings, ∀ name ∈ b.names, IsPlain name)
    (image : '(' ∉ config.imagePlaceholderUrl.toList)
    (link : '(' ∉ config.linkPlaceholderHref.toList) :
    (extract fallback ((runtimeBindings bindings ++ prelude config table).toList ++ body)).name =
        (extract fallback body).name ∧
      (extract fallback ((runtimeBindings bindings ++ prelude config table).toList ++ body)).form =
        (extract fallback body).form := by
  have quiet := (runtimeBindings_quiet bound).append (prelude_quiet config symbols)
  have passed := (runtimeBindings_passed bound).append (prelude_passed image link symbols)
  rw [String.toList_append, extract_name, extract_name, extract_form, extract_form]
  exact locate_behind quiet passed fallback body

theorem extract_behind_reserved :
    let symbols : List ClassifiedSymbol := [⟨"function", "function", .component, "ui"⟩,
      ⟨"const", "x", .icon, "icons"⟩, ⟨"if", "if", .utility, "lib"⟩]
    let table := symbols.foldl SymbolTable.insert .empty
    let bindings : List RuntimeBinding := [.member "const" "function", .handle "class"]
    let config : Config := {}
    let body := "const Page = () => null;\n".toList
    (extract "P" ((runtimeBindings bindings ++ prelude config table).toList ++ body)).name =
        (extract "P" body).name ∧
      (extract "P" ((runtimeBindings bindings ++ prelude config table).toList ++ body)).form =
        (extract "P" body).form := by
  intro symbols table bindings config body
  have entries : table.entries = symbols := by decide +kernel
  have reserved : ∀ s ∈ symbols, IsPlain s.name := by
    unfold IsPlain
    decide
  have bound : ∀ b ∈ bindings, ∀ name ∈ b.names, IsPlain name := by
    unfold IsPlain
    decide
  exact extract_behind_standIns config table bindings "P" body (entries ▸ reserved) bound (by decide)
    (by decide)

end StandIn
end PagePreview
