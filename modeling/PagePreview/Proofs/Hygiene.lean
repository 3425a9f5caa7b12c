import PagePreview.Proofs.Locals
import PagePreview.Proofs.Resanitized
import PagePreview.Proofs.Text.Split

/-!
# The names of the stand-ins

Helpers, bindings of the runtime handle and stubs are declared at the top level of one text. The names
of the helpers are fixed and those of the others are chosen by the page, so they are apart, and leave
the handle's own name alone, exactly if the page takes no helper's name and stubs nothing under the
handle's.
-/

namespace PagePreview
open Text

def localOf (part : List Char) : List Char :=
  ((part.reverse.dropWhile isBlank).takeWhile isPlainRest).reverse

/-- The names that a line declares if it opens a constant where it starts. -/
def lineNames (line : List Char) : List String :=
  match after? "const ".toList line with
  | none => []
  | some rest =>
    if rest.head? = some '\x7b' then
      (splitAt (· == ',') (rest.tail.takeWhile (· != '\x7d'))).map fun part => String.ofList (localOf part)
    else [String.ofList (rest.takeWhile isPlainRest)]

/-- The names of the constants that open where a line starts. What stands inside a function is
indented, so these are the names at the top level. -/
def topNames (s : List Char) : List String := (splitAt (· == '\n') s).flatMap lineNames

theorem topNames_append {s : List Char} (ends : s = [] ∨ s.getLast? = some '\n') (t : List Char) :
    topNames (s ++ t) = topNames s ++ topNames t := by
  rcases ends with rfl | ends
  · rfl
  · obtain ⟨front, rfl⟩ := List.getLast?_eq_some_iff.mp ends
    have feed : ∀ t, splitAt (· == '\n') (front ++ '\n' :: t) =
        splitAt (· == '\n') front ++ splitAt (· == '\n') t := splitAt_append rfl front
    have empty : topNames [] = [] := by decide
    simp only [topNames, List.append_assoc, List.singleton_append, feed, List.flatMap_append] at empty ⊢
    rw [empty, List.nil_append]

theorem topNames_flatten {parts : List (List Char)}
    (ends : ∀ s ∈ parts, s = [] ∨ s.getLast? = some '\n') :
    topNames parts.flatten = parts.flatMap topNames := by
  induction parts with
  | nil => decide
  | cons s parts ih =>
    rw [List.flatten_cons, topNames_append (ends s (by simp)), ih fun t ht => ends t (by simp [ht]),
      List.flatMap_cons]

theorem topNames_line {line : List Char} (unbroken : '\n' ∉ line) :
    topNames (line ++ ['\n']) = lineNames line := by
  have free : ∀ c ∈ line, (c == '\n') = false := by
    intro c hc
    simpa using fun same : c = '\n' => unbroken (same ▸ hc)
  have empty : lineNames [] = [] := by decide
  rw [topNames, splitAt_append (p := (· == '\n')) rfl line [], splitAt_free free, splitAt_free (by simp)]
  simp [empty]

theorem IsPlain.letters {name : String} (plain : IsPlain name) :
    ∀ c ∈ name.toList, isPlainRest c = true := by
  unfold IsPlain at plain
  cases letters : name.toList with
  | nil => simp
  | cons d rest =>
    rw [letters, isPlainName, Bool.and_eq_true, List.all_eq_true] at plain
    intro c hc
    rcases List.mem_cons.mp hc with rfl | hc
    · simp [isPlainRest, plain.1]
    · exact plain.2 c hc

theorem IsPlain.takeWhile {name : String} (plain : IsPlain name) {c : Char} (stops : isPlainRest c = false)
    (s : List Char) : (name.toList ++ c :: s).takeWhile isPlainRest = name.toList := by
  rw [List.takeWhile_append_of_pos plain.letters]
  simp [stops]

namespace StandIn

theorem lineNames_declare {name : String} (plain : IsPlain name) (value : String) :
    lineNames (declare name value).toList = [name] := by
  have parts : (declare name value).toList =
      "const ".toList ++ (name.toList ++ ' ' :: ("= ".toList ++ value.toList ++ ";".toList)) := by
    simp [declare]
  have read : after? "const ".toList (declare name value).toList =
      some (name.toList ++ ' ' :: ("= ".toList ++ value.toList ++ ";".toList)) := by
    rw [parts]
    rfl
  have other : (name.toList ++ ' ' :: ("= ".toList ++ value.toList ++ ";".toList)).head? ≠ some '\x7b' := by
    intro opens
    cases letters : name.toList with
    | nil =>
      rw [letters] at opens
      exact absurd opens (by simp)
    | cons c rest =>
      obtain rfl : c = '\x7b' := by simpa [letters] using opens
      exact absurd (plain.letters '\x7b' (by simp [letters])) (by decide)
  rw [lineNames, read]
  dsimp only
  rw [if_neg other, plain.takeWhile (by decide), String.ofList_toList]

theorem topNames_declare {name value : String} (plain : IsPlain name) (hv : Unbroken value.toList) :
    topNames ((declare name value).toList ++ ['\n']) = [name] := by
  have unbroken := declare_unbroken plain.unbroken hv
  rw [topNames_line fun member => absurd (unbroken _ member) (by decide), lineNames_declare plain]

theorem localOf_pattern {imported name : String} (hn : IsPlain name) {gap : List Char}
    (blank : Blank gap) : localOf (' ' :: ((memberPattern imported name).toList ++ gap)) = name.toList := by
  have whole : ∃ front c, ' ' :: (memberPattern imported name).toList = front ++ c :: name.toList ∧
      isPlainRest c = false := by
    unfold memberPattern
    split
    · exact ⟨[], ' ', rfl, by decide⟩
    · exact ⟨' ' :: imported.toList ++ [':'], ' ', by simp, by decide⟩
  obtain ⟨front, c, parts, stops⟩ := whole
  have letters : ∀ d ∈ name.toList.reverse, isPlainRest d = true :=
    fun d hd => hn.letters d (List.mem_reverse.mp hd)
  have solid : (name.toList.reverse ++ c :: front.reverse).dropWhile isBlank =
      name.toList.reverse ++ c :: front.reverse := by
    cases first : name.toList.reverse with
    | nil =>
      unfold IsPlain at hn
      rw [List.reverse_eq_nil_iff.mp first] at hn
      cases hn
    | cons d rest =>
      have letter := letters d (by simp [first])
      rw [List.cons_append, List.dropWhile_cons_of_neg]
      simpa using Entry.not_isBlank_of_isDeclaredRest (Entry.isDeclaredRest_of_isPlainRest letter)
  rw [localOf, ← List.cons_append, parts]
  simp only [List.reverse_append, List.reverse_cons, List.append_assoc, List.singleton_append]
  rw [List.dropWhile_append_of_pos fun d hd => blank d (List.mem_reverse.mp hd), solid,
    List.takeWhile_append_of_pos letters]
  simp [stops]

theorem pattern_free {imported name : String} (hi : IsPlain imported) (hn : IsPlain name) {c : Char}
    (other : isPlainRest c = false) (notColon : c ≠ ':') (notBlank : c ≠ ' ') :
    c ∉ (memberPattern imported name).toList := by
  have letters : ∀ {name : String}, IsPlain name → c ∉ name.toList := by
    intro name plain member
    simp [plain.letters c member] at other
  unfold memberPattern
  split
  · exact letters hn
  · simp only [String.toList_append, List.mem_append, not_or]
    refine ⟨⟨letters hi, ?_⟩, letters hn⟩
    simp [notColon, notBlank]

theorem locals_members {members : List (String × String)}
    (plain : ∀ x ∈ members, IsPlain x.1 ∧ IsPlain x.2) (some : members ≠ []) :
    (splitAt (· == ',')
      (' ' :: ((", ".intercalate (members.map fun x => memberPattern x.1 x.2)).toList ++ [' ']))).map
        (fun part => String.ofList (localOf part)) = members.map (·.2) := by
  induction members with
  | nil => exact absurd rfl some
  | cons x members ih =>
    obtain ⟨hi, hn⟩ := plain x (by simp)
    have free : ∀ {gap : List Char}, Blank gap → ∀ c ∈ ' ' :: ((memberPattern x.1 x.2).toList ++ gap),
        (c == ',') = false := by
      intro gap blank c hc
      have other : ',' ∉ (memberPattern x.1 x.2).toList :=
        pattern_free hi hn (by decide) (by decide) (by decide)
      rcases List.mem_cons.mp hc with rfl | hc
      · rfl
      · rcases List.mem_append.mp hc with letter | gap
        · simpa using fun same : c = ',' => other (same ▸ letter)
        · simpa using fun same : c = ',' => absurd (blank c gap) (by rw [same]; decide)
    have none : Blank [] := fun _ member => absurd member List.not_mem_nil
    cases members with
    | nil =>
      have whole : (", ".intercalate [memberPattern x.1 x.2]).toList = (memberPattern x.1 x.2).toList := by
        rw [String.intercalate_singleton]
      rw [List.map_cons, List.map_nil, whole, splitAt_free (free blank_space), List.map_singleton,
        localOf_pattern hn blank_space, String.ofList_toList]
      rfl
    | cons y members =>
      have rest := ih (fun z hz => plain z (by simp [hz])) (by simp)
      have parts : ' ' :: ((", ".intercalate ((x :: y :: members).map fun x => memberPattern x.1 x.2)).toList ++ [' ']) =
          (' ' :: ((memberPattern x.1 x.2).toList ++ [])) ++ ',' :: ' ' ::
            ((", ".intercalate ((y :: members).map fun x => memberPattern x.1 x.2)).toList ++ [' ']) := by
        simp [String.intercalate_cons_cons]
      rw [parts, splitAt_append (p := (· == ',')) rfl, splitAt_free (free none), List.map_append, rest,
        List.map_singleton, localOf_pattern hn none, String.ofList_toList]
      rfl

theorem topNames_members {members : List (String × String)}
    (plain : ∀ x ∈ members, IsPlain x.1 ∧ IsPlain x.2) :
    topNames (if (members.map fun x => memberPattern x.1 x.2).isEmpty then "" else "const \x7b " ++
      ", ".intercalate (members.map fun x => memberPattern x.1 x.2) ++ " \x7d = " ++ runtimeHandle ++
        ";\n").toList = members.map (·.2) := by
  cases members with
  | nil => decide
  | cons x members =>
    rw [if_neg (by simp)]
    have inner := locals_members plain (by simp)
    have closed : '\x7d' ∉ (", ".intercalate ((x :: members).map fun x => memberPattern x.1 x.2)).toList := by
      intro member
      rcases mem_intercalate member with comma | ⟨s, hs, brace⟩
      · exact absurd comma (by decide)
      · obtain ⟨y, hy, rfl⟩ := List.mem_map.mp hs
        exact pattern_free (plain y hy).1 (plain y hy).2 (by decide) (by decide) (by decide) brace
    have unbroken : '\n' ∉ (", ".intercalate ((x :: members).map fun x => memberPattern x.1 x.2)).toList := by
      intro member
      rcases mem_intercalate member with comma | ⟨s, hs, feed⟩
      · exact absurd comma (by decide)
      · obtain ⟨y, hy, rfl⟩ := List.mem_map.mp hs
        exact pattern_free (plain y hy).1 (plain y hy).2 (by decide) (by decide) (by decide) feed
    revert inner closed unbroken
    generalize (", ".intercalate ((x :: members).map fun x => memberPattern x.1 x.2)) = patterns
    intro inner closed unbroken
    have parts : ("const \x7b " ++ patterns ++ " \x7d = " ++ runtimeHandle ++ ";\n").toList =
        ("const ".toList ++ '\x7b' :: (' ' :: (patterns.toList ++ [' ']) ++ "\x7d = React;".toList)) ++ ['\n'] := by
      simp [runtimeHandle]
    have read : after? "const ".toList ("const ".toList ++ '\x7b' :: (' ' :: (patterns.toList ++ [' ']) ++
        "\x7d = React;".toList)) = some ('\x7b' :: (' ' :: (patterns.toList ++ [' ']) ++ "\x7d = React;".toList)) := rfl
    have inside : (' ' :: (patterns.toList ++ [' ']) ++ "\x7d = React;".toList).takeWhile (· != '\x7d') =
        ' ' :: (patterns.toList ++ [' ']) := by
      have free : ∀ c ∈ ' ' :: (patterns.toList ++ [' ']), (c != '\x7d') = true := by
        intro c hc
        simp only [List.mem_cons, List.mem_append, List.not_mem_nil, or_false] at hc
        rw [bne_iff_ne]
        rintro rfl
        rcases hc with space | brace | space
        · exact absurd space (by decide)
        · exact closed brace
        · exact absurd space (by decide)
      rw [List.takeWhile_append_of_pos free]
      exact List.append_nil _
    rw [parts, topNames_line, lineNames, read]
    · dsimp only
      rw [List.head?_cons, if_pos rfl, List.tail_cons, inside, inner]
    · simp only [List.mem_append, List.mem_cons, List.not_mem_nil, or_false, not_or]
      exact ⟨by decide, by decide, ⟨by decide, unbroken, by decide⟩, by decide⟩

/-- The names of the helpers that the symbols of a table need. -/
def helperNames (table : SymbolTable) : List String :=
  let needs (kind : SymbolKind) (names : List String) : List String :=
    if table.containsKind kind then names else []
  (if table.containsKind .component || table.containsKind .namespaceProxy then
    ["__createStubComponent"] else []) ++
  needs .statefulCapability ["__noop", "__createStubHook"] ++
  needs .namespaceProxy ["__createNamespaceStub"] ++
  needs .icon ["__DEFAULT_ICON_PATH", "__createIconStub"] ++
  needs .mediaStandIn ["__IMAGE_FALLBACK", "__IMAGE_ONLY_PROPS", "__ImageStub"] ++
  needs .navigationStandIn ["__LINK_FALLBACK", "__LINK_ONLY_PROPS", "__LinkStub"]

theorem topNames_lines (texts : List String) :
    topNames (lines texts).toList = texts.flatMap fun s => topNames (s.toList ++ ['\n']) := by
  rcases eq_or_ne texts [] with rfl | some
  · decide
  · rw [lines_toList some, topNames_flatten, List.flatMap_map]
    intro s hs
    obtain ⟨text, -, rfl⟩ := List.mem_map.mp hs
    exact .inr (by simp)

theorem fixedHelpers_names :
    topNames (componentHelper.toList ++ ['\n']) = ["__createStubComponent"] ∧
    topNames (hookHelper.toList ++ ['\n']) = ["__noop", "__createStubHook"] ∧
    topNames (namespaceHelper.toList ++ ['\n']) = ["__createNamespaceStub"] ∧
    topNames (iconHelper.toList ++ ['\n']) = ["__createIconStub"] ∧
    topNames (imageHelper.toList ++ ['\n']) = ["__IMAGE_ONLY_PROPS", "__ImageStub"] ∧
    topNames (linkHelper.toList ++ ['\n']) = ["__LINK_ONLY_PROPS", "__LinkStub"] := by
  refine ⟨?_, ?_, ?_, ?_, ?_, ?_⟩
  · rw [componentHelper, toList_script, String.toList_ofList]
    decide +kernel
  · rw [hookHelper, toList_script, String.toList_ofList]
    decide +kernel
  · rw [namespaceHelper, toList_script, String.toList_ofList]
    decide +kernel
  · rw [iconHelper, toList_script, String.toList_ofList]
    decide +kernel
  · rw [imageHelper, toList_script, String.toList_ofList]
    decide +kernel
  · rw [linkHelper, toList_script, String.toList_ofList]
    decide +kernel

theorem topNames_helpers (config : Config) (table : SymbolTable) :
    topNames (lines (helpers config table)).toList = helperNames table := by
  have icon := topNames_declare (by unfold IsPlain; decide : IsPlain "__DEFAULT_ICON_PATH")
    (quoted_unbroken Icon.defaultPath)
  have image := topNames_declare (by unfold IsPlain; decide : IsPlain "__IMAGE_FALLBACK")
    (quoted_unbroken config.imagePlaceholderUrl)
  have link := topNames_declare (by unfold IsPlain; decide : IsPlain "__LINK_FALLBACK")
    (quoted_unbroken config.linkPlaceholderHref)
  have needed : ∀ (p : Bool) (texts : List String),
      (if p then texts else []).flatMap (fun s => topNames (s.toList ++ ['\n'])) =
        if p then texts.flatMap fun s => topNames (s.toList ++ ['\n']) else [] := by
    intro p texts
    cases p <;> rfl
  rw [topNames_lines]
  simp only [helpers, helperNames, List.flatMap_append, needed, List.flatMap_cons, List.flatMap_nil,
    fixedHelpers_names, icon, image, link, List.append_nil, List.cons_append, List.nil_append]

theorem topNames_prelude (config : Config) {table : SymbolTable}
    (plain : ∀ s ∈ table.entries, IsPlain s.name) :
    topNames (prelude config table).toList = helperNames table ++ table.names := by
  unfold prelude
  split
  · rename_i empty
    have none : table.entries = [] := List.isEmpty_iff.mp empty
    have needless : helperNames table = [] := by simp [helperNames, SymbolTable.containsKind, none]
    rw [needless, SymbolTable.names, none]
    decide
  · have ends : (lines (helpers config table)).toList = [] ∨
        (lines (helpers config table)).toList.getLast? = some '\n' :=
      (lines_quiet (helpers_quiet config table)).ends
    rw [String.toList_append, topNames_append ends, topNames_helpers, topNames_lines, List.flatMap_map]
    congr 1
    have each : ∀ s ∈ table.entries, topNames ((declaration s).toList ++ ['\n']) = [s.name] :=
      fun s hs => topNames_declare (plain s hs) (value_unbroken s)
    rw [SymbolTable.names, ← List.flatMap_singleton' (table.entries.map _), List.flatMap_map]
    exact List.flatMap_congr each

def member? : RuntimeBinding → Option (String × String)
  | .member imported name => some (imported, name)
  | .handle _ => none

def handle? : RuntimeBinding → Option String
  | .member .. => none
  | .handle name => some name

def boundNames (bindings : List RuntimeBinding) : List String :=
  (bindings.filterMap member?).map (·.2) ++ bindings.filterMap handle?

theorem boundNames_perm (bindings : List RuntimeBinding) :
    (boundNames bindings).Perm (bindings.map RuntimeBinding.localName) := by
  induction bindings with
  | nil => exact .nil
  | cons b bindings ih =>
    cases b with
    | member imported name => exact ih.cons name
    | handle name => exact List.perm_middle.trans (ih.cons name)

theorem runtimeBindings_eq (bindings : List RuntimeBinding) :
    let patterns := (bindings.filterMap member?).map fun x => memberPattern x.1 x.2
    runtimeBindings bindings = (if patterns.isEmpty then "" else "const \x7b " ++
      ", ".intercalate patterns ++ " \x7d = " ++ runtimeHandle ++ ";\n") ++
        String.join ((bindings.filterMap handle?).map fun name => declare name runtimeHandle ++ "\n") := by
  have each : ∀ {α : Type} (part? : RuntimeBinding → Option α) (write : α → String)
      {f : RuntimeBinding → Option String}, (∀ b, f b = (part? b).map write) →
      bindings.filterMap f = (bindings.filterMap part?).map write := by
    intro α part? write f same
    rw [List.map_filterMap]
    exact List.filterMap_congr fun b _ => same b
  intro patterns
  unfold runtimeBindings
  dsimp only
  rw [each member? (fun x => memberPattern x.1 x.2) (by rintro (_ | _) <;> rfl)]
  rw [each handle? (fun name => declare name runtimeHandle ++ "\n") (by rintro (_ | _) <;> rfl)]

theorem topNames_runtimeBindings {bindings : List RuntimeBinding}
    (plain : ∀ b ∈ bindings, ∀ name ∈ b.names, IsPlain name) :
    topNames (runtimeBindings bindings).toList = boundNames bindings := by
  have members : ∀ x ∈ bindings.filterMap member?, IsPlain x.1 ∧ IsPlain x.2 := by
    intro x hx
    obtain ⟨b, hb, found⟩ := List.mem_filterMap.mp hx
    cases b with
    | member imported name =>
      obtain rfl := Option.some.inj found
      exact ⟨plain _ hb imported (by simp [RuntimeBinding.names]),
        plain _ hb name (by simp [RuntimeBinding.names])⟩
    | handle name => cases found
  have handles : ∀ name ∈ bindings.filterMap handle?, IsPlain name := by
    intro name hname
    obtain ⟨b, hb, found⟩ := List.mem_filterMap.mp hname
    cases b with
    | member imported name => cases found
    | handle name =>
      obtain rfl := Option.some.inj found
      exact plain _ hb _ (by simp [RuntimeBinding.names])
  have bound : ∀ name ∈ bindings.filterMap handle?,
      topNames (declare name runtimeHandle ++ "\n").toList = [name] := by
    intro name hname
    rw [String.toList_append]
    exact topNames_declare (handles name hname) (unbroken_of_all (by decide))
  rw [runtimeBindings_eq, String.toList_append, topNames_append, topNames_members members, boundNames,
    String.toList_join, List.flatMap_map, List.flatMap, topNames_flatten, List.flatMap_map,
    List.flatMap_congr bound, List.flatMap_singleton']
  · intro s hs
    obtain ⟨name, -, rfl⟩ := List.mem_map.mp hs
    rw [String.toList_append]
    exact .inr (by simp)
  · refine (members_quiet ?_).ends
    intro s hs
    obtain ⟨x, hx, rfl⟩ := List.mem_map.mp hs
    exact memberPattern_unbroken (members x hx).1 (members x hx).2

end StandIn

namespace Sanitized
open StandIn

/-- The names of the stand-ins of a page: what comes from the handle, the helpers, and the symbols. -/
theorem topNames_standIns {config : Config} {source : String} {s : Sanitized}
    (accepted : ofSource config source = .ok s) :
    let table := SymbolTable.ofReferences config s.references
    topNames s.standIns.toList =
      boundNames (RuntimeBinding.collect config s.references table) ++ (helperNames table ++ table.names) := by
  obtain ⟨scan, hscan, made⟩ := ofSource_scanned accepted
  obtain ⟨symbols, bindings⟩ := Scan.ofSource_passes hscan
  have plainSymbols := Scan.symbols_plain hscan
  have plainBindings := Scan.runtimeBindings_plain hscan
  rw [made.standIns, String.toList_append, topNames_append (runtimeBindings_quiet plainBindings).ends,
    topNames_runtimeBindings plainBindings, topNames_prelude config plainSymbols, bindings, symbols,
    made.references]

theorem helperNames_nodup (table : SymbolTable) : (helperNames table).Nodup ∧
    runtimeHandle ∉ helperNames table := by
  unfold helperNames
  dsimp only
  generalize table.containsKind .component = a
  generalize table.containsKind .statefulCapability = b
  generalize table.containsKind .namespaceProxy = c
  generalize table.containsKind .icon = d
  generalize table.containsKind .mediaStandIn = e
  generalize table.containsKind .navigationStandIn = f
  revert a b c d e f
  decide

/-- The names of the stand-ins are apart, and none is the handle's own, exactly if the page stubs
nothing under that name and binds no name of a helper that is there. -/
theorem names_apart_iff (config : Config) (source : String) (s : Sanitized)
    (accepted : ofSource config source = .ok s) :
    ((topNames s.standIns.toList).Nodup ∧ runtimeHandle ∉ topNames s.standIns.toList) ↔
      (∀ r ∈ s.references, r.isStubbed config = true → runtimeHandle ∉ r.locals) ∧
      ∀ r ∈ s.references, ∀ name ∈ r.locals,
        name ∉ helperNames (SymbolTable.ofReferences config s.references) := by
  rw [topNames_standIns accepted]
  have stubbed := SymbolTable.mem_ofReferences config s.references
  have inStep := SymbolTable.inStep_ofReferences config s.references
  generalize SymbolTable.ofReferences config s.references = table at stubbed inStep ⊢
  have clear := RuntimeBinding.collect_clear inStep config s.references
  have bound := RuntimeBinding.mem_collect inStep config s.references
  have perm := boundNames_perm (RuntimeBinding.collect config s.references table)
  obtain ⟨helpers, handle⟩ := helperNames_nodup table
  simp only [List.nodup_append, List.mem_append, not_or, perm.nodup_iff, perm.mem_iff]
  constructor
  · rintro ⟨⟨-, ⟨-, -, apart⟩, above⟩, -, -, free⟩
    refine ⟨fun r member isStubbed binds => free ((stubbed _).mpr ⟨r, member, isStubbed, binds⟩), ?_⟩
    intro r member name binds help
    by_cases taken : name ∈ table.names
    · exact apart name help name taken rfl
    · have runtime : config.isRuntimeModule r.moduleName = true := by
        refine (r.isStubbed_or_isRuntime config binds).resolve_left fun isStubbed => ?_
        exact taken ((stubbed name).mpr ⟨r, member, isStubbed, binds⟩)
      have notHandle : name ≠ runtimeHandle := fun same => handle (same ▸ help)
      exact above name ((bound name).mpr ⟨⟨r, member, runtime, binds⟩, notHandle, taken⟩) name (.inl help) rfl
  · rintro ⟨unstubbed, helpless⟩
    have symbolFree : ∀ name ∈ table.names, name ∉ helperNames table := by
      intro name taken
      obtain ⟨r, member, -, binds⟩ := (stubbed name).mp taken
      exact helpless r member name binds
    refine ⟨⟨clear.nodup, ⟨helpers, inStep.nodup, ?_⟩, ?_⟩, ?_, handle, ?_⟩
    · rintro name help _ taken rfl
      exact symbolFree name taken help
    · rintro name fromHandle _ (help | taken) rfl
      · obtain ⟨⟨r, member, -, binds⟩, -⟩ := (bound name).mp fromHandle
        exact helpless r member name binds help
      · exact (clear.free name fromHandle).2 taken
    · exact fun fromHandle => (clear.free _ fromHandle).1 rfl
    · intro taken
      obtain ⟨r, member, isStubbed, binds⟩ := (stubbed _).mp taken
      exact unstubbed r member isStubbed binds

/-- A page with a member of the handle, the handle itself, and a component of another module. -/
def componentPage : String :=
  "import React, \x7b useState as state \x7d from 'react';\nimport \x7b Card \x7d from 'ui';\n" ++
  "export default function Page() \x7b return null; \x7d\n"

theorem names_apart_components :
    ∃ s, ofSource {} componentPage = .ok s ∧
      topNames s.standIns.toList = ["state", "__createStubComponent", "Card"] ∧
      (∀ r ∈ s.references, r.isStubbed {} = true → runtimeHandle ∉ r.locals) ∧
      ∀ r ∈ s.references, ∀ name ∈ r.locals,
        name ∉ helperNames (SymbolTable.ofReferences {} s.references) := by
  have references : (ofSource {} componentPage).toOption.map (·.references) =
      some [⟨"react", some "React", [⟨"useState", "state"⟩], none, false⟩,
        ⟨"ui", none, [⟨"Card", "Card"⟩], none, false⟩] := by
    decide +kernel
  cases accepted : ofSource {} componentPage with
  | error e => simp [accepted, Except.toOption] at references
  | ok s =>
    simp only [accepted, Except.toOption, Option.map_some, Option.some.injEq] at references
    have names := topNames_standIns accepted
    rw [references] at names
    have names : topNames s.standIns.toList = ["state", "__createStubComponent", "Card"] :=
      names.trans (by decide +kernel)
    exact ⟨s, rfl, names, (names_apart_iff {} componentPage s accepted).mp (by rw [names]; decide)⟩

/-- A page that takes the handle's name from another module. -/
def compatPage : String := "import React from 'preact/compat';
export default function Page() \x7b return null; \x7d
"

theorem names_not_apart_compat :
    ∃ s, ofSource {} compatPage = .ok s ∧ runtimeHandle ∈ topNames s.standIns.toList := by
  have references : (ofSource {} compatPage).toOption.map (·.references) =
      some [⟨"preact/compat", some "React", [], none, false⟩] := by
    decide +kernel
  cases accepted : ofSource {} compatPage with
  | error e => simp [accepted, Except.toOption] at references
  | ok s =>
    simp only [accepted, Except.toOption, Option.map_some, Option.some.injEq] at references
    have names := topNames_standIns accepted
    rw [references] at names
    exact ⟨s, rfl, by rw [names]; decide +kernel⟩

end Sanitized
end PagePreview
