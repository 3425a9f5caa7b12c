import PagePreview.Proofs.Hygiene
import PagePreview.Proofs.Names
import PagePreview.Proofs.Resanitized
import PagePreview.Proofs.Scan

/-!
# References and their statements

What a statement can bind is described apart from any statement: the module is trimmed and holds no
quote, every name is plain, names in braces and a namespace exclude each other, and what is imported
under the name `type` keeps it. Each such reference has a canonical statement, and reading that gives
the reference back. The words `type`, `as` and `from` are plain names too, so where they stand is
what tells them from names.
-/

namespace PagePreview
open Text Matcher
open Reference (isQuote isModuleChar isClauseChar)

namespace Reference

structure WellFormed (r : Reference) : Prop where
  trimmed : trim r.moduleName.toList = r.moduleName.toList
  unquoted : ∀ c ∈ r.moduleName.toList, isQuote c = false
  plain : r.Plain
  apart : r.named = [] ∨ r.namespaceName = none
  types : ∀ s ∈ r.named, s.imported = "type" → s.localName = "type"

end Reference

def NamedSymbol.text (s : NamedSymbol) : List Char :=
  if s.imported = s.localName then s.imported.toList
  else s.imported.toList ++ (" as ".toList ++ s.localName.toList)

namespace Reference

def braces (named : List NamedSymbol) : List Char :=
  '\x7b' :: (' ' :: (", ".toList.intercalate (named.map NamedSymbol.text) ++ " \x7d".toList))

def groupText? (r : Reference) : Option (List Char) :=
  match r.namespaceName with
  | some name => some ("* as ".toList ++ name.toList)
  | none => if r.named.isEmpty then none else some (braces r.named)

/-- What is bound, without the word `type`; a reference that binds nothing has empty braces. -/
def clauseText (r : Reference) : List Char :=
  match r.defaultName, r.groupText? with
  | none, none => "\x7b\x7d".toList
  | none, some group => group
  | some name, none => name.toList
  | some name, some group => name.toList ++ (", ".toList ++ group)

def canonical (r : Reference) : List Char :=
  let module := ' ' :: (r.moduleName.toList ++ [' '])
  if r.isEffectOnly && !r.typeOnly then "import '".toList ++ (module ++ "';".toList)
  else "import ".toList ++ ((if r.typeOnly then "type ".toList else []) ++ r.clauseText ++
    (" from '".toList ++ (module ++ "';".toList)))

end Reference

theorem not_isBlank_of_isPlainRest {c : Char} (h : isPlainRest c = true) : isBlank c = false :=
  Entry.not_isBlank_of_isDeclaredRest (Entry.isDeclaredRest_of_isPlainRest h)

theorem isClauseChar_of_isPlainRest {c : Char} (h : isPlainRest c = true) :
    isClauseChar c = true := by
  rw [isClauseChar, Bool.and_eq_true, bne_iff_ne, Bool.not_eq_true', isQuote, Bool.or_eq_false_iff,
    beq_eq_false_iff_ne, beq_eq_false_iff_ne]
  refine ⟨?_, ?_, ?_⟩ <;> rintro rfl <;> exact absurd h (by decide)

namespace IsPlain

variable {name : String}

theorem cons (plain : IsPlain name) :
    ∃ c rest, name.toList = c :: rest ∧ isPlainStart c = true := by
  unfold IsPlain at plain
  cases letters : name.toList with
  | nil => simp [letters, isPlainName] at plain
  | cons c rest =>
    rw [letters, isPlainName, Bool.and_eq_true] at plain
    exact ⟨c, rest, rfl, plain.1⟩

theorem ne_nil (plain : IsPlain name) : name.toList ≠ [] := by
  obtain ⟨c, rest, letters, -⟩ := plain.cons
  rw [letters]
  exact List.cons_ne_nil c rest

theorem unblank (plain : IsPlain name) : ∀ c ∈ name.toList, isBlank c = false :=
  fun c hc => not_isBlank_of_isPlainRest (plain.letters c hc)

theorem trimmed (plain : IsPlain name) : Trimmed name.toList := trimmed_of_unblank plain.unblank

theorem words_eq (plain : IsPlain name) : words name.toList = [name.toList] :=
  words_of_unblank plain.ne_nil plain.unblank

theorem bindingName_eq (plain : IsPlain name) : Reference.bindingName name.toList = .ok name := by
  have checked : isPlainName name.toList = true := plain
  rw [Reference.bindingName, if_pos checked, String.ofList_toList]

end IsPlain

namespace Reference

theorem afterWord?_eq_some {w : String} {s t : List Char} :
    afterWord? w s = some t ↔ s = w.toList ++ t ∧ t.head?.any isBlank = true := by
  rw [afterWord?, Option.filter_eq_some_iff, after?_eq_some]

theorem quotedModule_unquoted {x : Span} {p q : Place} (h : (x, q) ∈ quotedModule p) :
    ∀ c ∈ x.text, isQuote c = false := by
  obtain ⟨_, p₁, -, tail₁⟩ := mem_bind.mp h
  obtain ⟨x', p₂, h₂, tail₂⟩ := mem_bind.mp tail₁
  obtain ⟨run, t, parts, -, plain, rfl, rfl⟩ := mem_least1.mp (mem_most1.mp h₂)
  obtain ⟨_, p₃, -, tail₃⟩ := mem_bind.mp tail₂
  obtain ⟨rfl, -⟩ := mem_pure.mp tail₃
  rw [parts, Span.text_append]
  exact fun c hc => by simpa [isModuleChar] using plain c hc

theorem effectImport_unquoted {x : Span} {p q : Place} (h : (x, q) ∈ effectImport p) :
    ∀ c ∈ x.text, isQuote c = false := by
  obtain ⟨_, p₁, -, tail₁⟩ := mem_bind.mp h
  obtain ⟨_, p₂, -, tail₂⟩ := mem_bind.mp tail₁
  exact quotedModule_unquoted tail₂

theorem boundImport_unquoted {x : Span × Span} {p q : Place} (h : (x, q) ∈ boundImport p) :
    ∀ c ∈ x.2.text, isQuote c = false := by
  obtain ⟨parts, -, -, -, name⟩ := boundImport_reads h
  rw [name]
  exact fun c hc => by simpa [isModuleChar] using parts.name_plain c hc

theorem bindingName_ok {name : List Char} {x : String} (h : bindingName name = .ok x) :
    x.toList = name := by
  unfold bindingName at h
  split at h
  · obtain rfl := Except.ok.inj h
    exact String.toList_ofList
  · cases h

/-- A type is not bound, so a symbol that is called `type` is one that stands there alone. -/
theorem namedEntry_types {chunk : List Char} {s : NamedSymbol}
    (first : chunk.head?.any isBlank = false) (h : namedEntry chunk = .ok (some s))
    (type : s.imported = "type") : s.localName = "type" := by
  have checked : ∀ (isType : Bool) (imported name : List Char),
      (do
        let imported ← bindingName imported
        let name ← bindingName name
        pure (if isType then none else some ⟨imported, name⟩)) = Except.ok (some s) →
      isType = false ∧ s.imported.toList = imported ∧ s.localName.toList = name := by
    intro isType imported name h
    obtain ⟨imported', himported, h⟩ := ok_of_bind h
    obtain ⟨name', hname, h⟩ := ok_of_bind h
    cases isType with
    | true => cases Except.ok.inj h
    | false =>
      obtain rfl := Option.some.inj (Except.ok.inj h)
      exact ⟨rfl, bindingName_ok himported, bindingName_ok hname⟩
  have letters : s.imported.toList = "type".toList := congrArg String.toList type
  unfold namedEntry at h
  dsimp only at h
  split at h
  · obtain ⟨-, imported, name⟩ := checked _ _ _ h
    exact String.toList_injective (name.trans (imported.symm.trans letters))
  · rename_i imported name parts
    obtain ⟨notType, hi, -⟩ := checked _ _ _ h
    cases after : afterWord? "type" chunk with
    | some rest => simp [after] at notType
    | none =>
      -- the first word is `type`, and there is another one behind it
      simp only [after] at parts
      obtain ⟨c, t, rfl, blank⟩ := words_cons_cons first parts
      have found : afterWord? "type" (imported ++ c :: t) = some (c :: t) :=
        afterWord?_eq_some.mpr ⟨congrArg (· ++ c :: t) (hi.symm.trans letters), by simpa using blank⟩
      rw [found] at after
      cases after
  · cases h

theorem namedEntries_types {chunks : List (List Char)} {named : List NamedSymbol}
    (h : namedEntries chunks = .ok named) : ∀ s ∈ named, s.imported = "type" → s.localName = "type" := by
  induction chunks generalizing named with
  | nil =>
    obtain rfl := Except.ok.inj h
    simp
  | cons chunk chunks ih =>
    unfold namedEntries at h
    split at h
    · exact ih h
    · obtain ⟨entry, hentry, h⟩ := ok_of_bind h
      obtain ⟨entries, hentries, h⟩ := ok_of_bind h
      obtain rfl := Except.ok.inj h
      intro s hs
      rcases List.mem_append.mp hs with hs | hs
      · obtain rfl := Option.mem_toList.mp hs
        exact namedEntry_types (trimmed_trim chunk).1 hentry
      · exact ih hentries s hs

/-- What a clause cannot say: names in braces beside a namespace, or `type` under another name. -/
structure Shaped (moduleName : String) (r : Reference) : Prop where
  moduleName : r.moduleName = moduleName
  apart : r.named = [] ∨ r.namespaceName = none
  types : ∀ s ∈ r.named, s.imported = "type" → s.localName = "type"

theorem group_shaped {moduleName : String} {defaultName : Option String} {rest : List Char}
    {r : Reference} (h : group moduleName defaultName rest = .ok r) : Shaped moduleName r := by
  unfold group at h
  split at h
  · split at h
    · cases h
    · obtain ⟨name, -, h⟩ := ok_of_bind h
      obtain rfl := Except.ok.inj h
      exact ⟨rfl, .inl rfl, by simp⟩
  · split at h
    · cases h
    · split at h
      · cases h
      · obtain ⟨named, hnamed, h⟩ := ok_of_bind h
        obtain rfl := Except.ok.inj h
        exact ⟨rfl, .inr rfl, namedEntries_types hnamed⟩
  · cases h

theorem ofClause_shaped {moduleName : String} {clause : List Char} {r : Reference}
    (h : ofClause moduleName clause = .ok r) : Shaped moduleName r := by
  unfold ofClause at h
  dsimp only at h
  split at h
  · exact group_shaped h
  · obtain ⟨name, -, h⟩ := ok_of_bind h
    split at h
    · obtain rfl := Except.ok.inj h
      exact ⟨rfl, .inl rfl, by simp⟩
    · split at h
      · cases h
      · exact group_shaped h

theorem ofStatement_wellFormed {statement : List Char} {r : Reference}
    (h : ofStatement statement = .ok r) : r.WellFormed := by
  have plain := ofStatement_plain h
  have module : ∃ text : List Char, (∀ c ∈ text, isQuote c = false) ∧
      Shaped (String.ofList (trim text)) r := by
    unfold ofStatement at h
    split at h
    · rename_i x rest found
      obtain ⟨gap, t, q, -, -, way⟩ := matchStart?_whole_reads found
      obtain rfl := Except.ok.inj h
      exact ⟨x.text, effectImport_unquoted way, rfl, .inl rfl, by simp⟩
    · split at h
      · cases h
      · rename_i clause x rest found
        obtain ⟨gap, t, q, -, -, way⟩ := matchStart?_whole_reads found
        dsimp only at h
        obtain ⟨r', hr, h⟩ := ok_of_bind h
        obtain rfl := Except.ok.inj h
        obtain ⟨name, apart, types⟩ := ofClause_shaped hr
        exact ⟨x.text, boundImport_unquoted way, name, apart, types⟩
  obtain ⟨text, unquoted, name, apart, types⟩ := module
  refine ⟨?_, ?_, plain, apart, types⟩
  · rw [name, String.toList_ofList, trim_trim]
  · rw [name, String.toList_ofList]
    exact fun c hc => unquoted c (mem_of_mem_trim hc)

theorem parse_wellFormed {statement : List Char} {r : Reference} (h : parse statement = .ok r) :
    r.WellFormed := by
  unfold parse at h
  cases read : ofStatement statement with
  | error fault =>
    rw [read] at h
    cases h
  | ok r' =>
    rw [read] at h
    obtain rfl := Except.ok.inj h
    exact ofStatement_wellFormed read

end Reference

theorem Text.mem_intercalate {sep : List Char} {texts : List (List Char)} {c : Char}
    (h : c ∈ sep.intercalate texts) : c ∈ sep ∨ ∃ s ∈ texts, c ∈ s := by
  induction texts with
  | nil => simp [List.intercalate] at h
  | cons s texts ih =>
    cases texts with
    | nil => exact .inr ⟨s, by simp, by simpa [List.intercalate] using h⟩
    | cons t texts =>
      rw [List.intercalate_cons_cons, List.mem_append, List.mem_append] at h
      rcases h with (first | between) | rest
      · exact .inr ⟨s, by simp, first⟩
      · exact .inl between
      · refine (ih rest).imp_right ?_
        rintro ⟨u, hu, member⟩
        exact ⟨u, by simp [hu], member⟩

namespace NamedSymbol

/-- The names are plain, and what is imported as `type` keeps its name. -/
structure Readable (s : NamedSymbol) : Prop where
  imported : IsPlain s.imported
  localName : IsPlain s.localName
  type : s.imported = "type" → s.localName = "type"

variable {s : NamedSymbol}

theorem Readable.chars (h : s.Readable) : ∀ c ∈ s.text, isPlainRest c = true ∨ c = ' ' := by
  intro c hc
  rw [text] at hc
  split at hc
  · exact .inl (h.imported.letters c hc)
  · rcases List.mem_append.mp hc with hc | hc
    · exact .inl (h.imported.letters c hc)
    · rcases List.mem_append.mp hc with hc | hc
      · simp only [String.reduceToList, List.mem_cons, List.not_mem_nil, or_false] at hc
        rcases hc with rfl | rfl | rfl | rfl <;> decide
      · exact .inl (h.localName.letters c hc)

theorem Readable.trimmed (h : s.Readable) : Trimmed s.text ∧ s.text ≠ [] := by
  rw [text]
  split
  · exact ⟨h.imported.trimmed, h.imported.ne_nil⟩
  · exact ⟨h.imported.trimmed.enclose h.imported.ne_nil h.localName.trimmed h.localName.ne_nil _,
      by simp [h.imported.ne_nil]⟩

end NamedSymbol

namespace Reference

theorem afterWord?_name {name : String} (plain : IsPlain name) (w : String) :
    afterWord? w name.toList = none := by
  refine Option.eq_none_iff_forall_ne_some.mpr fun t found => ?_
  obtain ⟨parts, blank⟩ := afterWord?_eq_some.mp found
  cases t with
  | nil => cases blank
  | cons c t =>
    have unblank := plain.unblank c (by rw [parts]; simp)
    have blank : isBlank c = true := blank
    rw [unblank] at blank
    cases blank

theorem afterWord?_type {s : NamedSymbol} (h : s.Readable) : afterWord? "type" s.text = none := by
  rw [NamedSymbol.text]
  split
  · exact afterWord?_name h.imported "type"
  · rename_i other
    refine Option.eq_none_iff_forall_ne_some.mpr fun t found => ?_
    obtain ⟨parts, blank⟩ := afterWord?_eq_some.mp found
    cases t with
    | nil => cases blank
    | cons c t =>
      have blank : isBlank c = true := blank
      have unblank : ∀ d ∈ s.imported.toList, (!isBlank d) = true :=
        fun d hd => by simp [h.imported.unblank d hd]
      have word : ∀ d ∈ "type".toList, (!isBlank d) = true := List.all_eq_true.mp (by decide)
      obtain ⟨letters, -, -⟩ := run_eq_of_append unblank word (by decide) (by simp [blank]) parts
      have type : s.imported = "type" := String.toList_injective letters
      exact other (type.trans (h.type type).symm)

theorem namedEntry_text {s : NamedSymbol} (h : s.Readable) : namedEntry s.text = .ok (some s) := by
  unfold namedEntry
  rw [afterWord?_type h]
  dsimp only
  by_cases same : s.imported = s.localName
  · have text : s.text = s.imported.toList := if_pos same
    have entry : (⟨s.imported, s.imported⟩ : NamedSymbol) = s := by
      rw [show (⟨s.imported, s.imported⟩ : NamedSymbol) = ⟨s.imported, s.localName⟩ by rw [← same]]
    rw [text, h.imported.words_eq]
    simp only [pure_bind, h.imported.bindingName_eq]
    exact congrArg (Except.ok ∘ some) entry
  · have text : s.text = s.imported.toList ++ ' ' :: ("as".toList ++ ' ' :: s.localName.toList) := by
      rw [NamedSymbol.text, if_neg same]
      simp
    have parts : words s.text = [s.imported.toList, ['a', 's'], s.localName.toList] := by
      rw [text, words_append (by decide), words_append (by decide), h.imported.words_eq,
        h.localName.words_eq]
      rfl
    rw [parts]
    simp only [pure_bind, h.imported.bindingName_eq, h.localName.bindingName_eq]
    rfl

theorem namedEntries_cons {s : NamedSymbol} (h : s.Readable) {chunk : List Char}
    (trims : trim chunk = s.text) (chunks : List (List Char)) :
    namedEntries (chunk :: chunks) = (s :: ·) <$> namedEntries chunks := by
  rw [namedEntries, trims]
  split
  · rename_i none
    exact absurd none h.trimmed.2
  · rw [namedEntry_text h]
    rfl

theorem splitAt_symbol {s : NamedSymbol} (h : s.Readable) {gap : List Char}
    (blank : ∀ c ∈ gap, c = ' ') :
    splitAt (· == ',') (' ' :: (s.text ++ gap)) = [' ' :: (s.text ++ gap)] := by
  refine splitAt_free fun c hc => ?_
  rw [beq_eq_false_iff_ne]
  rintro rfl
  rcases List.mem_cons.mp hc with space | hc
  · exact absurd space (by decide)
  · rcases List.mem_append.mp hc with hc | hc
    · rcases h.chars _ hc with letter | space
      · exact absurd letter (by decide)
      · exact absurd space (by decide)
    · exact absurd (blank _ hc) (by decide)

theorem trim_symbol {s : NamedSymbol} (h : s.Readable) {gap : List Char}
    (blank : ∀ c ∈ gap, c = ' ') : trim (' ' :: (s.text ++ gap)) = s.text := by
  have spaces : ∀ c ∈ gap, isBlank c = true := by
    intro c hc
    rw [blank c hc]
    decide
  exact h.trimmed.1.trim_around (g := [' ']) blank_space spaces

theorem namedEntries_texts {named : List NamedSymbol} (some : named ≠ [])
    (h : ∀ s ∈ named, s.Readable) :
    namedEntries (splitAt (· == ',')
      (' ' :: (", ".toList.intercalate (named.map NamedSymbol.text) ++ [' ']))) = .ok named := by
  induction named with
  | nil => exact absurd rfl some
  | cons s rest ih =>
    have here := h s (by simp)
    cases rest with
    | nil =>
      rw [List.map_cons, List.map_nil, List.intercalate_singleton, splitAt_symbol here (by simp),
        namedEntries_cons here (trim_symbol here (by simp))]
      rfl
    | cons next rest =>
      have further := ih (by simp) fun t ht => h t (List.mem_cons_of_mem _ ht)
      have shape : ' ' :: (", ".toList.intercalate ((s :: next :: rest).map NamedSymbol.text) ++ [' ']) =
          (' ' :: (s.text ++ [])) ++ ',' ::
            (' ' :: (", ".toList.intercalate ((next :: rest).map NamedSymbol.text) ++ [' '])) := by
        rw [List.map_cons, List.map_cons, List.intercalate_cons_cons]
        simp
      rw [shape, splitAt_append (by decide), splitAt_symbol here (by simp), List.singleton_append,
        namedEntries_cons here (trim_symbol here (by simp)), further]
      rfl

namespace WellFormed

variable {r : Reference} {g : List Char}

theorem readable (h : r.WellFormed) : ∀ s ∈ r.named, s.Readable :=
  fun s hs => ⟨(h.plain.named s hs).1, (h.plain.named s hs).2, h.types s hs⟩

theorem inner_chars (h : r.WellFormed) :
    ∀ c ∈ ' ' :: (", ".toList.intercalate (r.named.map NamedSymbol.text) ++ [' ']),
      isPlainRest c = true ∨ c = ' ' ∨ c = ',' := by
  intro c hc
  simp only [List.mem_cons, List.mem_append, List.not_mem_nil, or_false] at hc
  rcases hc with blank | member | blank
  · exact .inr (.inl blank)
  · rcases mem_intercalate member with sep | ⟨text, ht, hc⟩
    · simp only [String.reduceToList, List.mem_cons, List.not_mem_nil, or_false] at sep
      exact .inr sep.symm
    · obtain ⟨s, hs, rfl⟩ := List.mem_map.mp ht
      exact ((h.readable s hs).chars c hc).imp_right .inl
  · exact .inr (.inl blank)

theorem group_braces (h : r.WellFormed) (some : r.named ≠ []) (moduleName : String)
    (defaultName : Option String) :
    group moduleName defaultName (braces r.named) =
      .ok { moduleName, defaultName, named := r.named } := by
  have ends : ' ' :: (", ".toList.intercalate (r.named.map NamedSymbol.text) ++ " \x7d".toList) =
      (' ' :: (", ".toList.intercalate (r.named.map NamedSymbol.text) ++ [' '])) ++ ['\x7d'] := by
    simp
  have free : ∀ brace, (brace = '\x7b' ∨ brace = '\x7d') →
      (' ' :: (", ".toList.intercalate (r.named.map NamedSymbol.text) ++ [' '])).contains brace =
        false := by
    intro brace hb
    rw [List.contains_eq_mem, decide_eq_false_iff_not]
    intro member
    have chars := h.inner_chars brace member
    rcases hb with rfl | rfl <;> exact absurd chars (by decide)
  rw [braces, ends, group]
  simp only [before?_append, free _ (.inl rfl), free _ (.inr rfl), Bool.or_self, Bool.false_eq_true,
    if_false, namedEntries_texts some h.readable]
  rfl

end WellFormed

theorem group_star {name : String} (plain : IsPlain name) (moduleName : String)
    (defaultName : Option String) :
    group moduleName defaultName ("* as ".toList ++ name.toList) =
      .ok { moduleName, defaultName, namespaceName := some name } := by
  have first : trimStart (" as ".toList ++ name.toList) = "as".toList ++ ' ' :: name.toList := by
    rfl
  have after : afterWord? "as" ("as".toList ++ ' ' :: name.toList) = some (' ' :: name.toList) :=
    afterWord?_eq_some.mpr ⟨rfl, rfl⟩
  have name_eq : trim (' ' :: name.toList) = name.toList := by
    have around := plain.trimmed.trim_around (g := [' ']) (h := []) blank_space (by simp)
    rwa [List.append_nil] at around
  have starred : "* as ".toList ++ name.toList = '*' :: (" as ".toList ++ name.toList) := rfl
  rw [starred, group]
  simp only [first, after, name_eq, plain.bindingName_eq]
  rfl

namespace WellFormed

variable {r : Reference} {g : List Char}

theorem group_text (h : r.WellFormed) (some : r.groupText? = some g) (moduleName : String)
    (defaultName : Option String) :
    group moduleName defaultName g =
      .ok { moduleName, defaultName, named := r.named, namespaceName := r.namespaceName } := by
  unfold groupText? at some
  cases ns : r.namespaceName with
  | some name =>
    rw [ns] at some
    obtain rfl := Option.some.inj some
    have none : r.named = [] := h.apart.resolve_right (by simp [ns])
    rw [group_star (h.plain.namespaceName name ns), none]
  | none =>
    simp only [ns] at some
    split at some
    · cases some
    · rename_i nonempty
      obtain rfl := Option.some.inj some
      rw [h.group_braces (by simpa using nonempty)]

/-- A group has no blank at its ends, begins with a brace or a star, and holds no character that
ends a clause. -/
theorem group_chars (h : r.WellFormed) (some : r.groupText? = some g) :
    Trimmed g ∧ (∃ c rest, g = c :: rest ∧ (c = '\x7b' ∨ c = '*')) ∧
      ∀ c ∈ g, isClauseChar c = true := by
  unfold groupText? at some
  cases ns : r.namespaceName with
  | some name =>
    rw [ns] at some
    obtain rfl := Option.some.inj some
    have plain := h.plain.namespaceName name ns
    refine ⟨?_, ⟨'*', _, rfl, .inr rfl⟩, ?_⟩
    · exact Trimmed.enclose (s := ['*']) ⟨by decide, by decide⟩ (by simp) plain.trimmed
        plain.ne_nil " as ".toList
    · intro c hc
      rcases List.mem_append.mp hc with star | letter
      · exact List.all_eq_true.mp (by decide : "* as ".toList.all isClauseChar = true) c star
      · exact isClauseChar_of_isPlainRest (plain.letters c letter)
  | none =>
    simp only [ns] at some
    split at some
    · cases some
    · obtain rfl := Option.some.inj some
      refine ⟨?_, ⟨'\x7b', _, rfl, .inl rfl⟩, ?_⟩
      · have shape : braces r.named = ['\x7b'] ++
            ((' ' :: (", ".toList.intercalate (r.named.map NamedSymbol.text) ++ [' '])) ++ ['\x7d']) := by
          simp [braces]
        rw [shape]
        exact Trimmed.enclose ⟨by decide, by decide⟩ (by simp)
          ⟨by decide, by decide⟩ (by simp) _
      · intro c hc
        have cases : c = '\x7b' ∨
            c ∈ ' ' :: (", ".toList.intercalate (r.named.map NamedSymbol.text) ++ [' ']) ∨ c = '\x7d' := by
          simpa [braces, or_assoc] using hc
        rcases cases with rfl | inner | rfl
        · decide
        · rcases h.inner_chars c inner with letter | rfl | rfl
          · exact isClauseChar_of_isPlainRest letter
          · decide
          · decide
        · decide

end WellFormed

theorem ofClause_group {g : List Char} (trimmed : Trimmed g)
    (opens : ∃ c rest, g = c :: rest ∧ (c = '\x7b' ∨ c = '*')) (moduleName : String) :
    ofClause moduleName g = group moduleName none g := by
  have starts : (startsWith ['\x7b'] g || startsWith ['*'] g) = true := by
    obtain ⟨c, rest, rfl, rfl | rfl⟩ := opens <;> simp [startsWith, after?]
  rw [ofClause]
  simp only [trimmed.trim_eq, starts, if_true]

theorem name_opens_no_group {name : String} (plain : IsPlain name) (rest : List Char) :
    (startsWith ['\x7b'] (name.toList ++ rest) || startsWith ['*'] (name.toList ++ rest)) = false := by
  obtain ⟨c, letters, parts, start⟩ := plain.cons
  have other : ∀ mark, isPlainStart mark = false → mark ≠ c := by
    rintro mark no rfl
    rw [start] at no
    cases no
  rw [parts, Bool.or_eq_false_iff]
  exact ⟨by simp [startsWith, after?, other '\x7b' (by decide)],
    by simp [startsWith, after?, other '*' (by decide)]⟩

theorem name_free {name : String} (plain : IsPlain name) : ∀ c ∈ name.toList, (c != ',') = true := by
  intro c hc
  rw [bne_iff_ne]
  rintro rfl
  exact absurd (plain.letters _ hc) (by decide)

theorem ofClause_name {name : String} (plain : IsPlain name) (moduleName : String) :
    ofClause moduleName name.toList = .ok { moduleName, defaultName := some name } := by
  have unopened := name_opens_no_group plain []
  have before : name.toList.takeWhile (· != ',') = name.toList :=
    List.takeWhile_eq_self_iff.mpr (name_free plain)
  have behind : name.toList.dropWhile (· != ',') = [] := List.dropWhile_eq_nil_iff.mpr (name_free plain)
  rw [List.append_nil] at unopened
  rw [ofClause]
  simp only [plain.trimmed.trim_eq, unopened, before, behind, plain.bindingName_eq]
  rfl

theorem ofClause_both {name : String} (plain : IsPlain name) {g : List Char} (trimmed : Trimmed g)
    (some' : g ≠ []) (moduleName : String) :
    ofClause moduleName (name.toList ++ (", ".toList ++ g)) = group moduleName (some name) g := by
  have unopened := name_opens_no_group plain (", ".toList ++ g)
  have trims : Trimmed (name.toList ++ (", ".toList ++ g)) :=
    plain.trimmed.enclose plain.ne_nil trimmed some' _
  have before : (name.toList ++ (", ".toList ++ g)).takeWhile (· != ',') = name.toList := by
    rw [List.takeWhile_append_of_pos (name_free plain)]
    exact List.append_nil _
  have behind : (name.toList ++ (", ".toList ++ g)).dropWhile (· != ',') = ", ".toList ++ g := by
    rw [List.dropWhile_append_of_pos (name_free plain)]
    rfl
  have tail : trim (' ' :: g) = g := by
    have around := trimmed.trim_around (g := [' ']) (h := []) blank_space (by simp)
    rwa [List.append_nil] at around
  have shape : ", ".toList ++ g = ',' :: ' ' :: g := rfl
  rw [ofClause]
  simp only [trims.trim_eq, unopened, before, behind, plain.trimmed.trim_eq, plain.bindingName_eq]
  rw [shape]
  simp only [tail]
  rfl

namespace WellFormed

variable {r : Reference}

theorem clause_chars (h : r.WellFormed) :
    Trimmed r.clauseText ∧ r.clauseText ≠ [] ∧ ∀ c ∈ r.clauseText, isClauseChar c = true := by
  have letters : ∀ name, r.defaultName = some name → ∀ c ∈ name.toList, isClauseChar c = true :=
    fun name some c hc => isClauseChar_of_isPlainRest ((h.plain.defaultName name some).letters c hc)
  rw [clauseText]
  split
  · exact ⟨⟨by decide, by decide⟩, by decide, List.all_eq_true.mp rfl⟩
  · rename_i g _ group
    obtain ⟨trimmed, ⟨c, rest, rfl, -⟩, chars⟩ := h.group_chars group
    exact ⟨trimmed, List.cons_ne_nil c rest, chars⟩
  · rename_i name first _
    have plain := h.plain.defaultName name first
    exact ⟨plain.trimmed, plain.ne_nil, letters name first⟩
  · rename_i name g first group
    have plain := h.plain.defaultName name first
    obtain ⟨trimmed, ⟨c, rest, rfl, -⟩, chars⟩ := h.group_chars group
    refine ⟨plain.trimmed.enclose plain.ne_nil trimmed (List.cons_ne_nil c rest) _,
      by simp [plain.ne_nil], ?_⟩
    intro d hd
    rcases List.mem_append.mp hd with letter | hd
    · exact letters name first d letter
    · rcases List.mem_append.mp hd with comma | inner
      · exact List.all_eq_true.mp (by decide : ", ".toList.all isClauseChar = true) d comma
      · exact chars d inner

theorem ofClause_text (h : r.WellFormed) (moduleName : String) :
    ofClause moduleName r.clauseText =
      .ok { moduleName, defaultName := r.defaultName, named := r.named,
            namespaceName := r.namespaceName } := by
  have ungrouped : r.groupText? = none → r.named = [] ∧ r.namespaceName = none := by
    intro none
    unfold groupText? at none
    split at none
    · cases none
    · rename_i ns
      split at none
      · rename_i empty
        exact ⟨by simpa using empty, ns⟩
      · cases none
  unfold clauseText
  split
  · rename_i first group
    obtain ⟨named, ns⟩ := ungrouped group
    rw [first, named, ns]
    rfl
  · rename_i g first group
    obtain ⟨trims, opens, -⟩ := h.group_chars group
    rw [ofClause_group trims opens, h.group_text group, first]
  · rename_i name first group
    obtain ⟨named, ns⟩ := ungrouped group
    rw [ofClause_name (h.plain.defaultName name first), first, named, ns]
  · rename_i name g first group
    obtain ⟨trims, ⟨c, rest, rfl, -⟩, -⟩ := h.group_chars group
    rw [ofClause_both (h.plain.defaultName name first) trims (List.cons_ne_nil c rest),
      h.group_text group, first]

theorem clause_opens (h : r.WellFormed) :
    (∃ c rest, r.clauseText = c :: rest ∧ (c = '\x7b' ∨ c = '*')) ∨
      ∃ name rest, IsPlain name ∧ r.clauseText = name.toList ++ rest ∧
        rest.head?.all (· == ',') = true := by
  rw [clauseText]
  split
  · exact .inl ⟨'\x7b', ['\x7d'], rfl, .inl rfl⟩
  · rename_i group
    exact .inl (h.group_chars group).2.1
  · rename_i name first _
    exact .inr ⟨name, [], h.plain.defaultName name first, (List.append_nil _).symm, rfl⟩
  · rename_i name g first _
    exact .inr ⟨name, ", ".toList ++ g, h.plain.defaultName name first, rfl, rfl⟩

/-- The first name of a clause may be `type`, but then no blank and no brace follows it. -/
theorem splitTypeOnly_text (h : r.WellFormed) :
    splitTypeOnly r.clauseText = (false, r.clauseText) := by
  have unread : ∀ rest, after? "type".toList r.clauseText = some rest →
      (rest.head?.any fun c => isBlank c || c == '\x7b') = false := by
    intro rest after
    have parts := after?_eq_some.mp after
    rw [Option.any_eq_false]
    intro d hd
    rw [← Bool.not_eq_true]
    intro marks
    obtain ⟨rest, rfl⟩ := List.head?_eq_some_iff.mp hd
    rcases h.clause_opens with ⟨c, tail, opens, hc⟩ | ⟨name, tail, plain, names, ends⟩
    · rw [opens] at parts
      obtain ⟨rfl, -⟩ := List.cons.inj parts
      exact absurd hc (by decide)
    · have stops : isPlainRest d = false := by
        cases letter : isPlainRest d with
        | false => rfl
        | true =>
          rw [not_isBlank_of_isPlainRest letter, Bool.false_or, beq_iff_eq] at marks
          subst marks
          exact absurd letter (by decide)
      have stops' : tail.head?.any isPlainRest = false := by
        rw [Option.any_eq_false]
        intro e he
        obtain rfl : e = ',' := by simpa [he] using ends
        decide
      have word : ∀ c ∈ "type".toList, isPlainRest c = true := List.all_eq_true.mp (by decide)
      have stops'' : (d :: rest).head?.any isPlainRest = false := stops
      obtain ⟨-, rfl⟩ := run_eq_of_stops plain.letters word stops' stops'' (names.symm.trans parts)
      obtain rfl : d = ',' := by simpa using ends
      exact absurd marks (by decide)
  rw [splitTypeOnly]
  split
  · rename_i rest after
    simp [unread rest after]
  · rfl

theorem splitTypeOnly_type (h : r.WellFormed) :
    splitTypeOnly ("type ".toList ++ r.clauseText) = (true, r.clauseText) := by
  have after : after? "type".toList ("type ".toList ++ r.clauseText) = some (' ' :: r.clauseText) :=
    after?_eq_some.mpr rfl
  have start : trimStart (' ' :: r.clauseText) = r.clauseText := by
    rw [trimStart, List.dropWhile_cons_of_pos (by decide)]
    exact trimStart_eq_self h.clause_chars.1.1
  rw [splitTypeOnly, after]
  simp only [start]
  rfl

theorem parse_canonical (h : r.WellFormed) : parse r.canonical = .ok r := by
  have nonempty : ' ' :: (r.moduleName.toList ++ [' ']) ≠ [] := List.cons_ne_nil _ _
  have plain : ∀ c ∈ ' ' :: (r.moduleName.toList ++ [' ']), isModuleChar c = true := by
    intro c hc
    have cases : c ∈ r.moduleName.toList ∨ c = ' ' := by
      simpa [or_comm, or_assoc] using hc
    rcases cases with letter | rfl
    · simp [isModuleChar, h.unquoted c letter]
    · decide
  have name : String.ofList (trim (' ' :: (r.moduleName.toList ++ [' ']))) = r.moduleName := by
    have around := trim_around (g := [' ']) (h := [' ']) blank_space blank_space r.moduleName.toList
    rw [show ' ' :: (r.moduleName.toList ++ [' ']) = [' '] ++ (r.moduleName.toList ++ [' ']) from rfl,
      around, h.trimmed, String.ofList_toList]
  have read : ofStatement r.canonical = .ok r := by
    unfold canonical
    dsimp only
    split
    · rename_i nothing
      simp only [isEffectOnly, Bool.and_eq_true, Option.isNone_iff_eq_none, List.isEmpty_iff,
        Bool.not_eq_true'] at nothing
      obtain ⟨⟨⟨first, named⟩, ns⟩, typeOnly⟩ := nothing
      rw [ofStatement_effect nonempty plain, name]
      cases r
      simp_all
    · obtain ⟨trimmed, some, chars⟩ := h.clause_chars
      cases typeOnly : r.typeOnly with
      | false =>
        have bound := ofStatement_bound some trimmed chars nonempty plain
        rw [h.splitTypeOnly_text, name] at bound
        dsimp only at bound
        rw [h.ofClause_text] at bound
        refine bound.trans ?_
        rw [← typeOnly]
        rfl
      | true =>
        have typed : Trimmed ("type ".toList ++ r.clauseText) :=
          Trimmed.enclose (s := "type".toList) ⟨by decide, by decide⟩ (by decide) trimmed
            some [' ']
        have typedChars : ∀ c ∈ "type ".toList ++ r.clauseText, isClauseChar c = true := by
          intro c hc
          rcases List.mem_append.mp hc with word | hc
          · exact List.all_eq_true.mp (by decide : "type ".toList.all isClauseChar = true) c word
          · exact chars c hc
        have bound := ofStatement_bound (by simp) typed typedChars nonempty plain
        rw [h.splitTypeOnly_type, name] at bound
        dsimp only at bound
        rw [h.ofClause_text] at bound
        refine bound.trans ?_
        rw [← typeOnly]
        rfl
  rw [parse, read]
  rfl

end WellFormed

/-- What statements are read as is what is well formed, and each such reference is read back from its
canonical statement. -/
theorem parse_inverts_canonical :
    (∀ statement r, parse statement = .ok r → r.WellFormed) ∧
      ∀ r : Reference, r.WellFormed → parse r.canonical = .ok r :=
  ⟨fun _ _ => parse_wellFormed, fun _ => WellFormed.parse_canonical⟩

theorem parse_inverts_canonical_for_grammar_words :
    let r : Reference := ⟨"./m", some "type", [⟨"as", "as"⟩, ⟨"from", "type"⟩], none, true⟩
    r.canonical = "import type type, \x7b as, from as type \x7d from ' ./m ';".toList ∧
      parse r.canonical = .ok r ∧ r.WellFormed := by
  intro r
  have formed : r.WellFormed := by
    refine ⟨by decide, fun c hc => Bool.eq_false_iff.mpr (List.any_eq_false.mp (by decide) c hc),
      ⟨?_, ?_, ?_⟩, .inr rfl, ?_⟩
    · rintro name ⟨⟩
      exact (by decide : isPlainName "type".toList = true)
    · exact List.forall_mem_cons.mpr ⟨⟨by unfold IsPlain; decide, by unfold IsPlain; decide⟩,
        List.forall_mem_cons.mpr ⟨⟨by unfold IsPlain; decide, by unfold IsPlain; decide⟩, by simp⟩⟩
    · rintro name ⟨⟩
    · simp [r]
  have read : parse r.canonical = .ok r := parse_inverts_canonical.2 r formed
  exact ⟨by decide, read, parse_inverts_canonical.1 _ _ read⟩

end Reference
end PagePreview
