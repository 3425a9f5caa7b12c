import PagePreview.Proofs.Locals
import PagePreview.Proofs.Text.Quiet

/-!
# Names that are read

A name is checked before a reference binds it, so every name that a scan binds is a plain one. The
names of classified symbols and of runtime bindings are among those.
-/

namespace PagePreview
open Text

/-- A name that is plain, and so can be written into a script as it is. -/
def IsPlain (name : String) : Prop := isPlainName name.toList = true

theorem IsPlain.unbroken {name : String} (h : IsPlain name) : Unbroken name.toList :=
  plainName_unbroken h

/-- Every name of the reference is plain, those that its module gives its symbols included. -/
structure Reference.Plain (r : Reference) : Prop where
  defaultName : ∀ name, r.defaultName = some name → IsPlain name
  named : ∀ s ∈ r.named, IsPlain s.imported ∧ IsPlain s.localName
  namespaceName : ∀ name, r.namespaceName = some name → IsPlain name

theorem ok_of_bind {ε α β : Type} {x : Except ε α} {f : α → Except ε β} {b : β}
    (h : x >>= f = .ok b) : ∃ a, x = .ok a ∧ f a = .ok b := by
  cases x with
  | error e => cases h
  | ok a => exact ⟨a, rfl, h⟩

namespace Reference

theorem bindingName_plain {name : List Char} {x : String} (h : bindingName name = .ok x) :
    IsPlain x := by
  unfold bindingName at h
  split at h
  · rename_i plain
    obtain rfl := Except.ok.inj h
    simpa [IsPlain] using plain
  · cases h

theorem namedEntry_plain {chunk : List Char} {x : Option NamedSymbol}
    (h : namedEntry chunk = .ok x) :
    ∀ s ∈ x.toList, IsPlain s.imported ∧ IsPlain s.localName := by
  unfold namedEntry at h
  dsimp only at h
  have checked : ∀ (isType : Bool) (imported name : List Char),
      (do
        let imported ← bindingName imported
        let name ← bindingName name
        pure (if isType then none else some ⟨imported, name⟩)) = Except.ok x →
      ∀ s ∈ x.toList, IsPlain s.imported ∧ IsPlain s.localName := by
    intro isType imported name h
    obtain ⟨imported', himported, h⟩ := ok_of_bind h
    obtain ⟨name', hname, h⟩ := ok_of_bind h
    obtain rfl := Except.ok.inj h
    cases isType with
    | true => simp
    | false => simpa using ⟨bindingName_plain himported, bindingName_plain hname⟩
  split at h
  · exact checked _ _ _ h
  · exact checked _ _ _ h
  · cases h

theorem namedEntries_plain {chunks : List (List Char)} {named : List NamedSymbol}
    (h : namedEntries chunks = .ok named) : ∀ s ∈ named, IsPlain s.imported ∧ IsPlain s.localName := by
  induction chunks generalizing named with
  | nil =>
    obtain rfl := Except.ok.inj h
    simp
  | cons chunk chunks ih =>
    unfold namedEntries at h
    split at h
    · exact ih h
    · obtain ⟨entry, hentry, h⟩ := ok_of_bind h
      obtain ⟨entries, hentries, h⟩ := ok_of_bind h
      obtain rfl := Except.ok.inj h
      intro s hs
      rcases List.mem_append.mp hs with hs | hs
      · exact namedEntry_plain hentry s hs
      · exact ih hentries s hs

theorem group_plain {moduleName : String} {defaultName : Option String} {rest : List Char}
    {r : Reference} (first : ∀ name, defaultName = some name → IsPlain name)
    (h : group moduleName defaultName rest = .ok r) : r.Plain := by
  unfold group at h
  split at h
  · split at h
    · cases h
    · obtain ⟨name, hname, h⟩ := ok_of_bind h
      obtain rfl := Except.ok.inj h
      exact ⟨first, by simp, by simpa using bindingName_plain hname⟩
  · split at h
    · cases h
    · split at h
      · cases h
      · obtain ⟨named, hnamed, h⟩ := ok_of_bind h
        obtain rfl := Except.ok.inj h
        exact ⟨first, namedEntries_plain hnamed, by simp⟩
  · cases h

theorem ofClause_plain {moduleName : String} {clause : List Char} {r : Reference}
    (h : ofClause moduleName clause = .ok r) : r.Plain := by
  unfold ofClause at h
  dsimp only at h
  split at h
  · exact group_plain (by simp) h
  · obtain ⟨name, hname, h⟩ := ok_of_bind h
    have first : ∀ name', some name = some name' → IsPlain name' := by
      simpa using bindingName_plain hname
    split at h
    · obtain rfl := Except.ok.inj h
      exact ⟨first, by simp, by simp⟩
    · split at h
      · cases h
      · exact group_plain first h

theorem ofStatement_plain {statement : List Char} {r : Reference}
    (h : ofStatement statement = .ok r) : r.Plain := by
  unfold ofStatement at h
  split at h
  · obtain rfl := Except.ok.inj h
    exact ⟨by simp, by simp, by simp⟩
  · split at h
    · cases h
    · dsimp only at h
      obtain ⟨r', hr, h⟩ := ok_of_bind h
      obtain rfl := Except.ok.inj h
      obtain ⟨first, named, last⟩ := ofClause_plain hr
      exact ⟨first, named, last⟩

theorem parse_plain {statement : List Char} {r : Reference} (h : parse statement = .ok r) :
    r.Plain := by
  unfold parse at h
  cases read : ofStatement statement with
  | error fault =>
    rw [read] at h
    cases h
  | ok r' =>
    rw [read] at h
    obtain rfl := Except.ok.inj h
    exact ofStatement_plain read

theorem Plain.local {r : Reference} (h : r.Plain) {name : String} (bound : name ∈ r.locals) :
    IsPlain name := by
  unfold locals at bound
  split at bound
  · cases bound
  · simp only [List.mem_append, Option.mem_toList, List.mem_map] at bound
    rcases bound with (bound | ⟨s, hs, rfl⟩) | bound
    · exact h.defaultName name bound
    · exact (h.named s hs).2
    · exact h.namespaceName name bound

end Reference

namespace Scan

theorem readStatements_plain {pieces : List (Matcher.Piece (Span × Span))} {rs : List Reference}
    (h : readStatements pieces = .ok rs) : ∀ r ∈ rs, r.Plain := by
  induction pieces generalizing rs with
  | nil =>
    obtain rfl := Except.ok.inj h
    simp
  | cons piece pieces ih =>
    cases piece with
    | kept c => exact ih h
    | hit value statement =>
      obtain ⟨r, hr, h⟩ := ok_of_bind h
      obtain ⟨rs', hrs, h⟩ := ok_of_bind h
      obtain rfl := Except.ok.inj h
      simpa using ⟨Reference.parse_plain hr, ih hrs⟩

theorem references_plain {config : Config} {source : List Char} {scan : Scan}
    (h : ofSource config source = .ok scan) : ∀ r ∈ scan.references, r.Plain := by
  obtain ⟨references, hr, h⟩ := ok_of_bind h
  obtain rfl := Except.ok.inj h
  intro r member
  rcases List.mem_append.mp member with member | member
  · exact readStatements_plain hr r member
  · obtain ⟨module, -, rfl⟩ := List.mem_map.mp member
    exact ⟨by simp [effectReference], by simp [effectReference], by simp [effectReference]⟩

theorem symbols_plain {config : Config} {source : List Char} {scan : Scan}
    (h : ofSource config source = .ok scan) : ∀ s ∈ scan.symbols.entries, IsPlain s.name := by
  intro s hs
  have name : s.name ∈ scan.symbols.names := List.mem_map_of_mem hs
  rw [(ofSource_passes h).1, SymbolTable.mem_ofReferences] at name
  obtain ⟨r, hr, -, bound⟩ := name
  exact (references_plain h r hr).local bound

end Scan

namespace RuntimeBinding

/-- The names that a binding writes into a script. -/
def names : RuntimeBinding → List String
  | .member imported name => [imported, name]
  | .handle name => [name]

theorem ofReference_plain {config : Config} {r : Reference} (h : r.Plain) :
    ∀ b ∈ ofReference config r, ∀ name ∈ b.names, IsPlain name := by
  unfold ofReference
  split
  · simp
  · intro b hb name hname
    rcases List.mem_append.mp hb with hb | hb
    · obtain ⟨bound, member, rfl⟩ := List.mem_map.mp hb
      obtain rfl := List.mem_singleton.mp hname
      rcases List.mem_append.mp member with member | member
      · exact h.defaultName name (Option.mem_toList.mp member)
      · exact h.namespaceName name (Option.mem_toList.mp member)
    · obtain ⟨s, hs, rfl⟩ := List.mem_map.mp hb
      obtain ⟨imported, name'⟩ := h.named s hs
      unfold ofNamed at hname
      split at hname
      · obtain rfl := List.mem_singleton.mp hname
        exact name'
      · simp only [names, List.mem_cons, List.not_mem_nil, or_false] at hname
        rcases hname with rfl | rfl
        · exact imported
        · exact name'

theorem mem_of_mem_foldl_add {table : SymbolTable} {bindings offered : List RuntimeBinding}
    {b : RuntimeBinding} (h : b ∈ offered.foldl (add table) bindings) :
    b ∈ bindings ∨ b ∈ offered := by
  induction offered generalizing bindings with
  | nil => exact .inl h
  | cons first offered ih =>
    rcases ih h with member | member
    · unfold add at member
      split at member
      · exact .inl member
      · rcases List.mem_append.mp member with member | member
        · exact .inl member
        · exact .inr (by simp [List.mem_singleton.mp member])
    · exact .inr (List.mem_cons_of_mem _ member)

end RuntimeBinding

theorem Scan.runtimeBindings_plain {config : Config} {source : List Char} {scan : Scan}
    (h : ofSource config source = .ok scan) :
    ∀ b ∈ scan.runtimeBindings, ∀ name ∈ b.names, IsPlain name := by
  intro b hb
  rw [(ofSource_passes h).2] at hb
  rcases RuntimeBinding.mem_of_mem_foldl_add hb with hb | hb
  · cases hb
  · obtain ⟨r, hr, hb⟩ := List.mem_flatMap.mp hb
    exact RuntimeBinding.ofReference_plain (references_plain h r hr) b hb

end PagePreview
