import PagePreview.Sanitized
import Std.Data.TreeSet.Lemmas
import Mathlib.Data.List.Basic
import Mathlib.Data.List.Nodup

/-!
# What the names of a page are bound to

A scan goes over its references twice, once for the stand-ins and once for what comes from the
runtime handle. Between them the two passes bind every name that a reference binds, and none twice.
-/

namespace PagePreview

/-- The names a reference binds when the page runs. -/
def Reference.locals (r : Reference) : List String :=
  if r.typeOnly then []
  else r.defaultName.toList ++ r.named.map (·.localName) ++ r.namespaceName.toList

/-- What a reference makes of a name if it is the first to bind it. -/
def Reference.symbolOf? (config : Config) (r : Reference) (name : String) :
    Option ClassifiedSymbol :=
  let kind := SymbolKind.classify config name r.moduleName
  if r.defaultName = some name then some ⟨name, name, kind, r.moduleName⟩
  else match r.named.find? (·.localName = name) with
    | some s => some ⟨name, s.imported, kind, r.moduleName⟩
    | none =>
      if r.namespaceName = some name then some ⟨name, name, .namespaceProxy, r.moduleName⟩
      else none

variable {config : Config}

namespace SymbolTable

def symbol? (table : SymbolTable) (name : String) : Option ClassifiedSymbol :=
  table.entries.find? (·.name = name)

def names (table : SymbolTable) : List String := table.entries.map (·.name)

theorem symbol?_isSome {table : SymbolTable} {name : String} :
    (table.symbol? name).isSome = true ↔ name ∈ table.names := by
  simp [symbol?, names]

structure InStep (table : SymbolTable) : Prop where
  taken : ∀ name, table.contains name = true ↔ name ∈ table.names
  nodup : table.names.Nodup

theorem contains_insert (table : SymbolTable) (s : ClassifiedSymbol) (name : String) :
    (table.insert s).contains name = true ↔ table.contains name = true ∨ s.name = name := by
  unfold insert
  split
  · rename_i taken
    constructor
    · exact .inl
    · intro either
      rcases either with old | same
      · exact old
      · exact same ▸ taken
  · unfold contains
    rw [Std.TreeSet.contains_insert]
    simp [or_comm]

theorem names_insert {table : SymbolTable} {s : ClassifiedSymbol} (fresh : table.contains s.name = false) :
    (table.insert s).names = table.names ++ [s.name] := by
  simp [insert, fresh, names]

namespace InStep

variable {table : SymbolTable}

theorem empty : SymbolTable.empty.InStep where
  taken name := by simp [contains, SymbolTable.empty, names]
  nodup := List.nodup_nil

theorem insert (h : table.InStep) (s : ClassifiedSymbol) : (table.insert s).InStep := by
  by_cases known : table.contains s.name = true
  · have same : table.insert s = table := by simp [SymbolTable.insert, known]
    rw [same]
    exact h
  · have fresh : table.contains s.name = false := by simpa using known
    have absent : s.name ∉ table.names := fun mem => known ((h.taken s.name).mpr mem)
    constructor
    · intro name
      rw [contains_insert, names_insert fresh, h.taken]
      simp [eq_comm]
    · rw [names_insert fresh]
      apply List.nodup_append.mpr
      refine ⟨h.nodup, List.nodup_singleton _, ?_⟩
      intro name old other new same
      rw [List.mem_singleton.mp new] at same
      exact absent (same ▸ old)

theorem foldl (h : table.InStep) (symbols : List ClassifiedSymbol) :
    (symbols.foldl SymbolTable.insert table).InStep := by
  induction symbols generalizing table with
  | nil => exact h
  | cons s symbols ih => exact ih (h.insert s)

end InStep

theorem insert_symbol? {table : SymbolTable} (h : table.InStep) (s : ClassifiedSymbol) (name : String) :
    (table.insert s).symbol? name =
      (table.symbol? name).or (if s.name = name then some s else none) := by
  unfold insert
  split
  · rename_i taken
    split
    · rename_i same
      subst same
      have named : s.name ∈ table.names := (h.taken s.name).mp taken
      obtain ⟨old, hold⟩ := Option.isSome_iff_exists.mp (symbol?_isSome.mpr named)
      rw [hold, Option.some_or]
    · rw [Option.or_none]
  · simp only [symbol?, List.find?_append, List.find?_singleton, decide_eq_true_eq]

theorem foldl_insert_symbol? {table : SymbolTable} (h : table.InStep) (symbols : List ClassifiedSymbol)
    (name : String) :
    (symbols.foldl insert table).symbol? name =
      (table.symbol? name).or (symbols.find? (·.name = name)) := by
  induction symbols generalizing table with
  | nil => simp
  | cons s symbols ih =>
    rw [List.foldl_cons, ih (h.insert s), insert_symbol? h, Option.or_assoc, List.find?_cons]
    by_cases same : s.name = name <;> simp [same]

end SymbolTable

namespace Reference

/-- Whether the stand-ins are for what the reference binds. -/
def isStubbed (config : Config) (r : Reference) : Bool :=
  !r.typeOnly && !config.isRuntimeModule r.moduleName

theorem isStubbed_iff (config : Config) (r : Reference) :
    r.isStubbed config = true ↔
      r.typeOnly = false ∧ config.isRuntimeModule r.moduleName = false := by
  simp [isStubbed]

theorem isStubbed_or_isRuntime (config : Config) {r : Reference} {name : String}
    (bound : name ∈ r.locals) :
    r.isStubbed config = true ∨ config.isRuntimeModule r.moduleName = true := by
  rw [isStubbed_iff]
  cases ht : r.typeOnly with
  | true => simp [locals, ht] at bound
  | false => cases config.isRuntimeModule r.moduleName <;> simp

theorem find?_symbols (config : Config) (r : Reference) (name : String) :
    (r.symbols config).find? (·.name = name) = r.symbolOf? config name := by
  have ofOption : ∀ (o : Option String) (f : String → ClassifiedSymbol), (∀ n, (f n).name = n) →
      (o.toList.map f).find? (·.name = name) = if o = some name then some (f name) else none := by
    intro o f hf
    cases o with
    | none => rfl
    | some n => by_cases same : n = name <;> simp [hf, same]
  have ofNamed : (r.named.map fun s => (⟨s.localName, s.imported,
        .classify config s.localName r.moduleName, r.moduleName⟩ : ClassifiedSymbol)).find?
          (·.name = name) =
      (r.named.find? (·.localName = name)).map fun s =>
        ⟨name, s.imported, .classify config name r.moduleName, r.moduleName⟩ := by
    rw [List.find?_map]
    cases hs : r.named.find? (·.localName = name) with
    | none => simpa using hs
    | some s =>
      have same : s.localName = name := by simpa using List.find?_some hs
      rw [← same] at hs ⊢
      exact congrArg (Option.map _) hs
  unfold symbols symbolOf?
  dsimp only
  rw [List.find?_append, List.find?_append, ofNamed, ofOption _ _ fun _ => rfl,
    ofOption _ _ fun _ => rfl]
  split
  · rfl
  · cases r.named.find? (·.localName = name) <;> rfl

theorem symbolOf?_isSome (config : Config) {r : Reference} (bound : r.typeOnly = false)
    (name : String) : (r.symbolOf? config name).isSome = true ↔ name ∈ r.locals := by
  have names : (r.symbols config).map (·.name) = r.locals := by
    simp [symbols, locals, bound, Function.comp_def]
  rw [← find?_symbols, ← names]
  simp

end Reference

namespace SymbolTable

theorem register_eq (config : Config) (table : SymbolTable) (r : Reference) :
    register config table r =
      if r.isStubbed config then (r.symbols config).foldl insert table else table := by
  unfold register Reference.isStubbed
  cases r.typeOnly <;> cases config.isRuntimeModule r.moduleName <;> rfl

theorem InStep.register {table : SymbolTable} (h : table.InStep) (r : Reference) :
    (register config table r).InStep := by
  rw [register_eq]
  split
  · exact h.foldl _
  · exact h

theorem register_symbol? {table : SymbolTable} (h : table.InStep) (r : Reference) (name : String) :
    (register config table r).symbol? name = (table.symbol? name).or
      (if r.isStubbed config then r.symbolOf? config name else none) := by
  rw [register_eq]
  split
  · rw [foldl_insert_symbol? h, Reference.find?_symbols]
  · rw [Option.or_none]

theorem inStep_ofReferences (config : Config) (references : List Reference) :
    (ofReferences config references).InStep := by
  have fold : ∀ (table : SymbolTable), table.InStep →
      (references.foldl (register config) table).InStep := by
    induction references with
    | nil => exact fun _ h => h
    | cons r references ih => exact fun _ h => ih _ (h.register r)
  exact fold empty .empty

theorem ofReferences_symbol? (config : Config) (references : List Reference) (name : String) :
    (ofReferences config references).symbol? name =
      (references.filter (Reference.isStubbed config)).findSome? (·.symbolOf? config name) := by
  have fold : ∀ (table : SymbolTable), table.InStep →
      (references.foldl (register config) table).symbol? name = (table.symbol? name).or
        ((references.filter (Reference.isStubbed config)).findSome? (·.symbolOf? config name)) := by
    induction references with
    | nil => simp
    | cons r references ih =>
      intro table h
      rw [List.foldl_cons, ih _ (h.register r), register_symbol? h, Option.or_assoc, List.filter_cons]
      cases r.isStubbed config with
      | false => simp
      | true => cases hs : r.symbolOf? config name <;> simp [hs]
  rw [ofReferences, fold _ .empty]
  rfl

theorem mem_ofReferences (config : Config) (references : List Reference) (name : String) :
    name ∈ (ofReferences config references).names ↔
      ∃ r ∈ references, r.isStubbed config = true ∧ name ∈ r.locals := by
  rw [← symbol?_isSome, ofReferences_symbol?, List.findSome?_isSome_iff]
  constructor
  · rintro ⟨r, member, found⟩
    obtain ⟨member, stubbed⟩ := List.mem_filter.mp member
    have bound := ((r.isStubbed_iff config).mp stubbed).1
    exact ⟨r, member, stubbed, (r.symbolOf?_isSome config bound name).mp found⟩
  · rintro ⟨r, member, stubbed, found⟩
    have bound := ((r.isStubbed_iff config).mp stubbed).1
    exact ⟨r, List.mem_filter.mpr ⟨member, stubbed⟩, (r.symbolOf?_isSome config bound name).mpr found⟩

end SymbolTable

namespace RuntimeBinding

variable {table : SymbolTable}

@[simp] theorem handle_localName (name : String) : (handle name).localName = name := rfl

@[simp] theorem ofNamed_localName (s : NamedSymbol) : (ofNamed s).localName = s.localName := by
  unfold ofNamed
  split <;> rfl

theorem mem_ofReference (config : Config) (r : Reference) (name : String) :
    name ∈ (ofReference config r).map localName ↔
      config.isRuntimeModule r.moduleName = true ∧ name ∈ r.locals := by
  unfold ofReference Reference.locals
  cases r.typeOnly with
  | true => simp
  | false =>
    cases config.isRuntimeModule r.moduleName with
    | false => simp
    | true =>
      simp only [Bool.false_or, Bool.not_true, Bool.false_eq_true, if_false, List.map_append,
        List.map_map, Function.comp_def, handle_localName, ofNamed_localName, List.map_id',
        List.mem_append, true_and]
      tauto

/-- Bindings that no later pass has to look at again: no name twice, none that is the handle's own
or classified. -/
structure Clear (table : SymbolTable) (bindings : List RuntimeBinding) : Prop where
  nodup : (bindings.map localName).Nodup
  free : ∀ name ∈ bindings.map localName, name ≠ runtimeHandle ∧ name ∉ table.names

section Pass

variable (inStep : table.InStep)

include inStep

theorem add_clear {bindings : List RuntimeBinding} (h : Clear table bindings)
    (b : RuntimeBinding) : Clear table (add table bindings b) := by
  unfold add
  split
  · exact h
  · rename_i fresh
    simp only [Bool.or_eq_true, decide_eq_true_eq, inStep.taken, List.any_eq_true,
      beq_iff_eq, not_or, not_exists, not_and] at fresh
    obtain ⟨⟨notHandle, notClassified⟩, notBound⟩ := fresh
    refine ⟨?_, ?_⟩
    · rw [List.map_append, List.map_singleton, List.nodup_append]
      refine ⟨h.nodup, List.nodup_singleton _, ?_⟩
      rintro name old _ new rfl
      obtain ⟨other, member, same⟩ := List.mem_map.mp old
      exact notBound other member (same.trans (List.mem_singleton.mp new))
    · intro name member
      rw [List.map_append, List.map_singleton, List.mem_append, List.mem_singleton] at member
      rcases member with old | rfl
      · exact h.free name old
      · exact ⟨notHandle, notClassified⟩

theorem mem_add (bindings : List RuntimeBinding) (b : RuntimeBinding)
    (name : String) :
    name ∈ (add table bindings b).map localName ↔
      name ∈ bindings.map localName ∨
        (name = b.localName ∧ name ≠ runtimeHandle ∧ name ∉ table.names) := by
  unfold add
  split
  · rename_i taken
    simp only [Bool.or_eq_true, decide_eq_true_eq, inStep.taken] at taken
    have bound : name = b.localName → name ≠ runtimeHandle → name ∉ table.names →
        name ∈ bindings.map localName := by
      rintro rfl notHandle notClassified
      have known := (taken.resolve_left (not_or.mpr ⟨notHandle, notClassified⟩))
      obtain ⟨other, member, same⟩ := List.any_eq_true.mp known
      exact List.mem_map.mpr ⟨other, member, beq_iff_eq.mp same⟩
    tauto
  · rename_i fresh
    simp only [Bool.or_eq_true, decide_eq_true_eq, inStep.taken, not_or] at fresh
    rw [List.map_append, List.map_singleton, List.mem_append, List.mem_singleton]
    have clear : name = b.localName → name ≠ runtimeHandle ∧ name ∉ table.names := by
      rintro rfl
      exact fresh.1
    tauto

theorem foldl_add_clear {bindings : List RuntimeBinding} (h : Clear table bindings)
    (offered : List RuntimeBinding) : Clear table (offered.foldl (add table) bindings) := by
  induction offered generalizing bindings with
  | nil => exact h
  | cons b offered ih => exact ih (add_clear inStep h b)

theorem mem_foldl_add (bindings offered : List RuntimeBinding)
    (name : String) :
    name ∈ (offered.foldl (add table) bindings).map localName ↔
      name ∈ bindings.map localName ∨
        (name ∈ offered.map localName ∧ name ≠ runtimeHandle ∧ name ∉ table.names) := by
  induction offered generalizing bindings with
  | nil => simp
  | cons b offered ih =>
    rw [List.foldl_cons, ih, mem_add inStep, List.map_cons, List.mem_cons]
    tauto

theorem collect_clear (config : Config) (references : List Reference) :
    Clear table (collect config references table) :=
  foldl_add_clear inStep ⟨by simp, by simp⟩ _

theorem mem_collect (config : Config) (references : List Reference) (name : String) :
    name ∈ (collect config references table).map localName ↔
      (∃ r ∈ references, config.isRuntimeModule r.moduleName = true ∧ name ∈ r.locals) ∧
        name ≠ runtimeHandle ∧ name ∉ table.names := by
  unfold collect
  rw [mem_foldl_add inStep, List.map_flatMap, List.mem_flatMap]
  simp only [mem_ofReference, List.map_nil, List.not_mem_nil, false_or]

end Pass

end RuntimeBinding

theorem Scan.ofSource_passes {config : Config} {source : List Char} {scan : Scan}
    (h : ofSource config source = .ok scan) :
    scan.symbols = SymbolTable.ofReferences config scan.references ∧
      scan.runtimeBindings = RuntimeBinding.collect config scan.references scan.symbols := by
  unfold ofSource at h
  dsimp only at h
  cases hr : readStatements ((Reference.onLines Reference.boundImport).pieces source) with
  | error e =>
    rw [hr] at h
    cases h
  | ok references =>
    rw [hr] at h
    cases h
    exact ⟨rfl, rfl⟩

/-- Every name that a reference of a scan binds is bound once: as a symbol, which is what the first
stubbed reference to bind it makes of it, or else from the runtime handle. The handle's own name is
left alone unless a stubbed reference binds it. -/
theorem scan_binds_locals_once (config : Config) (source : List Char) (scan : Scan)
    (h : Scan.ofSource config source = .ok scan) :
    let bound := scan.runtimeBindings.map (·.localName)
    let stubbed := scan.references.filter (Reference.isStubbed config)
    scan.symbols.names.Nodup ∧ bound.Nodup ∧ scan.symbols.names.Disjoint bound ∧
      (∀ name, name ∈ scan.symbols.names ∨ name ∈ bound ↔
        (∃ r ∈ scan.references, name ∈ r.locals) ∧
          ¬(name = runtimeHandle ∧ ∀ r ∈ scan.references, name ∈ r.locals →
            config.isRuntimeModule r.moduleName = true)) ∧
      ∀ name, scan.symbols.symbol? name = stubbed.findSome? (·.symbolOf? config name) ∧
        ((scan.symbols.symbol? name).isSome ↔ ∃ r ∈ stubbed, name ∈ r.locals) := by
  intro bound stubbed
  obtain ⟨hs, hb⟩ := Scan.ofSource_passes h
  have inStep : scan.symbols.InStep := by
    rw [hs]
    exact SymbolTable.inStep_ofReferences config scan.references
  have clear : RuntimeBinding.Clear scan.symbols scan.runtimeBindings := by
    rw [hb]
    exact RuntimeBinding.collect_clear inStep config scan.references
  have classified : ∀ name, name ∈ scan.symbols.names ↔
      ∃ r ∈ scan.references, r.isStubbed config = true ∧ name ∈ r.locals := by
    rw [hs]
    exact SymbolTable.mem_ofReferences config scan.references
  have fromHandle : ∀ name, name ∈ bound ↔
      (∃ r ∈ scan.references, config.isRuntimeModule r.moduleName = true ∧ name ∈ r.locals) ∧
        name ≠ runtimeHandle ∧ name ∉ scan.symbols.names := by
    intro name
    have := RuntimeBinding.mem_collect inStep config scan.references name
    rwa [← hb] at this
  refine ⟨inStep.nodup, clear.nodup, ?_, ?_, ?_⟩
  · intro name symbol binding
    exact (clear.free name binding).2 symbol
  · intro name
    rw [classified, fromHandle, classified]
    constructor
    · rintro (⟨r, member, stubbed, local_⟩ | ⟨⟨r, member, -, local_⟩, notHandle, -⟩)
      · refine ⟨⟨r, member, local_⟩, fun only => ?_⟩
        have runtime := only.2 r member local_
        simp [((r.isStubbed_iff config).mp stubbed).2] at runtime
      · exact ⟨⟨r, member, local_⟩, fun only => notHandle only.1⟩
    · rintro ⟨⟨r, member, local_⟩, notOnly⟩
      by_cases stubbed : ∃ r ∈ scan.references, r.isStubbed config = true ∧ name ∈ r.locals
      · exact .inl stubbed
      · have runtime : ∀ r ∈ scan.references, name ∈ r.locals →
            config.isRuntimeModule r.moduleName = true := by
          intro r member local_
          refine (r.isStubbed_or_isRuntime config local_).resolve_left fun isStubbed => ?_
          exact stubbed ⟨r, member, isStubbed, local_⟩
        exact .inr ⟨⟨r, member, runtime r member local_, local_⟩,
          fun isHandle => notOnly ⟨isHandle, runtime⟩, stubbed⟩
  · intro name
    refine ⟨?_, ?_⟩
    · rw [hs]
      exact SymbolTable.ofReferences_symbol? config scan.references name
    · rw [SymbolTable.symbol?_isSome, classified]
      simp only [stubbed, List.mem_filter, and_assoc]

theorem scan_binds_locals_once_rebound :
    let source := "import React, { memo as m } from 'react';\nimport { m, Star as S } from 'ui';\n".toList
    ∃ scan, Scan.ofSource {} source = .ok scan ∧ scan.symbols.names = ["m", "S"] ∧
      scan.symbols.names.Nodup ∧
      scan.symbols.names.Disjoint (scan.runtimeBindings.map (·.localName)) := by
  intro source
  have names : (Scan.ofSource {} source).toOption.map (·.symbols.names) = some ["m", "S"] := by
    decide +kernel
  cases h : Scan.ofSource {} source with
  | error e => simp [h, Except.toOption] at names
  | ok scan =>
    obtain ⟨once, -, apart, -⟩ := scan_binds_locals_once {} source scan h
    exact ⟨scan, rfl, by simpa [h, Except.toOption] using names, once, apart⟩

end PagePreview
