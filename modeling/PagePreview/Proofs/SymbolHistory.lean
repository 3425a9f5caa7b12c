import PagePreview.Proofs.Locals

/-!
# The first offer of a name counts

A table of symbols is filled by single symbols and by whole references, in any order. Whatever the
calls, it holds the first offer of each name, in the order of these offers, and later calls only
add behind what is there.
-/

namespace PagePreview

/-- The offers whose names have not been offered before. -/
def firstOffers : List ClassifiedSymbol → List ClassifiedSymbol
  | [] => []
  | s :: offers => s :: (firstOffers offers).filter (·.name ≠ s.name)

namespace SymbolTable

/-- What can be asked of a table so that it may grow. -/
inductive Call
  | insert (name : String) (kind : SymbolKind) (module : String)
  | insertAliased (name imported : String) (kind : SymbolKind) (module : String)
  | register (r : Reference)

namespace Call

/-- The symbols that a call offers, in their order. -/
def offers (config : Config) : Call → List ClassifiedSymbol
  | .insert name kind module => [⟨name, name, kind, module⟩]
  | .insertAliased name imported kind module => [⟨name, imported, kind, module⟩]
  | .register r => if r.isStubbed config then r.symbols config else []

/-- The answer of a call, if it gives one, and the table behind it. -/
def perform (config : Config) (table : SymbolTable) : Call → Option Bool × SymbolTable
  | .insert name kind module => (table.insertNamed name kind module).map some id
  | .insertAliased name imported kind module => (table.insertAliased name imported kind module).map some id
  | .register r => (none, table.register config r)

end Call

def after (config : Config) (calls : List Call) : SymbolTable :=
  calls.foldl (fun table call => (call.perform config table).2) empty

variable {config : Config} {table : SymbolTable}

theorem perform_eq (call : Call) : (call.perform config table).2 = (call.offers config).foldl insert table := by
  cases call with
  | insert name kind module => rfl
  | insertAliased name imported kind module => rfl
  | register r =>
    change register config table r = (if r.isStubbed config then r.symbols config else []).foldl insert table
    rw [register_eq]
    split <;> rfl

theorem after_eq (calls : List Call) :
    after config calls = (calls.flatMap (Call.offers config)).foldl insert empty := by
  have fold : ∀ table, calls.foldl (fun table call => (call.perform config table).2) table =
      (calls.flatMap (Call.offers config)).foldl insert table := by
    induction calls with
    | nil => exact fun _ => rfl
    | cons call calls ih =>
      intro table
      rw [List.foldl_cons, perform_eq, ih, List.flatMap_cons, List.foldl_append]
  exact fold empty

theorem InStep.perform (h : table.InStep) (call : Call) : (call.perform config table).2.InStep := by
  rw [perform_eq]
  exact h.foldl _

theorem inStep_after (config : Config) (calls : List Call) : (after config calls).InStep := by
  have run : ∀ table : SymbolTable, table.InStep →
      (calls.foldl (fun table call => (call.perform config table).2) table).InStep := by
    induction calls with
    | nil => exact fun _ h => h
    | cons call calls ih => exact fun _ h => ih _ (h.perform call)
  exact run empty .empty

theorem foldl_insert_entries (offers : List ClassifiedSymbol) (table : SymbolTable) :
    (offers.foldl insert table).entries =
      table.entries ++ (firstOffers offers).filter (fun s => !table.contains s.name) := by
  induction offers generalizing table with
  | nil => exact (List.append_nil _).symm
  | cons s offers ih =>
    rw [List.foldl_cons, ih, firstOffers, List.filter_cons]
    unfold insert
    cases taken : table.contains s.name with
    | true =>
      have others : ∀ t ∈ firstOffers offers, (!table.contains t.name) = true → t.name ≠ s.name := by
        rintro t - free same
        rw [same, taken] at free
        cases free
      simp only [if_true, Bool.not_true, Bool.false_eq_true, if_false, List.filter_filter, List.append_cancel_left_eq]
      refine List.filter_congr fun t mem => ?_
      cases free : !table.contains t.name with
      | true => simp [others t mem free]
      | false => rfl
    | false =>
      simp only [Bool.false_eq_true, if_false, Bool.not_false, if_true, List.append_assoc,
        List.singleton_append, List.filter_filter]
      refine congrArg (fun rest => table.entries ++ s :: rest) (List.filter_congr fun t _ => ?_)
      have both : (table.insert s).contains t.name = (table.contains t.name || s.name == t.name) := by
        rw [Bool.eq_iff_iff, contains_insert]
        simp
      unfold insert at both
      rw [taken, if_neg Bool.false_ne_true] at both
      rw [both, Bool.not_or, Bool.and_comm]
      by_cases same : s.name = t.name
      · simp [same]
      · simp [same, Ne.symm same]

/-- The table behind any calls, and what one more call does to it. -/
theorem after_first_offers (config : Config) (calls : List Call) :
    let table := after config calls
    let offers := calls.flatMap (Call.offers config)
    table.entries = firstOffers offers ∧
    (table.entries.map (·.name)).Nodup ∧
    (∀ name, table.contains name = true ↔ name ∈ table.entries.map (·.name)) ∧
    (∀ name, table.get? name = (offers.find? (·.name = name)).map (·.kind)) ∧
    (∀ call, table.entries <+: (Call.perform config table call).2.entries) ∧
    (∀ name kind module, (Call.perform config table (.insert name kind module)).1 = some true ↔
      name ∉ table.entries.map (·.name)) ∧
    ∀ name imported kind module,
      (Call.perform config table (.insertAliased name imported kind module)).1 = some true ↔
        name ∉ table.entries.map (·.name) := by
  intro table offers
  have whole : table = offers.foldl insert empty := after_eq calls
  have inStep : table.InStep := inStep_after config calls
  have free (name imported : String) (kind : SymbolKind) (module : String) :
      some (table.insertAliased name imported kind module).1 = some true ↔
        name ∉ table.entries.map (·.name) := by
    rw [← names, ← inStep.taken, insertAliased]
    simp
  refine ⟨?_, inStep.nodup, inStep.taken, fun name => ?_, fun call => ?_, ?_, ?_⟩
  · rw [whole, foldl_insert_entries]
    apply List.filter_eq_self.mpr
    intro s mem
    simp [contains, empty]
  · have kind : table.get? name = (table.symbol? name).map (·.kind) := by
      rw [get?, symbol?]
      rfl
    rw [kind, whole, foldl_insert_symbol? .empty]
    rfl
  · rw [perform_eq, foldl_insert_entries]
    exact List.prefix_append _ _
  · exact fun name kind module => free name name kind module
  · exact free

end SymbolTable
end PagePreview
