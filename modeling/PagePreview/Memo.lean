/-! A bounded memo: values kept under the exact text they were computed from. Entries are found by a
digest of the text, and a queue tells in which order they came, so that the oldest make room for a new
one. -/

namespace PagePreview

structure Memo.Entry (α : Type) where
  source : String
  value : α
  deriving DecidableEq

structure Memo (δ α : Type) where
  capacity : Nat
  entries : List (δ × Memo.Entry α) := []
  order : List δ := []

namespace Memo
variable {δ α ε : Type} [DecidableEq δ]

def size (m : Memo δ α) : Nat := m.entries.length

def held? (m : Memo δ α) (digest : δ) : Option (Entry α) := m.entries.lookup digest

def get? (hash : String → δ) (m : Memo δ α) (source : String) : Option α :=
  match m.held? (hash source) with
  | some entry => if entry.source = source then some entry.value else none
  | none => none

def without (entries : List (δ × Entry α)) (digest : δ) : List (δ × Entry α) :=
  entries.filter (·.1 ≠ digest)

def withEntry (entries : List (δ × Entry α)) (digest : δ) (entry : Entry α) :
    List (δ × Entry α) :=
  (digest, entry) :: without entries digest

def makeRoom (capacity : Nat) : List δ → List (δ × Entry α) → List δ × List (δ × Entry α)
  | [], entries => ([], entries)
  | oldest :: order, entries =>
    if capacity ≤ order.length + 1 then makeRoom capacity order (without entries oldest)
    else (oldest :: order, entries)

/-- Keeps a value, in place of what its digest has, else as the newest entry. A memo without capacity
keeps nothing. -/
def insert (hash : String → δ) (m : Memo δ α) (source : String) (value : α) : Memo δ α :=
  let digest := hash source
  if m.capacity = 0 then m
  else if (m.held? digest).isSome then
    { m with entries := withEntry m.entries digest ⟨source, value⟩ }
  else
    let (order, entries) := makeRoom m.capacity m.order m.entries
    { m with
      order := order ++ [digest]
      entries := withEntry entries digest ⟨source, value⟩ }

def getOrCompute (hash : String → δ) (m : Memo δ α) (source : String)
    (compute : Unit → Except ε α) : Except ε α × Memo δ α :=
  match m.get? hash source with
  | some value => (.ok value, m)
  | none =>
    match compute () with
    | .ok value => (.ok value, m.insert hash source value)
    | .error e => (.error e, m)

end Memo
end PagePreview
