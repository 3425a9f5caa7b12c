import PagePreview.Memo
import Mathlib.Data.List.Basic
import Mathlib.Data.List.Nodup
import Mathlib.Data.Set.Function

/-!
# Runs of a memo

A memo only ever answers with what was kept for the very text it is asked about, whatever the digest is.
So a relation between texts and values that holds of all that is put in holds of all that comes out,
through hits, overwriting, eviction and digests that collide.

A memo has a table and a queue, which every access must leave in step. `Holds` says that the two make
one row of slots, the oldest first; keeping a value edits that row. What the row shows holds for any
hash function, digests that collide included. Where digests tell the texts of a run apart, the memo
answers and keeps what a bounded queue of texts does, `Fifo`, which knows of no digests.
-/

namespace PagePreview.Memo
variable {δ α ε : Type} {Good : String → α → Prop} {source : String} {value : α}

def Faithful (Good : String → α → Prop) (m : Memo δ α) : Prop :=
  ∀ x ∈ m.entries, Good x.2.source x.2.value

theorem faithful_of_entries_nil {m : Memo δ α} (h : m.entries = []) : m.Faithful Good := by
  intro x member
  simp [h] at member

variable [DecidableEq δ] {hash : String → δ} {m : Memo δ α}

theorem held?_mem {digest : δ} {entry : Entry α} (h : m.held? digest = some entry) :
    (digest, entry) ∈ m.entries := by
  obtain ⟨front, back, parts, -⟩ := List.lookup_eq_some_iff.mp h
  simp [parts]

theorem get?_eq_some : m.get? hash source = some value ↔
    m.held? (hash source) = some ⟨source, value⟩ := by
  unfold get?
  cases m.held? (hash source) with
  | none => simp
  | some entry =>
    obtain ⟨source', value'⟩ := entry
    by_cases same : source' = source <;> simp [same]

theorem get?_good (hm : m.Faithful Good) (h : m.get? hash source = some value) :
    Good source value :=
  hm _ (held?_mem (get?_eq_some.mp h))

theorem mem_without {entries : List (δ × Entry α)} {digest : δ} {x : δ × Entry α} :
    x ∈ without entries digest ↔ x ∈ entries ∧ x.1 ≠ digest := by
  simp [without]

theorem mem_withEntry {entries : List (δ × Entry α)} {digest : δ} {entry : Entry α}
    {x : δ × Entry α} (h : x ∈ withEntry entries digest entry) :
    x ∈ entries ∨ x = (digest, entry) := by
  rcases List.mem_cons.mp h with fresh | kept
  · exact Or.inr fresh
  · exact Or.inl (mem_without.mp kept).1

theorem mem_makeRoom {capacity : Nat} {order : List δ} {entries : List (δ × Entry α)}
    {x : δ × Entry α} (h : x ∈ (makeRoom capacity order entries).2) : x ∈ entries := by
  induction order generalizing entries with
  | nil => exact h
  | cons oldest order ih =>
    unfold makeRoom at h
    split at h
    · exact (mem_without.mp (ih h)).1
    · exact h

theorem mem_entries_insert {x : δ × Entry α} (h : x ∈ (m.insert hash source value).entries) :
    x ∈ m.entries ∨ x = (hash source, ⟨source, value⟩) := by
  dsimp only [insert] at h
  split_ifs at h with empty taken
  · exact Or.inl h
  · exact mem_withEntry h
  · exact (mem_withEntry h).imp_left mem_makeRoom

theorem insert_faithful (hm : m.Faithful Good) (hv : Good source value) :
    (m.insert hash source value).Faithful Good := by
  intro x member
  rcases mem_entries_insert member with kept | rfl
  · exact hm x kept
  · exact hv

theorem getOrCompute_value (compute : String → Except ε α) (source : String)
    (hm : m.Faithful fun s v => compute s = .ok v) :
    (m.getOrCompute hash source fun _ => compute source).1 = compute source := by
  unfold getOrCompute
  cases found : m.get? hash source with
  | some v => exact (get?_good hm found).symm
  | none => cases compute source <;> rfl

theorem getOrCompute_faithful (compute : String → Except ε α) (source : String)
    (hm : m.Faithful fun s v => compute s = .ok v) :
    (m.getOrCompute hash source fun _ => compute source).2.Faithful
      fun s v => compute s = .ok v := by
  unfold getOrCompute
  cases m.get? hash source with
  | some v => exact hm
  | none =>
    cases computed : compute source with
    | ok v => exact insert_faithful hm computed
    | error e => exact hm

end PagePreview.Memo

namespace PagePreview

/-- Texts with their values, the earliest first. -/
structure Fifo (α : Type) where
  capacity : Nat
  kept : List (String × α) := []

namespace Fifo
variable {α ε : Type}

def get? (q : Fifo α) (source : String) : Option α := q.kept.lookup source

/-- A text that is there gets the value where it stands; one that is not comes last, and the earliest
make room for it. -/
def insert (q : Fifo α) (source : String) (value : α) : Fifo α :=
  if q.capacity = 0 then q
  else if (q.get? source).isSome then
    { q with kept := q.kept.map fun x => if x.1 = source then (source, value) else x }
  else { q with kept := q.kept.drop (q.kept.length + 1 - q.capacity) ++ [(source, value)] }

end Fifo

namespace Memo
variable {δ α ε : Type}

/-- An access to a memo. What would be computed on a miss is given with it. -/
inductive Access (ε α : Type)
  | insert (source : String) (value : α)
  | get (source : String)
  | getOrCompute (source : String) (computed : Except ε α)

inductive Reply (ε α : Type)
  | done
  | found (value? : Option α)
  | result (r : Except ε α)
  deriving DecidableEq

namespace Access

def source : Access ε α → String
  | insert s _ => s
  | get s => s
  | getOrCompute s _ => s

def serve (q : Fifo α) : Access ε α → Reply ε α × Fifo α
  | insert s v => (.done, q.insert s v)
  | get s => (.found (q.get? s), q)
  | getOrCompute s computed =>
    match q.get? s, computed with
    | some v, _ => (.result (.ok v), q)
    | none, .ok v => (.result (.ok v), q.insert s v)
    | none, .error e => (.result (.error e), q)

variable [DecidableEq δ]

def apply (hash : String → δ) (m : Memo δ α) : Access ε α → Reply ε α × Memo δ α
  | insert s v => (.done, m.insert hash s v)
  | get s => (.found (m.get? hash s), m)
  | getOrCompute s computed =>
    let (r, m) := m.getOrCompute hash s fun _ => computed
    (.result r, m)

def stores (hash : String → δ) (m : Memo δ α) : Access ε α → List (String × α)
  | insert s v => [(s, v)]
  | get _ => []
  | getOrCompute s computed =>
    match m.get? hash s, computed with
    | none, .ok v => [(s, v)]
    | _, _ => []

theorem apply_cases (hash : String → δ) (m : Memo δ α) (a : Access ε α) :
    (∃ v, (a.apply hash m).2 = m.insert hash a.source v ∧ a.stores hash m = [(a.source, v)]) ∨
      (a.apply hash m).2 = m ∧ a.stores hash m = [] := by
  cases a with
  | insert s v => exact .inl ⟨v, rfl, rfl⟩
  | get s => exact .inr ⟨rfl, rfl⟩
  | getOrCompute s computed =>
    cases found : m.get? hash s with
    | some v => exact .inr (by simp [apply, stores, Memo.getOrCompute, found])
    | none =>
      cases computed with
      | ok v => exact .inl ⟨v, by simp [apply, stores, Memo.getOrCompute, source, found]⟩
      | error e => exact .inr (by simp [apply, stores, Memo.getOrCompute, found])

end Access

/-- Accesses to a bounded queue, one after the other. -/
def serveAll (q : Fifo α) : List (Access ε α) → List (Reply ε α) × Fifo α
  | [] => ([], q)
  | a :: accesses =>
    let (r, q) := a.serve q
    let (rs, q) := serveAll q accesses
    (r :: rs, q)

section
variable [DecidableEq δ]

def run (hash : String → δ) (m : Memo δ α) : List (Access ε α) → List (Reply ε α) × Memo δ α
  | [] => ([], m)
  | a :: accesses =>
    let (r, m) := a.apply hash m
    let (rs, m) := run hash m accesses
    (r :: rs, m)

def log (hash : String → δ) (m : Memo δ α) : List (Access ε α) → List (String × α)
  | [] => []
  | a :: accesses => a.stores hash m ++ log hash (a.apply hash m).2 accesses

end

def IsLatest (log : List (String × α)) (source : String) (value : α) : Prop :=
  ∃ before after, log = before ++ (source, value) :: after ∧ ∀ x ∈ after, x.1 ≠ source

theorem IsLatest.last (log : List (String × α)) (source : String) (value : α) :
    IsLatest (log ++ [(source, value)]) source value :=
  ⟨log, [], rfl, fun _ member => absurd member List.not_mem_nil⟩

theorem IsLatest.other {log : List (String × α)} {source other : String} {value value' : α}
    (h : IsLatest log source value) (ne : other ≠ source) :
    IsLatest (log ++ [(other, value')]) source value := by
  obtain ⟨before, after, rfl, later⟩ := h
  refine ⟨before, after ++ [(other, value')], by simp, fun x member => ?_⟩
  rcases List.mem_append.mp member with member | member
  · exact later x member
  · rw [List.mem_singleton.mp member]
    exact ne

/-- The table and the queue of a memo make one row of slots, the oldest first. -/
structure Holds (m : Memo δ α) (slots : List (δ × Entry α)) : Prop where
  order : m.order = slots.map Prod.fst
  entries : m.entries.Perm slots
  nodup : (slots.map Prod.fst).Nodup

variable [DecidableEq δ] {slots entries : List (δ × Entry α)} {digest : δ} {entry : Entry α}
  {m : Memo δ α} {hash : String → δ}

theorem lookup_iff_mem {κ ν : Type} [DecidableEq κ] {pairs : List (κ × ν)}
    (nodup : (pairs.map Prod.fst).Nodup) {k : κ} {v : ν} :
    pairs.lookup k = some v ↔ (k, v) ∈ pairs := by
  rw [List.lookup_eq_some_iff]
  constructor
  · rintro ⟨front, back, rfl, -⟩
    simp
  · intro member
    obtain ⟨front, back, rfl⟩ := List.append_of_mem member
    refine ⟨front, back, rfl, fun x hx => ?_⟩
    rw [bne_iff_ne]
    rintro rfl
    rw [List.map_append, List.nodup_append] at nodup
    exact nodup.2.2 x.1 (List.mem_map_of_mem hx) x.1 (by simp) rfl

theorem Holds.held?_iff (h : m.Holds slots) : m.held? digest = some entry ↔ (digest, entry) ∈ slots := by
  rw [held?, lookup_iff_mem ((h.entries.map Prod.fst).nodup_iff.mpr h.nodup), h.entries.mem_iff]

theorem Holds.isSome_iff (h : m.Holds slots) :
    (m.held? digest).isSome = true ↔ digest ∈ slots.map Prod.fst := by
  simp [Option.isSome_iff_exists, h.held?_iff]

def keep (capacity : Nat) (slots : List (δ × Entry α)) (digest : δ) (entry : Entry α) :
    List (δ × Entry α) :=
  if capacity = 0 then slots
  else if digest ∈ slots.map Prod.fst then
    slots.map fun x => if x.1 = digest then (digest, entry) else x
  else slots.drop (slots.length + 1 - capacity) ++ [(digest, entry)]

/-- Taking the first slot's digest out of the table takes the first slot off the row. -/
theorem without_perm {x : δ × Entry α} (nodup : ((x :: slots).map Prod.fst).Nodup)
    (same : entries.Perm (x :: slots)) : (without entries x.1).Perm slots := by
  have others : ∀ y ∈ slots, y.1 ≠ x.1 := by
    rintro y member equal
    exact (List.nodup_cons.mp nodup).1 (equal ▸ List.mem_map_of_mem member)
  have rest : (x :: slots).filter (·.1 ≠ x.1) = slots := by
    rw [List.filter_cons_of_neg (by simp), List.filter_eq_self]
    exact fun y member => by simpa using others y member
  exact rest ▸ same.filter _

theorem without_absent (absent : digest ∉ slots.map Prod.fst) (same : entries.Perm slots) :
    (without entries digest).Perm slots := by
  have all : slots.filter (·.1 ≠ digest) = slots := by
    refine List.filter_eq_self.mpr fun x member => ?_
    have other : x.1 ≠ digest := fun equal => absent (equal ▸ List.mem_map_of_mem member)
    simpa using other
  exact all ▸ same.filter _

theorem makeRoom_eq (capacity : Nat) (nodup : (slots.map Prod.fst).Nodup)
    (same : entries.Perm slots) :
    (makeRoom capacity (slots.map Prod.fst) entries).1 =
        (slots.drop (slots.length + 1 - capacity)).map Prod.fst ∧
      (makeRoom capacity (slots.map Prod.fst) entries).2.Perm
        (slots.drop (slots.length + 1 - capacity)) := by
  induction slots generalizing entries with
  | nil => exact ⟨by simp [makeRoom], by simpa [makeRoom] using same⟩
  | cons x slots ih =>
    rw [List.map_cons, makeRoom, List.length_map]
    split
    · rename_i full
      have size : (x :: slots).length + 1 - capacity = (slots.length + 1 - capacity) + 1 := by
        rw [List.length_cons]
        omega
      rw [size, List.drop_succ_cons]
      exact ih (List.nodup_cons.mp nodup).2 (without_perm nodup same)
    · rename_i free
      have size : (x :: slots).length + 1 - capacity = 0 := by
        rw [List.length_cons]
        omega
      rw [size]
      exact ⟨rfl, same⟩

theorem map_fst_replaced : (slots.map fun x => if x.1 = digest then (digest, entry) else x).map Prod.fst =
    slots.map Prod.fst := by
  rw [List.map_map]
  refine List.map_congr_left fun x _ => ?_
  by_cases same : x.1 = digest <;> simp [same]

theorem withEntry_perm (nodup : (slots.map Prod.fst).Nodup) (present : digest ∈ slots.map Prod.fst)
    (same : entries.Perm slots) : (withEntry entries digest entry).Perm
      (slots.map fun x => if x.1 = digest then (digest, entry) else x) := by
  obtain ⟨old, member, rfl⟩ := List.mem_map.mp present
  obtain ⟨front, back, rfl⟩ := List.append_of_mem member
  have moved := same.trans List.perm_middle
  have apart := (List.perm_middle.map Prod.fst).nodup_iff.mp nodup
  have kept : ∀ part : List (δ × Entry α), (∀ x ∈ part, x ∈ front ++ back) →
      (part.map fun x => if x.1 = old.1 then (old.1, entry) else x) = part := by
    intro part inside
    refine (List.map_congr_left fun x hx => if_neg fun equal => ?_).trans (List.map_id part)
    exact (List.nodup_cons.mp apart).1 (equal ▸ List.mem_map_of_mem (inside x hx))
  rw [List.map_append, List.map_cons, if_pos rfl, kept front (fun x hx => by simp [hx]),
    kept back (fun x hx => by simp [hx])]
  exact ((without_perm apart moved).cons _).trans List.perm_middle.symm

theorem Holds.insert (h : m.Holds slots) (source : String) (value : α) :
    (m.insert hash source value).Holds (keep m.capacity slots (hash source) ⟨source, value⟩) := by
  unfold Memo.insert keep
  dsimp only
  split_ifs with empty taken present present
  · exact h
  · refine ⟨h.order.trans map_fst_replaced.symm, withEntry_perm h.nodup present h.entries, ?_⟩
    rw [map_fst_replaced]
    exact h.nodup
  · exact absurd (h.isSome_iff.mp taken) present
  · exact absurd (h.isSome_iff.mpr present) taken
  · obtain ⟨order, entries⟩ := makeRoom_eq m.capacity h.nodup h.entries
    rw [h.order]
    generalize slots.length + 1 - m.capacity = count at order entries ⊢
    have absent : hash source ∉ (slots.drop count).map Prod.fst :=
      fun member => present (List.map_subset _ (List.drop_subset count slots) member)
    refine ⟨?_, ?_, ?_⟩
    · dsimp only
      rw [order, List.map_append]
      rfl
    · exact ((without_absent absent entries).cons _).trans (List.perm_append_singleton _ _).symm
    · rw [List.map_append, List.nodup_append]
      refine ⟨h.nodup.sublist ((List.drop_sublist count slots).map _), by simp, ?_⟩
      intro d hd d' hd' equal
      obtain rfl : d' = hash source := by simpa using hd'
      exact absent (equal ▸ hd)

theorem keep_length {capacity : Nat} (room : slots.length ≤ capacity) :
    (keep capacity slots digest entry).length ≤ capacity := by
  unfold keep
  split_ifs with empty present
  · exact room
  · simpa using room
  · simp only [List.length_append, List.length_drop, List.length_singleton]
    omega

/-- A row after an entry is kept has that entry and slots of other digests, unless nothing is kept. -/
theorem mem_keep {capacity : Nat} {x : δ × Entry α} (h : x ∈ keep capacity slots digest entry) :
    x ∈ slots ∧ (capacity = 0 ∨ x.1 ≠ digest) ∨ x = (digest, entry) := by
  unfold keep at h
  split_ifs at h with empty present
  · exact .inl ⟨h, .inl empty⟩
  · obtain ⟨y, member, rfl⟩ := List.mem_map.mp h
    split
    · exact .inr rfl
    · rename_i other
      exact .inl ⟨member, .inr other⟩
  · rcases List.mem_append.mp h with kept | fresh
    · have member := List.mem_of_mem_drop kept
      exact .inl ⟨member, .inr fun same => present (same ▸ List.mem_map_of_mem member)⟩
    · exact .inr (List.mem_singleton.mp fresh)

/-- What every access leaves true: a row that fits, in which each slot stands under the digest of its
text and has the value that was stored last for it. -/
structure Tracks (hash : String → δ) (m : Memo δ α) (slots : List (δ × Entry α))
    (log : List (String × α)) : Prop extends m.Holds slots where
  room : slots.length ≤ m.capacity
  digest : ∀ x ∈ slots, x.1 = hash x.2.source
  latest : ∀ x ∈ slots, IsLatest log x.2.source x.2.value

@[simp] theorem insert_capacity (hash : String → δ) (m : Memo δ α) (source : String) (value : α) :
    (m.insert hash source value).capacity = m.capacity := by
  unfold Memo.insert
  dsimp only
  split_ifs <;> rfl

variable {stored : List (String × α)} {source : String} {value : α}

theorem Tracks.insert (h : Tracks hash m slots stored) (source : String) (value : α) :
    Tracks hash (m.insert hash source value)
      (keep m.capacity slots (hash source) ⟨source, value⟩) (stored ++ [(source, value)]) := by
  refine ⟨h.toHolds.insert source value, ?_, ?_, ?_⟩
  · rw [insert_capacity]
    exact keep_length h.room
  · intro x member
    rcases mem_keep member with ⟨kept, -⟩ | rfl
    · exact h.digest x kept
    · rfl
  · intro x member
    rcases mem_keep member with ⟨kept, empty | other⟩ | rfl
    · have none : slots = [] := List.length_eq_zero_iff.mp (Nat.le_zero.mp (empty ▸ h.room))
      rw [none] at kept
      cases kept
    · refine (h.latest x kept).other ?_
      rintro rfl
      exact other (h.digest x kept)
    · exact .last stored source value

theorem Tracks.get?_latest (h : Tracks hash m slots stored) (hit : m.get? hash source = some value) :
    IsLatest stored source value :=
  h.latest _ (h.held?_iff.mp (get?_eq_some.mp hit))

theorem Tracks.apply (h : Tracks hash m slots stored) (a : Access ε α) :
    ∃ slots', Tracks hash (a.apply hash m).2 slots' (stored ++ a.stores hash m) := by
  rcases a.apply_cases hash m with ⟨v, after, log⟩ | ⟨after, log⟩
  · rw [after, log]
    exact ⟨_, h.insert a.source v⟩
  · rw [after, log, List.append_nil]
    exact ⟨slots, h⟩

theorem Tracks.run (h : Tracks hash m slots stored) (accesses : List (Access ε α)) :
    ∃ slots', Tracks hash (run hash m accesses).2 slots' (stored ++ log hash m accesses) := by
  induction accesses generalizing m slots stored with
  | nil => exact ⟨slots, by simpa [Memo.run, log] using h⟩
  | cons a accesses ih =>
    obtain ⟨next, hnext⟩ := h.apply a
    rw [log, ← List.append_assoc]
    exact ih hnext

omit [DecidableEq δ] in
theorem Tracks.new (hash : String → δ) (capacity : Nat) :
    Tracks hash ({ capacity } : Memo δ α) [] [] where
  order := rfl
  entries := .refl _
  nodup := .nil
  room := Nat.zero_le _
  digest := fun _ member => absurd member List.not_mem_nil
  latest := fun _ member => absurd member List.not_mem_nil

theorem apply_capacity (hash : String → δ) (m : Memo δ α) (a : Access ε α) :
    (a.apply hash m).2.capacity = m.capacity := by
  rcases a.apply_cases hash m with ⟨v, after, -⟩ | ⟨after, -⟩
  · rw [after, insert_capacity]
  · rw [after]

theorem run_capacity (hash : String → δ) (m : Memo δ α) (accesses : List (Access ε α)) :
    (run hash m accesses).2.capacity = m.capacity := by
  induction accesses generalizing m with
  | nil => rfl
  | cons a accesses ih => exact (ih _).trans (apply_capacity hash m a)

def slotOf (hash : String → δ) (x : String × α) : δ × Entry α := (hash x.1, ⟨x.1, x.2⟩)

structure Mirrors (hash : String → δ) (texts : Set String) (m : Memo δ α) (q : Fifo α) : Prop where
  capacity : m.capacity = q.capacity
  holds : m.Holds (q.kept.map (slotOf hash))
  among : ∀ x ∈ q.kept, x.1 ∈ texts

variable {texts : Set String} {q : Fifo α}

omit [DecidableEq δ] in
theorem Mirrors.nodup (h : Mirrors hash texts m q) : (q.kept.map Prod.fst).Nodup := by
  have digests := h.holds.nodup
  rw [List.map_map] at digests
  refine List.Nodup.of_map hash ?_
  rw [List.map_map]
  exact digests

theorem Mirrors.get?_eq (h : Mirrors hash texts m q) (source : String) :
    m.get? hash source = q.get? source := by
  refine Option.ext fun value => ?_
  rw [get?_eq_some, h.holds.held?_iff, Fifo.get?, lookup_iff_mem h.nodup, List.mem_map]
  constructor
  · rintro ⟨x, hx, same⟩
    obtain ⟨-, rfl, rfl⟩ : hash x.1 = hash source ∧ x.1 = source ∧ x.2 = value := by
      simpa [slotOf] using same
    exact hx
  · intro kept
    exact ⟨_, kept, rfl⟩

omit [DecidableEq δ] in
theorem Mirrors.present_iff (apart : texts.InjOn hash) (h : Mirrors hash texts m q) {source : String}
    (member : source ∈ texts) :
    hash source ∈ (q.kept.map (slotOf hash)).map Prod.fst ↔ (q.get? source).isSome = true := by
  rw [List.map_map, List.mem_map, Option.isSome_iff_exists]
  simp only [Fifo.get?, lookup_iff_mem h.nodup]
  constructor
  · rintro ⟨x, hx, same⟩
    obtain rfl : x.1 = source := apart (h.among x hx) member same
    exact ⟨x.2, hx⟩
  · rintro ⟨v, hv⟩
    exact ⟨_, hv, rfl⟩

/-- Under digests that tell texts apart, the row of a memo is edited as the queue is. -/
theorem Mirrors.keep_eq (apart : texts.InjOn hash) (h : Mirrors hash texts m q) {source : String}
    (member : source ∈ texts) (value : α) :
    keep m.capacity (q.kept.map (slotOf hash)) (hash source) ⟨source, value⟩ =
      (q.insert source value).kept.map (slotOf hash) := by
  unfold keep Fifo.insert
  simp only [h.capacity, h.present_iff apart member]
  split_ifs with empty present
  · rfl
  · rw [List.map_map, List.map_map]
    refine List.map_congr_left fun x hx => ?_
    have same : hash x.1 = hash source ↔ x.1 = source := apart.eq_iff (h.among x hx) member
    by_cases equal : x.1 = source <;> simp [slotOf, same, equal]
  · simp [List.map_drop, slotOf]

theorem Mirrors.insert (apart : texts.InjOn hash) (h : Mirrors hash texts m q) {source : String}
    (member : source ∈ texts) (value : α) :
    Mirrors hash texts (m.insert hash source value) (q.insert source value) where
  capacity := by
    rw [insert_capacity, h.capacity]
    unfold Fifo.insert
    split_ifs <;> rfl
  holds := h.keep_eq apart member value ▸ h.holds.insert source value
  among := by
    unfold Fifo.insert
    split_ifs with empty present
    · exact h.among
    · intro x hx
      obtain ⟨y, hy, rfl⟩ := List.mem_map.mp hx
      split
      · exact member
      · exact h.among y hy
    · intro x hx
      rcases List.mem_append.mp hx with kept | fresh
      · exact h.among x (List.mem_of_mem_drop kept)
      · rw [List.mem_singleton.mp fresh]
        exact member

theorem Mirrors.apply (apart : texts.InjOn hash) (h : Mirrors hash texts m q) {a : Access ε α}
    (member : a.source ∈ texts) :
    (a.apply hash m).1 = (a.serve q).1 ∧ Mirrors hash texts (a.apply hash m).2 (a.serve q).2 := by
  cases a with
  | insert s v => exact ⟨rfl, h.insert apart member v⟩
  | get s => exact ⟨congrArg Reply.found (h.get?_eq s), h⟩
  | getOrCompute s computed =>
    have found := h.get?_eq s
    cases kept : q.get? s with
    | some v =>
      rw [kept] at found
      simpa [Access.apply, Access.serve, getOrCompute, found, kept] using h
    | none =>
      rw [kept] at found
      cases computed with
      | ok v =>
        have stored : Mirrors hash texts (m.insert hash s v) (q.insert s v) := h.insert apart member v
        simpa [Access.apply, Access.serve, getOrCompute, found, kept] using stored
      | error e => simpa [Access.apply, Access.serve, getOrCompute, found, kept] using h

theorem Mirrors.run (apart : texts.InjOn hash) (h : Mirrors hash texts m q)
    {accesses : List (Access ε α)} (member : ∀ a ∈ accesses, a.source ∈ texts) :
    (run hash m accesses).1 = (serveAll q accesses).1 ∧
      Mirrors hash texts (run hash m accesses).2 (serveAll q accesses).2 := by
  induction accesses generalizing m q with
  | nil => exact ⟨rfl, h⟩
  | cons a accesses ih =>
    obtain ⟨reply, next⟩ := h.apply apart (member a (by simp))
    obtain ⟨replies, last⟩ := ih next fun b hb => member b (by simp [hb])
    exact ⟨congrArg₂ List.cons reply replies, last⟩

omit [DecidableEq δ] in
theorem Mirrors.new (hash : String → δ) (texts : Set String) (capacity : Nat) :
    Mirrors hash texts ({ capacity } : Memo δ α) { capacity } where
  capacity := rfl
  holds := (Tracks.new hash capacity).toHolds
  among := fun _ member => absurd member List.not_mem_nil

/-- In every run from an empty memo, whatever the hash function: the queue lists the digests of the
entries, each once; there are no more than the capacity; a hit is the value stored last for that
text. If the texts of the run have digests of their own, the replies are those of a bounded queue of
texts, and so is what the memo keeps, in its order. -/
theorem run_bounded (hash : String → δ) (capacity : Nat) (accesses : List (Access ε α)) :
    let m := (run hash { capacity } accesses).2
    let q := (serveAll { capacity } accesses).2
    m.order.Nodup ∧ (m.entries.map Prod.fst).Perm m.order ∧ m.size ≤ capacity ∧
      (∀ source value, m.get? hash source = some value →
        IsLatest (log hash { capacity } accesses) source value) ∧
      (Set.InjOn hash {s | ∃ a ∈ accesses, a.source = s} →
        (run hash { capacity } accesses).1 = (serveAll { capacity } accesses).1 ∧
        m.order = q.kept.map (fun x => hash x.1) ∧
        ∀ source, m.get? hash source = q.get? source) := by
  intro m q
  obtain ⟨slots, tracks⟩ := (Tracks.new (α := α) hash capacity).run accesses
  refine ⟨?_, ?_, ?_, fun source value hit => tracks.get?_latest hit, fun apart => ?_⟩
  · rw [tracks.order]
    exact tracks.nodup
  · rw [tracks.order]
    exact tracks.entries.map Prod.fst
  · have room := tracks.room
    rw [run_capacity] at room
    exact tracks.entries.length_eq.trans_le room
  · have among : ∀ a ∈ accesses, a.source ∈ {s | ∃ a ∈ accesses, a.source = s} :=
      fun a member => ⟨a, member, rfl⟩
    obtain ⟨replies, mirrors⟩ := (Mirrors.new (α := α) hash _ capacity).run apart among
    refine ⟨replies, ?_, mirrors.get?_eq⟩
    exact mirrors.holds.order.trans (List.map_map ..)

/-- A failure is computed again, a text that is there keeps its place, and the first of three texts
makes room for the last. -/
theorem run_bounded_evicting :
    let hash := fun s : String => s.toList.length
    let accesses : List (Access Unit Nat) := [.insert "a" 1, .getOrCompute "bb" (.ok 2),
      .insert "a" 3, .getOrCompute "ccc" (.error ()), .getOrCompute "ccc" (.ok 4), .get "a",
      .getOrCompute "bb" (.ok 5)]
    Set.InjOn hash {s | ∃ a ∈ accesses, a.source = s} ∧
      (run hash { capacity := 2 } accesses).1 = [.done, .result (.ok 2), .done, .result (.error ()),
        .result (.ok 4), .found none, .result (.ok 2)] ∧
      (run hash { capacity := 2 } accesses).2.order = [2, 3] := by
  intro hash accesses
  have apart : Set.InjOn hash {s | ∃ a ∈ accesses, a.source = s} := by
    rintro s ⟨a, ha, rfl⟩ t ⟨b, hb, rfl⟩
    revert a b
    decide
  obtain ⟨replies, order, -⟩ := (run_bounded hash 2 accesses).2.2.2.2 apart
  exact ⟨apart, replies.trans (by decide), order.trans (by decide)⟩

end Memo
end PagePreview
