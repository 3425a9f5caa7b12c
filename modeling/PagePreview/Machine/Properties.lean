import Std.Data.HashMap
import PagePreview.Machine.Value

/-! Tables of properties in the order in which they were added. A short table is searched from its
start; a long one keeps an index. -/

namespace PagePreview.Machine

inductive Property
  | data (value : Value) (writable enumerable configurable : Bool)
  | accessor (getter setter : Value) (enumerable configurable : Bool)
  deriving Inhabited

namespace Property

def plain (v : Value) : Property := .data v true true true

def unlisted (v : Value) : Property := .data v true false true

def fixed (v : Value) : Property := .data v false false false

def isEnumerable : Property → Bool
  | .data _ _ e _ => e
  | .accessor _ _ e _ => e

def isWritable : Property → Bool
  | .data _ w _ _ => w
  | .accessor .. => false

def isConfigurable : Property → Bool
  | .data _ _ _ c => c
  | .accessor _ _ _ c => c

end Property

structure Properties where
  slots : Array (Key × Property) := #[]
  index : Std.HashMap Key Nat := {}
  deriving Inhabited

namespace Properties

def shortSize : Nat := 12

def findFrom (slots : Array (Key × Property)) (k : Key) (i : Nat) : Option Nat :=
  if h : i < slots.size then
    if slots[i].1 == k then some i else findFrom slots k (i + 1)
  else none
  termination_by slots.size - i

def find? (ps : Properties) (k : Key) : Option Nat :=
  if ps.slots.size ≤ shortSize then findFrom ps.slots k 0 else ps.index[k]?

def get? (ps : Properties) (k : Key) : Option Property :=
  match ps.find? k with
  | some i => ps.slots[i]?.map Prod.snd
  | none => none

def indexOf (slots : Array (Key × Property)) : Std.HashMap Key Nat :=
  if slots.size ≤ shortSize then {}
  else (slots.foldl (fun (m, i) (k, _) => (m.insert k i, i + 1)) (({} : Std.HashMap Key Nat), 0)).1

def insert (ps : Properties) (k : Key) (p : Property) : Properties :=
  match ps.find? k with
  | some i => { ps with slots := ps.slots.set! i (k, p) }
  | none =>
    let n := ps.slots.size
    let slots := ps.slots.push (k, p)
    if n < shortSize then { ps with slots }
    else if n == shortSize then { slots, index := indexOf slots }
    else { slots, index := ps.index.insert k n }

def erase (ps : Properties) (k : Key) : Properties :=
  match ps.find? k with
  | some _ =>
    let slots := ps.slots.filter (·.1 != k)
    { slots, index := indexOf slots }
  | none => ps

def keys (ps : Properties) : List Key := ps.slots.toList.map Prod.fst

def map (f : Property → Property) (ps : Properties) : Properties :=
  { ps with slots := ps.slots.map fun (k, p) => (k, f p) }

def ofList (entries : List (Key × Property)) : Properties :=
  entries.foldl (fun ps (k, p) => ps.insert k p) {}

end Properties

def Key.listed (keys : List Key) : List Key :=
  let indexed := keys.filterMap fun k => k.index?.map (·, k)
  let indexed := (indexed.mergeSort fun a b => a.1 ≤ b.1).map Prod.snd
  let names := keys.filter fun k => match k with
    | .text _ => k.index?.isNone
    | _ => false
  let symbols := keys.filter fun k => match k with
    | .symbol _ => true
    | _ => false
  indexed ++ names ++ symbols

end PagePreview.Machine
