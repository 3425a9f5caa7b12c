import PagePreview.Machine.List
import PagePreview.Regex.Match

/-! Matches: what a pattern object finds in a text, and how it keeps its place there. -/

namespace PagePreview.Machine.Builtin
open Script Run

def lastIndexKey : Key := .named "lastIndex"

def readPattern (source flags : String) : Run Regex.Pattern := do
  match Regex.read source flags with
  | .ok p => return p
  | .error e => raise .malformed e.message

structure Found where
  text : Str
  groups : Array (Option (Nat × Nat))
  names : List (String × Nat)

namespace Found

def span (m : Found) : Nat × Nat := (m.groups.getD 0 none).getD (0, 0)

def group (m : Found) (i : Nat) : Value :=
  match m.groups.getD i none with
  | some (a, b) => .string (m.text.slice a b)
  | none => .undefined

end Found

def codePoints (units : List UInt16) : List (Nat × Nat) :=
  let rec go : List UInt16 → Nat → List (Nat × Nat)
    | u :: v :: rest, i =>
      if Str.isHigh u && Str.isLow v then ((Str.pairChar u v).toNat, i) :: go rest (i + 2)
      else (u.toNat, i) :: go (v :: rest) (i + 1)
    | [u], i => [(u.toNat, i)]
    | [], _ => []
  go units 0

structure Sought where
  text : Str
  codes : Array Nat
  places : Option (Array Nat)
  size : Nat

def Sought.of (p : Regex.Pattern) (text : Str) : Sought :=
  let units := text.toUnits
  if p.isUnicode then
    let points := (codePoints units.toList).toArray
    { text, codes := points.map Prod.fst, places := some (points.map Prod.snd), size := units.size }
  else { text, codes := units.map (·.toNat), places := none, size := units.size }

def Sought.find (s : Sought) (p : Regex.Pattern) (start : Nat) : Option Found :=
  if s.size < start then none
  else match s.places with
  | some places =>
    let place (i : Nat) : Nat := places.getD i s.size
    let first := (places.findIdx? (start ≤ ·)).getD places.size
    (Regex.search? p s.codes (s.codes.size + 2) first).map fun gs =>
      { text := s.text, names := p.names, groups := gs.map fun g => g.map fun (a, b) => (place a, place b) }
  | none =>
    (Regex.search? p s.codes (s.codes.size + 2) start).map fun groups =>
      { text := s.text, names := p.names, groups }

def findMatch (p : Regex.Pattern) (text : Str) (start : Nat) : Option Found :=
  (Sought.of p text).find p start

/-- The next match of a pattern object, which keeps its place if it is to be used repeatedly. -/
def nextMatch (id : Nat) (source flags : String) (text : Str) : Run (Option (Regex.Pattern × Found)) := do
  let p ← readPattern source flags
  let last ← toLength (← getOf id lastIndexKey)
  let keeps := p.isGlobal || p.isSticky
  let start := if keeps then last else 0
  let found := if text.length < start then none else findMatch p text start
  if keeps then
    let place := (found.map fun m => m.span.2).getD 0
    setValue true (.object id) lastIndexKey (.ofNat place)
  return found.map (p, ·)

def namedGroups (m : Found) (value : Nat → Run Value) : Run Value := do
  if m.names.isEmpty then return .undefined
  let o ← allocate { proto := none }
  for (name, i) in m.names do
    createProperty o (.named name) (← value i)
  return .object o

def indicesValue (m : Found) : Run Value := do
  let pair (i : Nat) : Run Value := do
    match m.groups.getD i none with
    | some (a, b) => newListValue #[.ofNat a, .ofNat b]
    | none => return .undefined
  let mut pairs := #[]
  for i in [0:m.groups.size] do
    pairs := pairs.push (← pair i)
  let id ← newList pairs
  let groups ← namedGroups m fun i => return pairs.getD i .undefined
  updateObject id (·.store (.named "groups") (.plain groups))
  return .object id

def matchValue (p : Regex.Pattern) (m : Found) : Run Value := do
  let id ← newList ((List.range m.groups.size).map m.group).toArray
  updateObject id (·.store (.named "index") (.plain (.ofNat m.span.1)))
  updateObject id (·.store (.named "input") (.plain (.string m.text)))
  let groups ← namedGroups m fun i => return m.group i
  updateObject id (·.store (.named "groups") (.plain groups))
  if p.hasIndices then
    let indices ← indicesValue m
    updateObject id (·.store (.named "indices") (.plain indices))
  return .object id

def patternParts? (id : Nat) : Run (Option (String × String)) := do
  match (← objectAt id).kind with
  | .pattern source flags => return some (source, flags)
  | _ => return none

def execPlain (id : Nat) (source flags : String) (text : Str) : Run Value := do
  match ← nextMatch id source flags text with
  | some (p, m) => matchValue p m
  | none => return .null

def execOn (id : Nat) (text : Str) : Run Value := do
  let f ← getOf id (.named "exec")
  if (← get).isCallable f then
    match ← call f (.object id) #[.string text] with
    | .object m => return .object m
    | .null => return .null
    | _ => throwType "regexp exec returned neither object nor null"
  else match ← patternParts? id with
    | some (source, flags) => execPlain id source flags text
    | none => throwType "RegExpExec called with invalid value"

def placeBehind (text : Str) (i : Nat) (isUnicode : Bool) : Nat :=
  match isUnicode, text.unit? i, text.unit? (i + 1) with
  | true, some u, some v => if Str.isHigh u && Str.isLow v then i + 2 else i + 1
  | _, _, _ => i + 1

def stepAhead (id : Nat) (text : Str) (isUnicode : Bool) : Run Unit := do
  let i ← toLength (← getOf id lastIndexKey)
  setValue true (.object id) lastIndexKey (.ofNat (placeBehind text i isUnicode))

def allMatches (p : Regex.Pattern) (s : Sought) : Nat → Nat → List Found
  | 0, _ => []
  | fuel + 1, start =>
    match s.find p start with
    | none => []
    | some m =>
      let (a, b) := m.span
      m :: allMatches p s fuel (if a == b then placeBehind s.text b p.isUnicode else b)

def plainPattern? (id : Nat) : Run (Option Regex.Pattern) := do
  let some (source, flags) ← patternParts? id | return none
  let .object f ← getOf id (.named "exec") | return none
  match (← objectAt f).kind, ← ownProperty id lastIndexKey with
  | .native { family := .pattern, name := "exec", .. }, some (.data (.number _) true ..) =>
    some <$> readPattern source flags
  | _, _ => return none

end PagePreview.Machine.Builtin
