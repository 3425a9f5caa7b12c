import PagePreview.Regex.Syntax

/-! Matching: a pattern against a row of code units or code points, by trying branches in order. -/

namespace PagePreview.Regex

abbrev Groups := Array (Option (Nat × Nat))

structure Spot where
  position : Nat
  groups : Groups

abbrev Next := Spot → Option Spot

def step (codes : Array Nat) (isAhead : Bool) (test : Nat → Bool) (s : Spot) (k : Next) : Option Spot :=
  if isAhead then
    match codes[s.position]? with
    | some n => if test n then k { s with position := s.position + 1 } else none
    | none => none
  else if s.position == 0 then none
  else match codes[s.position - 1]? with
    | some n => if test n then k { s with position := s.position - 1 } else none
    | none => none

def isEdge (codes : Array Nat) (i : Nat) : Bool :=
  let before := 0 < i && (codes[i - 1]?.any isWordCode)
  let behind := codes[i]?.any isWordCode
  before != behind

def clearGroups (first last : Nat) (gs : Groups) : Groups :=
  (List.range (last + 1 - first)).foldl (fun gs i => gs.set! (first + i) none) gs

def repeatText (p : Pattern) (codes : Array Nat) (isAhead : Bool) (a b : Nat) (s : Spot) (k : Next) :
    Option Spot :=
  let n := b - a
  let start := if isAhead then s.position else s.position - n
  if !isAhead && s.position < n then none
  else if codes.size < start + n then none
  else if (List.range n).all fun i =>
      p.comparison.key (codes.getD (a + i) 0) == p.comparison.key (codes.getD (start + i) 0) then
    k { s with position := if isAhead then s.position + n else s.position - n }
  else none

def walk (p : Pattern) (codes : Array Nat) : Nat → Bool → Node → Spot → Next → Option Spot
  | 0, _, _, _, _ => none
  | fuel + 1, isAhead, node, s, k =>
    let go := walk p codes fuel
    match node with
    | .empty => k s
    | .char n =>
      let n := p.comparison.key n
      step codes isAhead (fun m => p.comparison.key m == n) s k
    | .any => step codes isAhead (fun n => p.dotAll || !isBreakCode n) s k
    | .set set => step codes isAhead (fun n => set.holds p.comparison n) s k
    | .sequence [] => k s
    | .sequence (n :: ns) =>
      if isAhead then go true n s fun s => go true (.sequence ns) s k
      else go false (.sequence ns) s fun s => go false n s k
    | .choice [] => none
    | .choice (n :: ns) =>
      match go isAhead n s k with
      | some s => some s
      | none => go isAhead (.choice ns) s k
    | .group i inner =>
      let start := s.position
      go isAhead inner s fun s =>
        let span := if isAhead then (start, s.position) else (s.position, start)
        k { s with groups := s.groups.set! i (some span) }
    | .loop least most isLazy inner first last =>
      if most == some 0 then k s
      else
        let again : Option Spot :=
          go isAhead inner { s with groups := clearGroups first last s.groups } fun t =>
            if t.position == s.position && least == 0 then none
            else go isAhead (.loop (least - 1) (most.map (· - 1)) isLazy inner first last) t k
        if 0 < least then again
        else if isLazy then
          match k s with
          | some s => some s
          | none => again
        else match again with
          | some s => some s
          | none => k s
    | .textStart =>
      let holds := s.position == 0 ||
        (p.isMultiline && (codes[s.position - 1]?.any isBreakCode))
      if holds then k s else none
    | .textEnd =>
      let holds := s.position == codes.size ||
        (p.isMultiline && (codes[s.position]?.any isBreakCode))
      if holds then k s else none
    | .edge neg => if isEdge codes s.position != neg then k s else none
    | .look ahead neg inner =>
      match go ahead inner s some with
      | some t => if neg then none else k { s with groups := t.groups }
      | none => if neg then k s else none
    | .again i =>
      match (s.groups[i]?).join with
      | some (a, b) => repeatText p codes isAhead a b s k
      | none => k s

def matchAt? (p : Pattern) (codes : Array Nat) (start : Nat) : Option Groups :=
  let groups := Array.replicate (p.groups + 1) none
  (walk p codes 1000000 true p.node { position := start, groups } some).map fun s =>
    s.groups.set! 0 (some (start, s.position))

def search? (p : Pattern) (codes : Array Nat) : Nat → Nat → Option Groups
  | 0, _ => none
  | fuel + 1, start =>
    if codes.size < start then none
    else match matchAt? p codes start with
      | some gs => some gs
      | none => if p.isSticky then none else search? p codes fuel (start + 1)

end PagePreview.Regex
