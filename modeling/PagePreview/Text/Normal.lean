import Std.Data.HashMap
import PagePreview.Text.Decomposition

/-! The normal forms of a text, in which characters that are the same are written in one way: taken
apart as far as can be, with marks in a fixed order, and perhaps put together again. -/

namespace PagePreview.Text

structure NormalForm where
  isComposed : Bool
  takesSimilar : Bool

def NormalForm.ofName? : String → Option NormalForm
  | "NFC" => some ⟨true, false⟩
  | "NFD" => some ⟨false, false⟩
  | "NFKC" => some ⟨true, true⟩
  | "NFKD" => some ⟨false, true⟩
  | _ => none

def markClass (n : Nat) : Nat :=
  ((seek? Decomposition.classes fun e => sideOf n e.1).map Prod.snd).getD 0

namespace Hangul

def first : Nat := 0xAC00
def lead : Nat := 0x1100
def vowel : Nat := 0x1161
def tail : Nat := 0x11A7
def count : Nat := 11172

def parts (n : Nat) : List Nat :=
  let i := n - first
  let letters := [lead + i / 588, vowel + i % 588 / 28]
  if i % 28 == 0 then letters else letters ++ [tail + i % 28]

def isSyllable (n : Nat) : Bool := first ≤ n && n < first + count

def pair? (a b : Nat) : Option Nat :=
  if lead ≤ a && a < lead + 19 && vowel ≤ b && b < vowel + 21 then
    some (first + ((a - lead) * 21 + (b - vowel)) * 28)
  else if isSyllable a && (a - first) % 28 == 0 && tail < b && b < tail + 28 then
    some (a + (b - tail))
  else none

end Hangul

def partsOf? (table : Array (Nat × List Nat)) (n : Nat) : Option (List Nat) :=
  (seek? table fun e => sideOf n (e.1, e.1)).map Prod.snd

def takeApart (takesSimilar : Bool) : Nat → Nat → List Nat
  | 0, n => [n]
  | fuel + 1, n =>
    if n < 0xA0 then [n]
    else if Hangul.isSyllable n then Hangul.parts n
    else
      let parts := match partsOf? Decomposition.same n with
        | some ns => some ns
        | none => if takesSimilar then partsOf? Decomposition.similar n else none
      match parts with
      | some ns => ns.flatMap (takeApart takesSimilar fuel)
      | none => [n]

def insertMark (m : Nat × Nat) : List (Nat × Nat) → List (Nat × Nat)
  | [] => [m]
  | x :: rest => if m.2 != 0 && m.2 < x.2 then x :: insertMark m rest else m :: x :: rest

def inOrder (ns : List Nat) : List (Nat × Nat) :=
  (ns.foldl (fun done n => insertMark (n, markClass n) done) []).reverse

def madeOfPair : Std.HashMap (Nat × Nat) Nat :=
  Decomposition.same.foldl (fun made (n, parts) =>
    match parts with
    | [a, b] => if inRanges Decomposition.unmade n then made else made.insert (a, b) n
    | _ => made) {}

def pair? (a b : Nat) : Option Nat :=
  match Hangul.pair? a b with
  | some n => some n
  | none => madeOfPair.get? (a, b)

/-- Puts marks together with the character before them. `marks` holds those that stayed, the last
one first, and `above` the class of the last. -/
def putTogether (n : Nat) (marks : List Nat) (above : Nat) : List (Nat × Nat) → List Nat
  | [] => n :: marks.reverse
  | (m, k) :: rest =>
    let made := if marks.isEmpty || above < k then pair? n m else none
    match made with
    | some n => putTogether n marks above rest
    | none =>
      if k == 0 then n :: marks.reverse ++ putTogether m [] 0 rest
      else putTogether n (m :: marks) k rest

def NormalForm.apply (f : NormalForm) (s : List Char) : List Char :=
  if s.all fun c => c.toNat < 0xA0 then s
  else
    let ordered := inOrder (s.flatMap fun c => takeApart f.takesSimilar 10 c.toNat)
    let marks := ordered.takeWhile fun m => m.2 != 0
    let composed := match ordered.drop marks.length with
      | [] => []
      | (n, _) :: rest => putTogether n [] 0 rest
    let points := if f.isComposed then marks.map Prod.fst ++ composed else ordered.map Prod.fst
    points.map Char.ofNat

end PagePreview.Text
