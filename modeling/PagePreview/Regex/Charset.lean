import Std.Data.HashMap
import PagePreview.Text.LetterCase
import PagePreview.Text.Property

/-! Sets of characters in regular expressions, and what counts as the same where case does not
matter. -/

namespace PagePreview.Regex
open Text

inductive Charset
  | nothing
  | range (low high : Nat)
  | digit
  | space
  | word
  | property (p : Property)
  | negated (c : Charset)
  | either (a b : Charset)
  | both (a b : Charset)
  | without (a b : Charset)
  deriving Inhabited

def isWordCode (n : Nat) : Bool :=
  (48 ≤ n && n ≤ 57) || (65 ≤ n && n ≤ 90) || n == 95 || (97 ≤ n && n ≤ 122)

def isSpaceCode (n : Nat) : Bool :=
  (9 ≤ n && n ≤ 13) || n == 32 || n == 0xA0 || n == 0x1680 || (0x2000 ≤ n && n ≤ 0x200A) ||
    n == 0x2028 || n == 0x2029 || n == 0x202F || n == 0x205F || n == 0x3000 || n == 0xFEFF

def isBreakCode (n : Nat) : Bool := n == 10 || n == 13 || n == 0x2028 || n == 0x2029

inductive Comparison
  | exact
  | upper
  | folded
  deriving DecidableEq, Inhabited

def foldPoint (n : Nat) : Nat :=
  if n < 128 then lowerPoint n
  else if n == 0x131 then n
  else if n == 0x1FD3 then 0x390
  else if n == 0x1FE3 then 0x3B0
  else if n == 0xFB05 then 0xFB06
  else lowerPoint (upperPoint n)

def Comparison.key (c : Comparison) (n : Nat) : Nat :=
  match c with
  | .exact => n
  | .upper =>
    let up := upperPoint n
    if up < 128 && 128 ≤ n then n else up
  | .folded => foldPoint n

def caseLetters : List Nat :=
  (toLowerRuns ++ toUpperRuns).toList.flatMap fun (first, last, step, other) =>
    (List.range ((last - first) / step + 1)).flatMap fun i => [first + step * i, other + step * i]

def kinTable (c : Comparison) : Std.HashMap Nat (List Nat) :=
  caseLetters.foldl (fun table n =>
    let k := c.key n
    let old := table.getD k []
    if old.contains n then table else table.insert k (n :: old)) {}

def upperKin : Std.HashMap Nat (List Nat) := kinTable .upper
def foldedKin : Std.HashMap Nat (List Nat) := kinTable .folded

def Comparison.kin (c : Comparison) (n : Nat) : List Nat :=
  match c with
  | .exact => [n]
  | .upper => n :: upperKin.getD (c.key n) []
  | .folded => n :: foldedKin.getD (c.key n) []

def Charset.holds (c : Comparison) (n : Nat) : Charset → Bool
  | .nothing => false
  | .range low high =>
    if c == .exact then low ≤ n && n ≤ high else (c.kin n).any fun m => low ≤ m && m ≤ high
  | .digit => 48 ≤ n && n ≤ 57
  | .space => isSpaceCode n
  | .word => isWordCode n || (c == .folded && (c.kin n).any isWordCode)
  | .property p => if c == .exact then p.holds n else (c.kin n).any fun m => p.holds m
  | .negated s => !s.holds c n
  | .either a b => a.holds c n || b.holds c n
  | .both a b => a.holds c n && b.holds c n
  | .without a b => a.holds c n && !b.holds c n

end PagePreview.Regex
