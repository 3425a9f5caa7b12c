/-! Script strings: sequences of 16-bit units. A sequence that is Unicode text is kept as such; only
one with a surrogate that has no partner is kept as units, so equal strings have one form. -/

namespace PagePreview.Script

inductive Str
  | plain (text : String)
  | units (sequence : Array UInt16)
  deriving DecidableEq, Hashable, Inhabited

namespace Str

def isHigh (u : UInt16) : Bool := 0xD800 ≤ u && u < 0xDC00
def isLow (u : UInt16) : Bool := 0xDC00 ≤ u && u < 0xE000

def unitsOfChar (c : Char) : List UInt16 :=
  let n := c.toNat
  if n < 0x10000 then [n.toUInt16]
  else
    let m := n - 0x10000
    [(0xD800 + m / 0x400).toUInt16, (0xDC00 + m % 0x400).toUInt16]

def pairChar (high low : UInt16) : Char :=
  Char.ofNat (0x10000 + (high.toNat - 0xD800) * 0x400 + (low.toNat - 0xDC00))

def decode? : List UInt16 → Option (List Char)
  | [] => some []
  | [u] => if isHigh u || isLow u then none else some [Char.ofNat u.toNat]
  | u :: v :: rest =>
    if isHigh u then
      if isLow v then (decode? rest).map (pairChar u v :: ·) else none
    else if isLow u then none
    else (decode? (v :: rest)).map (Char.ofNat u.toNat :: ·)

def ofUnits (us : Array UInt16) : Str :=
  match decode? us.toList with
  | some text => .plain (String.ofList text)
  | none => .units us

def textUnits (text : String) : Array UInt16 :=
  text.foldl (fun us c => (unitsOfChar c).foldl Array.push us) #[]

def toUnits : Str → Array UInt16
  | .plain text => textUnits text
  | .units us => us

def ofChar (c : Char) : Str := .plain (String.singleton c)

def empty : Str := .plain ""

def isEmpty : Str → Bool
  | .plain text => text.isEmpty
  | .units us => us.isEmpty

def textLength (text : String) : Nat :=
  text.foldl (fun n c => if c.toNat < 0x10000 then n + 1 else n + 2) 0

def isNarrow (text : String) : Bool := text.utf8ByteSize == text.length

def length : Str → Nat
  | .plain text => if isNarrow text then text.utf8ByteSize else textLength text
  | .units us => us.size

def append : Str → Str → Str
  | .plain a, .plain b => .plain (a ++ b)
  | a, b => ofUnits (a.toUnits ++ b.toUnits)

instance : Append Str := ⟨append⟩
instance : Coe String Str := ⟨plain⟩

def unit? (s : Str) (i : Nat) : Option UInt16 :=
  match s with
  | .plain text =>
    if isNarrow text then
      if i < text.utf8ByteSize then some (String.Pos.Raw.get text ⟨i⟩).toNat.toUInt16 else none
    else (textUnits text)[i]?
  | .units us => us[i]?

def slice (s : Str) (start stop : Nat) : Str :=
  match s with
  | .plain text =>
    if isNarrow text then .plain (String.Pos.Raw.extract text ⟨start⟩ ⟨stop⟩)
    else ofUnits ((textUnits text).extract start stop)
  | .units us => ofUnits (us.extract start stop)

def hexDigit (n : Nat) : Char := if n < 10 then Char.ofNat (48 + n) else Char.ofNat (55 + n)

def escapeUnit (u : UInt16) : List Char :=
  let n := u.toNat
  ['\\', 'u', hexDigit (n / 4096 % 16), hexDigit (n / 256 % 16), hexDigit (n / 16 % 16),
    hexDigit (n % 16)]

def displayUnits : List UInt16 → List Char
  | [] => []
  | [u] => if isHigh u || isLow u then escapeUnit u else [Char.ofNat u.toNat]
  | u :: v :: rest =>
    if isHigh u && isLow v then pairChar u v :: displayUnits rest
    else if isHigh u || isLow u then escapeUnit u ++ displayUnits (v :: rest)
    else Char.ofNat u.toNat :: displayUnits (v :: rest)

def display : Str → String
  | .plain text => text
  | .units us => String.ofList (displayUnits us.toList)

def lessUnits : List UInt16 → List UInt16 → Bool
  | _, [] => false
  | [], _ => true
  | a :: as, b :: bs => a < b || (a == b && lessUnits as bs)

def less (a b : Str) : Bool := lessUnits a.toUnits.toList b.toUnits.toList

/-- Applies a change of texts to the texts between the surrogates without a partner; `text` holds
what has been read of one, the last character first. -/
def mapTexts (f : List Char → List Char) (text : List Char) : List UInt16 → Array UInt16
  | [] => textUnits (String.ofList (f text.reverse))
  | [u] =>
    if isHigh u || isLow u then (textUnits (String.ofList (f text.reverse))).push u
    else textUnits (String.ofList (f (Char.ofNat u.toNat :: text).reverse))
  | u :: v :: rest =>
    if isHigh u && isLow v then mapTexts f (pairChar u v :: text) rest
    else if isHigh u || isLow u then
      (textUnits (String.ofList (f text.reverse))).push u ++ mapTexts f [] (v :: rest)
    else mapTexts f (Char.ofNat u.toNat :: text) (v :: rest)

def mapChars (f : List Char → List Char) : Str → Str
  | .plain s => .plain (String.ofList (f s.toList))
  | .units us => .ofUnits (mapTexts f [] us.toList)

def isSpace (c : Char) : Bool :=
  let n := c.toNat
  (9 ≤ n && n ≤ 13) || n == 32 || n == 0xA0 || n == 0x1680 || (0x2000 ≤ n && n ≤ 0x200A) ||
    n == 0x2028 || n == 0x2029 || n == 0x202F || n == 0x205F || n == 0x3000 || n == 0xFEFF

def isSpaceUnit (u : UInt16) : Bool := !(isHigh u || isLow u) && isSpace (Char.ofNat u.toNat)

def trimStart (s : Str) : Str := .ofUnits (s.toUnits.toList.dropWhile isSpaceUnit).toArray

def trimEnd (s : Str) : Str :=
  .ofUnits (s.toUnits.toList.reverse.dropWhile isSpaceUnit).reverse.toArray

def trim (s : Str) : Str := s.trimStart.trimEnd

end Str
end PagePreview.Script
