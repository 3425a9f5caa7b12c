/-! The shortest decimal that reads back as a given binary fraction, in exact arithmetic. -/

namespace PagePreview.Number

structure Binary where
  mantissa : Nat
  exponent : Int
  lowerGapHalved : Bool

/-- The fraction behind the magnitude of a double with the given bits; zero, infinite and undefined
numbers have none. -/
def Binary.ofBits? (bits : UInt64) : Option Binary :=
  let fraction := (bits &&& 0xFFFFFFFFFFFFF).toNat
  let biased := ((bits >>> 52) &&& 0x7FF).toNat
  if biased = 0x7FF then none
  else if biased = 0 then if fraction = 0 then none else some ⟨fraction, -1074, false⟩
  else some ⟨fraction + Nat.pow 2 52, (biased : Int) - 1075, fraction = 0 && biased > 1⟩

structure Decimal where
  digits : Nat
  exponent : Int

structure Interval where
  low : Nat
  value : Nat
  high : Nat
  denominator : Nat
  closed : Bool

def Binary.interval (b : Binary) : Interval :=
  let scale := Nat.pow 2 (b.exponent - 2).toNat
  { low := (4 * b.mantissa - if b.lowerGapHalved then 1 else 2) * scale
    value := 4 * b.mantissa * scale
    high := (4 * b.mantissa + 2) * scale
    denominator := Nat.pow 2 (2 - b.exponent).toNat
    closed := b.mantissa % 2 = 0 }

def Interval.holds (i : Interval) (n d : Nat) : Bool :=
  let x := n * i.denominator
  if i.closed then i.low * d ≤ x && x ≤ i.high * d else i.low * d < x && x < i.high * d

def tenTo (e : Int) : Nat × Nat := (Nat.pow 10 e.toNat, Nat.pow 10 (-e).toNat)

def raise (i : Interval) : Nat → Int → Int
  | 0, e => e
  | fuel + 1, e =>
    let (n, d) := tenTo e
    if i.value * d < n * i.denominator then e else raise i fuel (e + 1)

def Interval.power (i : Interval) : Int :=
  let bits : Int := (Nat.log2 i.value : Int) - Nat.log2 i.denominator
  raise i 8 ((bits - 2) * 1233 / 4096 - 1)

/-- The neighbours of the value among the multiples of `10 ^ e` that read back, the nearer one. -/
def Interval.onGrid? (i : Interval) (e : Int) : Option Nat :=
  let (n, d) := tenTo e
  let below := i.value * d / (i.denominator * n)
  let rest := i.value * d % (i.denominator * n)
  let size := i.denominator * n
  let lowHit := i.holds (below * n) d && below != 0
  let highHit := i.holds ((below + 1) * n) d
  if lowHit && highHit then
    some (if 2 * rest < size || (2 * rest = size && below % 2 = 0) then below else below + 1)
  else if lowHit then some below
  else if highHit then some (below + 1)
  else none

def Interval.shortest (i : Interval) (power : Int) : Nat → Nat → Decimal
  | 0, count => ⟨i.value / i.denominator, count⟩
  | fuel + 1, count =>
    match i.onGrid? (power - count) with
    | some digits => ⟨digits, power - count⟩
    | none => i.shortest power fuel (count + 1)

def Decimal.trim : Nat → Decimal → Decimal
  | 0, d => d
  | fuel + 1, d =>
    if d.digits % 10 = 0 && d.digits != 0 then trim fuel ⟨d.digits / 10, d.exponent + 1⟩ else d

/-- The decimal with the fewest digits that reads back as the fraction; of several, the nearest. -/
def Binary.decimal (b : Binary) : Decimal :=
  let i := b.interval
  Decimal.trim 20 (i.shortest i.power 18 1)

/-- How a decimal is laid out: the places of the point for which it is written out in full, and
the marks of the form with an exponent. -/
structure Layout where
  wholePlaces : Int
  leadingZeros : Int
  keepsPoint : Bool
  plusSign : Bool

def zeros (n : Int) : List Char := List.replicate n.toNat '0'

def Layout.write (layout : Layout) (d : Decimal) : List Char :=
  let digits := Nat.toDigits 10 d.digits
  let point : Int := digits.length + d.exponent
  if 0 ≤ d.exponent && point ≤ layout.wholePlaces then
    digits ++ zeros d.exponent ++ if layout.keepsPoint then ['.', '0'] else []
  else if 0 < point && point ≤ layout.wholePlaces then
    digits.take point.toNat ++ '.' :: digits.drop point.toNat
  else if point ≤ 0 && -point < layout.leadingZeros then
    '0' :: '.' :: (zeros (-point) ++ digits)
  else
    let mantissa := match digits with
      | [] => []
      | [digit] => [digit]
      | digit :: rest => digit :: '.' :: rest
    let e := point - 1
    mantissa ++ 'e' :: ((if e < 0 then ['-'] else if layout.plusSign then ['+'] else []) ++
      Nat.toDigits 10 e.natAbs)

def scriptLayout : Layout :=
  { wholePlaces := 21, leadingZeros := 6, keepsPoint := false, plusSign := true }

def settingLayout : Layout :=
  { wholePlaces := 16, leadingZeros := 5, keepsPoint := true, plusSign := false }

def Layout.writeMagnitude (layout : Layout) (zero : String) (x : Float) : List Char :=
  match Binary.ofBits? x.toBits with
  | some b => layout.write b.decimal
  | none => zero.toList

def isNegativeBits (x : Float) : Bool := x.toBits >>> 63 == 1

end PagePreview.Number
