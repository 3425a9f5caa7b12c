import PagePreview.Number.Word

/-! Functions of numbers worked out in exact arithmetic and rounded once: roots, the lengths of
hypotenuses, and logarithms and powers near the point where they vanish. -/

namespace PagePreview.Number

def nearest (n d : Nat) : Float :=
  if n == 0 then 0.0
  else
    -- The quotient is moved until it has 54 digits, the last of which only helps to round.
    let shift : Int := 54 - ((n.log2 : Int) - d.log2)
    let (n, d) := if shift ≥ 0 then (n * Nat.pow 2 shift.toNat, d)
      else (n, d * Nat.pow 2 (-shift).toNat)
    let q := n / d
    let extra := q.log2 - 52
    let unit := Nat.pow 2 extra
    let low := q % unit
    let isExact := n % d == 0
    let half := unit / 2
    let up := half < low || (low == half && (!isExact || q / unit % 2 == 1))
    (Float.ofNat (q / unit + if up then 1 else 0)).scaleB (extra - shift)

def sizeFraction (x : Float) : Nat × Nat :=
  match Binary.ofBits? x.toBits with
  | none => (0, 1)
  | some b =>
    if b.exponent ≥ 0 then (b.mantissa * Nat.pow 2 b.exponent.toNat, 1)
    else (b.mantissa, Nat.pow 2 (-b.exponent).toNat)

def rootBelow (k n : Nat) : Nat → Nat → Nat → Nat
  | 0, low, _ => low
  | fuel + 1, low, high =>
    if high ≤ low + 1 then low
    else
      let mid := (low + high) / 2
      if Nat.pow mid k ≤ n then rootBelow k n fuel mid high else rootBelow k n fuel low mid

def wholeRoot (k n : Nat) : Nat := rootBelow k n (n.log2 + 2) 0 (Nat.pow 2 (n.log2 / k + 1))

def precision : Nat := 200

def nearestRoot (k n d : Nat) : Float :=
  -- The denominator becomes a `k`th power, and the root gets digits enough.
  let (n, d) := (n * Nat.pow d (k - 1), d)
  let scaled := n * Nat.pow 2 (k * precision)
  let r := wholeRoot k scaled
  let sticky := if Nat.pow r k == scaled then 2 * r else 2 * r + 1
  nearest sticky (d * Nat.pow 2 (precision + 1))

def cubeRoot (x : Float) : Float :=
  if x.isNaN || x.isInf || x == 0 then x
  else
    let (n, d) := sizeFraction x
    let r := nearestRoot 3 n d
    if x < 0 then -r else r

def hypotenuse (x y : Float) : Float :=
  if x.isInf || y.isInf then 1.0 / 0.0
  else if x.isNaN || y.isNaN then 0.0 / 0.0
  else
    let (a, b) := sizeFraction x
    let (c, d) := sizeFraction y
    let e := max b d
    let (a, c) := (a * (e / b), c * (e / d))
    nearestRoot 2 (a * a + c * c) (e * e)

def expSeries : Nat → Nat → Int → Int → Int → Int
  | 0, _, _, _, sum => sum
  | fuel + 1, i, t, term, sum =>
    let term := term * t / (Int.pow 2 precision * (i : Int))
    if term == 0 then sum else expSeries fuel (i + 1) t term (sum + term)

def oddSeries : Nat → Nat → Int → Int → Int → Int
  | 0, _, _, _, sum => sum
  | fuel + 1, i, square, power, sum =>
    let power := power * square / Int.pow 2 precision
    if power == 0 then sum else oddSeries fuel (i + 2) square power (sum + power / (i : Int))

def fixedLog (n d : Nat) : Int :=
  let z : Int := ((n : Int) - d) * Int.pow 2 precision / ((n : Int) + d)
  2 * oddSeries 1000 3 (z * z / Int.pow 2 precision) z z

def fixedLog2 : Int := fixedLog 4 3 + fixedLog 3 2

def ofFixed (n : Int) : Float :=
  let size := nearest n.natAbs (Nat.pow 2 precision)
  if n < 0 then -size else size

def logOnePlus (x : Float) : Float :=
  if x.isNaN || x < -1 then 0.0 / 0.0
  else if x == -1 then -1.0 / 0.0
  else if x.isInf || x.abs < 1e-17 then x
  else
    let (n, d) := sizeFraction x
    let n := if x < 0 then d - n else d + n
    let k : Int := (n.log2 : Int) - d.log2
    let log := if k ≥ 0 then fixedLog n (d * Nat.pow 2 k.toNat)
      else fixedLog (n * Nat.pow 2 (-k).toNat) d
    ofFixed (log + k * fixedLog2)

def expMinusOne (x : Float) : Float :=
  if x.isNaN || x.abs < 1e-17 then x
  else if 710 < x then 1.0 / 0.0
  else if x < -45 then -1.0
  else
    let (n, d) := sizeFraction x
    let t : Int := (n * Nat.pow 2 precision / d : Nat)
    let t := if x < 0 then -t else t
    let k := Int.fdiv t fixedLog2
    let r := t - k * fixedLog2
    let one := Int.pow 2 precision
    let power := one + expSeries 1000 2 r r r
    ofFixed ((if k ≥ 0 then power * Int.pow 2 k.toNat
      else power / Int.pow 2 (-k).toNat) - one)

def areaSine (x : Float) : Float :=
  let size := x.abs
  let inverse := 1.0 / size
  let r := logOnePlus (size + size / (hypotenuse 1 inverse + inverse))
  if isNegativeBits x then -r else r

def areaCosine (x : Float) : Float :=
  if x < 1 then 0.0 / 0.0 else (x + (x - 1).sqrt * (x + 1).sqrt).log

def areaTangent (x : Float) : Float := 0.5 * logOnePlus (2 * x / (1 - x))

def powerBySquares : Nat → Nat → Float → Float → Float
  | 0, _, _, product => product
  | fuel + 1, n, x, product =>
    let product := if n % 2 == 1 then product * x else product
    if n / 2 == 0 then product else powerBySquares fuel (n / 2) (x * x) product

def powerOf (x y : Float) : Float :=
  match truncated? y with
  | some n =>
    if ofInt n == y && n.natAbs < Nat.pow 2 31 then
      let r := powerBySquares 32 n.natAbs x 1
      if n < 0 then 1 / r else r
    else power x y
  | none => power x y

end PagePreview.Number
