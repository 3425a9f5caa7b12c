import PagePreview.Number.Elementary

/-! Numbers written to a given number of digits, and in other bases. -/

namespace PagePreview.Number

def roundedQuotient (n d : Nat) : Nat := (2 * n + d) / (2 * d)

def evenQuotient (n d : Nat) : Nat :=
  let q := n / d
  let r := 2 * (n % d)
  if r < d || (r == d && q % 2 == 0) then q else q + 1

def pointed (n places : Nat) : String :=
  let digits := (toString n).toList
  let digits := List.replicate (places + 1 - digits.length) '0' ++ digits
  let whole := digits.take (digits.length - places)
  if places == 0 then String.ofList whole
  else String.ofList (whole ++ '.' :: digits.drop (digits.length - places))

/-- The size of a number with a fixed number of places behind the point; of two neighbours as near
as each other, the even one. -/
def fixedText (x : Float) (places : Nat) : String :=
  let (n, d) := sizeFraction x
  pointed (evenQuotient (n * Nat.pow 10 places) d) places

def digitsOf (round : Nat → Nat → Nat) (x : Float) (count : Nat) : Nat × Int :=
  let (n, d) := sizeFraction x
  if n == 0 then (0, 0)
  else
    let rec power : Nat → Int → Int
      | 0, e => e
      | fuel + 1, e =>
        let (a, b) := if e ≥ 0 then (n, d * Nat.pow 10 e.toNat)
          else (n * Nat.pow 10 (-e).toNat, d)
        if a < b then power fuel (e - 1) else if 10 * b ≤ a then power fuel (e + 1) else e
    let e := power 800 0
    let shift : Int := count - 1 - e
    let r := if shift ≥ 0 then round (n * Nat.pow 10 shift.toNat) d
      else round n (d * Nat.pow 10 (-shift).toNat)
    if Nat.pow 10 count ≤ r then (r / 10, e + 1) else (r, e)

/-- The size of a number as digits and a power of ten; by default as many digits as it takes. -/
def exponentText (x : Float) (places : Option Nat) : String :=
  let (digits, e) := match places with
    | some p => digitsOf evenQuotient x (p + 1)
    | none => match Binary.ofBits? x.toBits with
      | some b =>
        let d := b.decimal
        (d.digits, d.exponent + ((toString d.digits).length - 1 : Nat))
      | none => (0, 0)
  let text := (toString digits).toList
  let text := match places with
    | some p => text ++ List.replicate (p + 1 - text.length) '0'
    | none => text
  let body := if text.length ≤ 1 then text else text.take 1 ++ '.' :: text.drop 1
  String.ofList body ++ (if e < 0 then "e-" else "e+") ++ toString e.natAbs

def precisionText (x : Float) (count : Nat) : String :=
  let (digits, e) := digitsOf roundedQuotient x count
  if e < -6 || (count : Int) ≤ e then
    let text := (toString digits).toList
    let text := text ++ List.replicate (count - text.length) '0'
    let body := if text.length ≤ 1 then text else text.take 1 ++ '.' :: text.drop 1
    String.ofList body ++ (if e < 0 then "e-" else "e+") ++ toString e.natAbs
  else
    let places : Int := count - 1 - e
    pointed digits places.toNat

def digitChar (n : Nat) : Char := if n < 10 then Char.ofNat (48 + n) else Char.ofNat (87 + n)

def wholeText (base n : Nat) : String :=
  let rec go : Nat → Nat → List Char → List Char
    | 0, _, done => done
    | fuel + 1, n, done =>
      if n < base then digitChar n :: done else go fuel (n / base) (digitChar (n % base) :: done)
  String.ofList (go (n.log2 + 2) n [])

/-- The digits of a fraction in a base, as few as tell it from its neighbours, and what is carried
over to the whole part. -/
def fractionDigits (base : Nat) : Nat → Float → Float → List Nat → List Nat × Bool
  | 0, _, _, done => (done, false)
  | fuel + 1, fraction, delta, done =>
    let fraction := fraction * Float.ofNat base
    let delta := delta * Float.ofNat base
    let digit := fraction.floor.toUInt64.toNat
    let fraction := fraction - Float.ofNat digit
    let done := digit :: done
    if (0.5 < fraction || (fraction == 0.5 && digit % 2 == 1)) && 1 < fraction + delta then
      carry done
    else if fraction < delta then (done, false)
    else fractionDigits base fuel fraction delta done
where
  carry : List Nat → List Nat × Bool
    | [] => ([], true)
    | d :: ds => if d + 1 < base then ((d + 1) :: ds, false) else carry ds

def wholeDigits (base : Nat) (x : Float) : String :=
  let b := Float.ofNat base
  let rec fill : Nat → Float → List Char → Float × List Char
    | 0, x, done => (x, done)
    | fuel + 1, x, done =>
      if 9007199254740992.0 ≤ x / b then fill fuel (x / b) ('0' :: done) else (x, done)
  let rec digits : Nat → Float → List Char → List Char
    | 0, _, done => done
    | fuel + 1, x, done =>
      let r := remainder x b
      let done := digitChar r.toUInt64.toNat :: done
      let x := (x - r) / b
      if 0 < x then digits fuel x done else done
  let (x, done) := fill 1100 x []
  String.ofList (digits 1100 x done)

def baseText (base : Nat) (x : Float) : String :=
  let size := x.abs
  let whole := size.floor
  let fraction := size - whole
  let next := Float.ofBits (size.toBits + 1)
  let delta := 0.5 * (next - size)
  let delta := if delta < 5e-324 then 5e-324 else delta
  if fraction < delta then wholeDigits base whole
  else
    let (digits, isCarried) := fractionDigits base 1100 fraction delta []
    let whole := if isCarried then whole + 1 else whole
    let text := String.ofList (digits.reverse.map digitChar)
    if text.isEmpty then wholeDigits base whole else wholeDigits base whole ++ "." ++ text

end PagePreview.Number
