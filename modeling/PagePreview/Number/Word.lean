import PagePreview.Number.Shortest

/-! Numbers as 32-bit words, and whole parts of numbers. -/

namespace PagePreview.Number

def truncated? (x : Float) : Option Int :=
  if x.isNaN || x.isInf then none
  else match Binary.ofBits? x.toBits with
    | none => some 0
    | some b =>
      let size : Nat := if b.exponent ≥ 0 then b.mantissa * Nat.pow 2 b.exponent.toNat
        else b.mantissa / Nat.pow 2 (-b.exponent).toNat
      some (if isNegativeBits x then -(size : Int) else size)

def toWord (x : Float) : Nat := ((truncated? x).getD 0 % Int.pow 2 32).toNat

def toSignedWord (x : Float) : Int :=
  let n := toWord x
  if n < Nat.pow 2 31 then n else (n : Int) - Int.pow 2 32

def ofInt (n : Int) : Float :=
  let x := Float.ofScientific n.natAbs false 0
  if n < 0 then -x else x

def ofWord (n : Nat) : Float :=
  let n : Int := (n % Nat.pow 2 32 : Nat)
  ofInt (if n < Int.pow 2 31 then n else n - Int.pow 2 32)

def bitwise (f : Nat → Nat → Nat) (x y : Float) : Float := ofWord (f (toWord x) (toWord y))

def bitAnd : Float → Float → Float := bitwise (· &&& ·)
def bitOr : Float → Float → Float := bitwise (· ||| ·)
def bitXor : Float → Float → Float := bitwise (· ^^^ ·)
def bitNot (x : Float) : Float := ofInt (-(toSignedWord x) - 1)

def shiftLeft (x y : Float) : Float :=
  ofWord (toWord x * Nat.pow 2 (toWord y % 32))

def shiftRight (x y : Float) : Float :=
  ofInt (Int.fdiv (toSignedWord x) (Int.pow 2 (toWord y % 32)))

def shiftRightZero (x y : Float) : Float := ofInt (toWord x / Nat.pow 2 (toWord y % 32))

def remainder (x y : Float) : Float :=
  if x.isNaN || y.isNaN || x.isInf || y == 0 then 0.0 / 0.0
  else if y.isInf || x == 0 then x
  else match Binary.ofBits? x.toBits, Binary.ofBits? y.toBits with
    | some a, some b =>
      let e := min a.exponent b.exponent
      let m := a.mantissa * Nat.pow 2 (a.exponent - e).toNat
      let n := b.mantissa * Nat.pow 2 (b.exponent - e).toNat
      let r := m % n
      let size := if e ≥ 0 then Float.ofScientific (r * Nat.pow 2 e.toNat) false 0
        else (Float.ofNat r).scaleB e
      if isNegativeBits x then -size else size
    | _, _ => 0.0 / 0.0

def power (x y : Float) : Float :=
  if y.isNaN || (x.abs == 1 && y.isInf) then 0.0 / 0.0 else Float.pow x y

def scriptText (x : Float) : String :=
  if x.isNaN then "NaN"
  else
    let size := if x.isInf then "Infinity" else String.ofList (scriptLayout.writeMagnitude "0" x)
    if isNegativeBits x && x != 0 then "-" ++ size else size

end PagePreview.Number
