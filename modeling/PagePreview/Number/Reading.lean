/-! Numbers from digits: what a numeral in some base, or with a power of ten, stands for. -/

namespace PagePreview.Number

def ofDecimal (digits : Nat) (e : Int) : Float :=
  if e < -6000 then 0.0
  else if e < 0 then Float.ofScientific digits true e.natAbs
  else if 400 < e then (if digits = 0 then 0.0 else 1.0 / 0.0)
  else Float.ofScientific digits false e.natAbs

def ofWhole (n : Nat) : Float := Float.ofScientific n false 0

def digitValue (c : Char) : Nat :=
  if '0' ≤ c && c ≤ '9' then c.toNat - 48
  else if 'a' ≤ c && c ≤ 'z' then c.toNat - 87
  else if 'A' ≤ c && c ≤ 'Z' then c.toNat - 55
  else 36

def isDigitIn (base : Nat) (c : Char) : Bool := digitValue c < base

def ofDigits (base : Nat) (digits : List Char) : Nat :=
  digits.foldl (fun n c => n * base + digitValue c) 0

end PagePreview.Number
