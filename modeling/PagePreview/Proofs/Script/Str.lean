import PagePreview.Script.Str

/-!
# Script strings as rows of units

A string is the row of its 16-bit units, and each row has one string: what is text is kept as text.
So strings that are joined are their units joined, and the order in which they are joined is of no
account.
-/

namespace PagePreview.Script.Str

variable {a b : Str} {u v : UInt16} {us : List UInt16} {text : List Char}

theorem isHigh_iff : isHigh u = true ↔ 0xD800 ≤ u.toNat ∧ u.toNat < 0xDC00 := by
  simp [isHigh, UInt16.le_iff_toNat_le, UInt16.lt_iff_toNat_lt]

theorem isLow_iff : isLow u = true ↔ 0xDC00 ≤ u.toNat ∧ u.toNat < 0xE000 := by
  simp [isLow, UInt16.le_iff_toNat_le, UInt16.lt_iff_toNat_lt]

theorem toNat_ofNat {n : Nat} (h : n.isValidChar) : (Char.ofNat n).toNat = n := by
  have same : Char.ofNat n = Char.ofNatAux n h := dif_pos h
  rw [same]
  rfl

theorem validChar_of_single (high : isHigh u = false) (low : isLow u = false) : u.toNat.isValidChar := by
  have := u.toNat_lt
  have notHigh : ¬(0xD800 ≤ u.toNat ∧ u.toNat < 0xDC00) := by rw [← isHigh_iff, high]; simp
  have notLow : ¬(0xDC00 ≤ u.toNat ∧ u.toNat < 0xE000) := by rw [← isLow_iff, low]; simp
  unfold Nat.isValidChar
  omega

theorem unitsOfChar_single (high : isHigh u = false) (low : isLow u = false) :
    unitsOfChar (Char.ofNat u.toNat) = [u] := by
  have bound := u.toNat_lt
  unfold unitsOfChar
  rw [toNat_ofNat (validChar_of_single high low)]
  dsimp only
  rw [if_pos (by omega)]
  simp

theorem unitsOfChar_pair (high : isHigh u = true) (low : isLow v = true) :
    unitsOfChar (pairChar u v) = [u, v] := by
  rw [isHigh_iff] at high
  rw [isLow_iff] at low
  have valid : (0x10000 + (u.toNat - 0xD800) * 0x400 + (v.toNat - 0xDC00)).isValidChar := by
    unfold Nat.isValidChar
    omega
  unfold unitsOfChar pairChar
  rw [toNat_ofNat valid]
  dsimp only
  rw [if_neg (by omega), Nat.add_assoc, Nat.add_sub_cancel_left]
  have first : (0xD800 + ((u.toNat - 0xD800) * 0x400 + (v.toNat - 0xDC00)) / 0x400).toUInt16 = u := by
    apply UInt16.toNat_inj.mp
    simp
    omega
  have second : (0xDC00 + ((u.toNat - 0xD800) * 0x400 + (v.toNat - 0xDC00)) % 0x400).toUInt16 = v := by
    apply UInt16.toNat_inj.mp
    simp
    omega
  rw [first, second]

theorem units_of_decode? (h : decode? us = some text) : text.flatMap unitsOfChar = us := by
  induction us using decode?.induct generalizing text with
  | case1 =>
    cases h
    rfl
  | case2 u surrogate =>
    rw [decode?, if_pos surrogate] at h
    cases h
  | case3 u other =>
    rw [decode?, if_neg other] at h
    cases h
    rw [Bool.or_eq_true, not_or, Bool.not_eq_true, Bool.not_eq_true] at other
    simp [unitsOfChar_single other.1 other.2]
  | case4 u v rest high low ih =>
    rw [decode?, if_pos high, if_pos low] at h
    obtain ⟨text, spelt, rfl⟩ := Option.map_eq_some_iff.mp h
    rw [List.flatMap_cons, unitsOfChar_pair high low, ih spelt]
    rfl
  | case5 u v rest high low =>
    rw [decode?, if_pos high, if_neg low] at h
    cases h
  | case6 u v rest high low =>
    rw [decode?, if_neg high, if_pos low] at h
    cases h
  | case7 u v rest high low ih =>
    rw [decode?, if_neg high, if_neg low] at h
    obtain ⟨text, spelt, rfl⟩ := Option.map_eq_some_iff.mp h
    rw [Bool.not_eq_true] at high low
    rw [List.flatMap_cons, unitsOfChar_single high low, ih spelt]
    rfl

theorem decode?_single (high : isHigh u = false) (low : isLow u = false) :
    decode? (u :: us) = (decode? us).map (Char.ofNat u.toNat :: ·) := by
  cases us with
  | nil => simp [decode?, high, low]
  | cons v rest => rw [decode?, if_neg (by simp [high]), if_neg (by simp [low])]

theorem decode?_pair (high : isHigh u = true) (low : isLow v = true) :
    decode? (u :: v :: us) = (decode? us).map (pairChar u v :: ·) := by
  rw [decode?, if_pos high, if_pos low]

theorem decode?_units (text : List Char) : decode? (text.flatMap unitsOfChar) = some text := by
  induction text with
  | nil => rfl
  | cons c text ih =>
    have valid := c.valid
    change c.toNat.isValidChar at valid
    rw [List.flatMap_cons]
    by_cases small : c.toNat < 0x10000
    · have units : unitsOfChar c = [c.toNat.toUInt16] := by simp [unitsOfChar, small]
      have same : c.toNat.toUInt16.toNat = c.toNat := by simp; omega
      have high : isHigh c.toNat.toUInt16 = false := by
        rw [Bool.eq_false_iff, ne_eq, isHigh_iff, same]
        unfold Nat.isValidChar at valid
        omega
      have low : isLow c.toNat.toUInt16 = false := by
        rw [Bool.eq_false_iff, ne_eq, isLow_iff, same]
        unfold Nat.isValidChar at valid
        omega
      rw [units, List.singleton_append, decode?_single high low, ih, same, Char.ofNat_toNat]
      rfl
    · have units : unitsOfChar c = [(0xD800 + (c.toNat - 0x10000) / 0x400).toUInt16,
          (0xDC00 + (c.toNat - 0x10000) % 0x400).toUInt16] := by simp [unitsOfChar, small]
      have first : (0xD800 + (c.toNat - 0x10000) / 0x400).toUInt16.toNat =
          0xD800 + (c.toNat - 0x10000) / 0x400 := by
        unfold Nat.isValidChar at valid
        simp
        omega
      have second : (0xDC00 + (c.toNat - 0x10000) % 0x400).toUInt16.toNat =
          0xDC00 + (c.toNat - 0x10000) % 0x400 := by
        simp
        omega
      have high : isHigh (0xD800 + (c.toNat - 0x10000) / 0x400).toUInt16 = true := by
        rw [isHigh_iff, first]
        unfold Nat.isValidChar at valid
        omega
      have low : isLow (0xDC00 + (c.toNat - 0x10000) % 0x400).toUInt16 = true := by
        rw [isLow_iff, second]
        omega
      have pair : pairChar (0xD800 + (c.toNat - 0x10000) / 0x400).toUInt16
          (0xDC00 + (c.toNat - 0x10000) % 0x400).toUInt16 = c := by
        rw [pairChar, first, second]
        have number : 0x10000 + (0xD800 + (c.toNat - 0x10000) / 0x400 - 0xD800) * 0x400 +
            (0xDC00 + (c.toNat - 0x10000) % 0x400 - 0xDC00) = c.toNat := by omega
        rw [number, Char.ofNat_toNat]
      rw [units, List.cons_append, List.singleton_append, decode?_pair high low, ih, pair]
      rfl

theorem textUnits_toList (text : String) : (textUnits text).toList = text.toList.flatMap unitsOfChar := by
  have folded : ∀ (cs : List Char) (us : Array UInt16),
      (cs.foldl (fun us c => (unitsOfChar c).foldl Array.push us) us).toList =
        us.toList ++ cs.flatMap unitsOfChar := by
    intro cs
    induction cs with
    | nil => simp
    | cons c cs ih =>
      intro us
      rw [List.foldl_cons, ih]
      simp
  rw [textUnits, String.foldl_eq_foldl_toList, folded]
  rfl

theorem ofUnits_textUnits (text : String) : ofUnits (textUnits text) = .plain text := by
  rw [ofUnits, textUnits_toList, decode?_units]
  simp

theorem toUnits_ofUnits (us : Array UInt16) : (ofUnits us).toUnits = us := by
  unfold ofUnits
  cases spelt : decode? us.toList with
  | none => rfl
  | some text =>
    apply Array.toList_inj.mp
    rw [← units_of_decode? spelt]
    change (textUnits (String.ofList text)).toList = _
    rw [textUnits_toList, String.toList_ofList]

theorem append_eq (a b : Str) : a ++ b = ofUnits (a.toUnits ++ b.toUnits) := by
  cases a with
  | units us => cases b <;> rfl
  | plain a =>
    cases b with
    | units us => rfl
    | plain b =>
      change Str.plain (a ++ b) = ofUnits (textUnits a ++ textUnits b)
      rw [← ofUnits_textUnits]
      congr 1
      apply Array.toList_inj.mp
      rw [Array.toList_append, textUnits_toList, textUnits_toList, textUnits_toList, String.toList_append,
        List.flatMap_append]

theorem toUnits_append (a b : Str) : (a ++ b).toUnits = a.toUnits ++ b.toUnits := by
  rw [append_eq, toUnits_ofUnits]

def IsProper (s : Str) : Prop := ofUnits s.toUnits = s

theorem isProper_plain (text : String) : IsProper (.plain text) := ofUnits_textUnits text

theorem isProper_ofUnits (us : Array UInt16) : IsProper (ofUnits us) := by
  rw [IsProper, toUnits_ofUnits]

theorem isProper_append (a b : Str) : IsProper (a ++ b) := append_eq a b ▸ isProper_ofUnits _

theorem isProper_mapChars (f : List Char → List Char) (s : Str) : IsProper (s.mapChars f) := by
  cases s with
  | plain text => exact isProper_plain _
  | units us => exact isProper_ofUnits _

theorem IsProper.ext (ha : IsProper a) (hb : IsProper b) (same : a.toUnits = b.toUnits) : a = b := by
  rw [← ha, ← hb, same]

def spelling : Str → List UInt16
  | .plain text => text.toList.flatMap unitsOfChar
  | .units us => us.toList

theorem toUnits_toList (s : Str) : s.toUnits.toList = s.spelling := by
  cases s with
  | plain text => exact textUnits_toList text
  | units us => rfl

def concat (parts : List Str) : Str := ofUnits (parts.flatMap spelling).toArray

theorem toUnits_concat (parts : List Str) :
    (concat parts).toUnits.toList = parts.flatMap fun s => s.toUnits.toList := by
  rw [concat, toUnits_ofUnits]
  simp [toUnits_toList]

theorem isProper_concat (parts : List Str) : IsProper (concat parts) := isProper_ofUnits _

theorem concat_append (parts : List Str) (s : Str) : concat parts ++ s = concat (parts ++ [s]) := by
  refine (isProper_append _ _).ext (isProper_concat _) (Array.toList_inj.mp ?_)
  rw [toUnits_append, Array.toList_append, toUnits_concat, toUnits_concat, List.flatMap_append]
  simp

theorem append_eq_concat (a b : Str) : a ++ b = concat [a, b] := by
  refine (isProper_append _ _).ext (isProper_concat _) (Array.toList_inj.mp ?_)
  rw [toUnits_append, Array.toList_append, toUnits_concat]
  simp

theorem concat_singleton {s : Str} (h : IsProper s) : concat [s] = s := by
  refine (isProper_concat _).ext h (Array.toList_inj.mp ?_)
  rw [toUnits_concat]
  simp

theorem concat_flatten (front : List Str) (parts : List Str) (back : List Str) :
    concat (front ++ concat parts :: back) = concat (front ++ parts ++ back) := by
  refine (isProper_concat _).ext (isProper_concat _) (Array.toList_inj.mp ?_)
  rw [toUnits_concat, toUnits_concat]
  simp [toUnits_concat]

theorem concat_empty (front back : List Str) : concat (front ++ .empty :: back) = concat (front ++ back) := by
  refine (isProper_concat _).ext (isProper_concat _) (Array.toList_inj.mp ?_)
  have none_there : Str.empty.toUnits = #[] := Array.toList_inj.mp (textUnits_toList "")
  rw [toUnits_concat, toUnits_concat]
  simp [none_there]

end PagePreview.Script.Str
