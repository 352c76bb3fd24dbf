import Flowline.Text.Utf16

/-!
# Texts in 16-bit units

The units of a text give the text back. A character of one unit is no half of a pair, and one of two
units is spelled by a high half and a low one, so that the reader tells the two apart wherever they
stand.
-/

namespace Flowline.Text

theorem isHalfUnit_toNat (c : Char) : isHalfUnit c.toNat = false := by
  have valid := c.valid
  simp only [UInt32.isValidChar, Nat.isValidChar] at valid
  simp only [isHalfUnit, Char.toNat, Bool.and_eq_false_iff, decide_eq_false_iff_not]
  omega

theorem ofUnit_toNat (c : Char) : ofUnit c.toNat = c := by
  simp [ofUnit, isHalfUnit_toNat]

theorem toNat_lt (c : Char) : c.toNat < 0x110000 := by
  have valid := c.valid
  simp only [UInt32.isValidChar, Nat.isValidChar] at valid
  simp only [Char.toNat]
  omega

namespace Utf16

theorem units_lt {c : Char} {unit : Nat} (mem : unit ∈ units c) : unit < 0x10000 := by
  have bound := toNat_lt c
  unfold units at mem
  split at mem <;> simp only [List.mem_cons, List.not_mem_nil, or_false] at mem <;> omega

theorem ofUnits_cons {unit : Nat} (single : isHigh unit = false) (rest : List Nat) :
    ofUnits (unit :: rest) = ofUnit unit :: ofUnits rest := by
  cases rest with
  | nil => rfl
  | cons next rest => simp [ofUnits, single]

theorem ofUnits_pair {high low : Nat} (first : isHigh high = true) (second : isLow low = true)
    (rest : List Nat) :
    ofUnits (high :: low :: rest) = Char.ofNat (joinHalves high low) :: ofUnits rest := by
  simp [ofUnits, first, second]

theorem joinHalves_split {n : Nat} (large : ¬ n < 0x10000) :
    joinHalves (0xD800 + (n - 0x10000) / 0x400) (0xDC00 + (n - 0x10000) % 0x400) = n := by
  unfold joinHalves
  omega

theorem ofUnits_units_append (c : Char) (rest : List Nat) :
    ofUnits (units c ++ rest) = c :: ofUnits rest := by
  unfold units
  split
  case isTrue small =>
    have single : isHigh c.toNat = false := by
      have whole := isHalfUnit_toNat c
      simp only [isHalfUnit, Bool.and_eq_false_iff, decide_eq_false_iff_not] at whole
      simp only [isHigh, Bool.and_eq_false_iff, decide_eq_false_iff_not]
      omega
    rw [List.singleton_append, ofUnits_cons single, ofUnit_toNat]
  case isFalse large =>
    have bound := toNat_lt c
    have first : isHigh (0xD800 + (c.toNat - 0x10000) / 0x400) = true := by
      simp only [isHigh, Bool.and_eq_true, decide_eq_true_eq]
      omega
    have second : isLow (0xDC00 + (c.toNat - 0x10000) % 0x400) = true := by
      simp only [isLow, Bool.and_eq_true, decide_eq_true_eq]
      omega
    rw [List.cons_append, List.singleton_append, ofUnits_pair first second,
      joinHalves_split large, Char.ofNat_toNat]

theorem ofUnits_units (cs : List Char) : ofUnits (cs.flatMap units) = cs := by
  induction cs with
  | nil => rfl
  | cons c cs ih => rw [List.flatMap_cons, ofUnits_units_append, ih]

end Utf16

end Flowline.Text
