import Flowline.Decimal.Double
import Mathlib.Tactic.Common

/-!
# The range of doubles

An integer has no nearest double exactly if it is at least half a step beyond the largest one in
size: the middle between the largest double and the next power of two already goes to the even
neighbour, which is too large.
-/

namespace Flowline.Double

/-- The middle between a power of two and the largest number of 53 bits below it, where half a step
between such numbers is `2^half`. -/
def middle (half : Nat) : Nat := (Nat.pow 2 54 - 1) * Nat.pow 2 half

def limit : Nat := middle 970

def exponent (num den : Nat) : Int :=
  let guess : Int := (num.log2 : Int) - (den.log2 : Int) - 52
  let (n, d) := scale num den guess
  max (if n / d < Nat.pow 2 52 then guess - 1 else guess) (-1074)

/-- A quotient is too large if its exponent is, or if it is rounded up to one that is. -/
theorem nearestBits_eq_none_iff {num den : Nat} (some : num ≠ 0) :
    nearestBits num den = none ↔ 971 < exponent num den ∨ exponent num den = 971 ∧
      roundQuotient (scale num den (exponent num den)).1 (scale num den (exponent num den)).2
        = Nat.pow 2 53 := by
  have bits (m : Nat) (e : Int) :
      (if 971 < e then none
        else if m < Nat.pow 2 52 then Option.some m
        else Option.some ((e + 1075).toNat * Nat.pow 2 52 + (m - Nat.pow 2 52))) = none ↔
        971 < e := by
    split
    · simp [*]
    · split <;> simp [*]
  have carried (m : Nat) (e : Int) :
      971 < (if m = Nat.pow 2 53 then (Nat.pow 2 52, e + 1) else (m, e)).2 ↔
        971 < e ∨ e = 971 ∧ m = Nat.pow 2 53 := by
    split
    · next full =>
      simp only [full, and_true]
      omega
    · next other =>
      simp only [other, and_false, or_false]
  rw [nearestBits, if_neg some, ← carried]
  exact bits _ _

theorem scale_of_nonneg (num den k : Nat) : scale num den (k : Int) = (num, den * Nat.pow 2 k) := by
  simp [scale]

theorem two_pow_add (j k : Nat) : Nat.pow 2 (j + k) = Nat.pow 2 j * Nat.pow 2 k := Nat.pow_add 2 j k

theorem two_pow_pos (k : Nat) : 0 < Nat.pow 2 k := Nat.two_pow_pos k

theorem log2_lt_iff {num : Nat} (some : num ≠ 0) (k : Nat) : num.log2 < k ↔ num < Nat.pow 2 k :=
  Nat.log2_lt some

theorem exponent_le (num : Nat) : exponent num 1 ≤ max ((num.log2 : Int) - 52) (-1074) := by
  have unit : (1 : Nat).log2 = 0 := rfl
  simp only [exponent, unit]
  split <;> omega

theorem exponent_of_log2 {num k : Nat} (some : num ≠ 0) (log : num.log2 = k + 52) :
    exponent num 1 = k := by
  have enough : ¬ num / Nat.pow 2 k < Nat.pow 2 52 := by
    rw [Nat.div_lt_iff_lt_mul (two_pow_pos k), ← two_pow_add, ← log2_lt_iff some]
    omega
  have guess : (num.log2 : Int) - ((1 : Nat).log2 : Int) - 52 = k := by
    rw [log, show (1 : Nat).log2 = 0 from rfl]
    omega
  simp only [exponent, guess, scale_of_nonneg, Nat.one_mul, enough, if_false]
  omega

theorem roundQuotient_eq_succ_iff {num den q : Nat} (odd : q % 2 = 1) (below : num / den = q) :
    roundQuotient num den = q + 1 ↔ den ≤ 2 * (num % den) := by
  simp only [roundQuotient, below, odd, Nat.one_ne_zero, if_false]
  split
  · omega
  · split <;> omega

theorem roundQuotient_le (num den : Nat) : roundQuotient num den ≤ num / den + 1 := by
  simp only [roundQuotient]
  split
  · omega
  · split <;> try split
    all_goals omega

theorem roundQuotient_largest_iff {num half : Nat} (some : 0 < half)
    (below : num < Nat.pow 2 54 * half) :
    roundQuotient num (2 * half) = Nat.pow 2 53 ↔ (Nat.pow 2 54 - 1) * half ≤ num := by
  rw [show Nat.pow 2 54 = 18014398509481984 from rfl] at below ⊢
  rw [show Nat.pow 2 53 = 9007199254740992 from rfl]
  have parts := Nat.div_add_mod num (2 * half)
  have rest := Nat.mod_lt num (show 0 < 2 * half by omega)
  have fewer : num / (2 * half) < 9007199254740992 := by
    rw [Nat.div_lt_iff_lt_mul (by omega)]
    omega
  by_cases last : num / (2 * half) = 9007199254740991
  · rw [show 9007199254740992 = 9007199254740991 + 1 from rfl,
      roundQuotient_eq_succ_iff (by decide) last]
    rw [last] at parts
    omega
  · have less := roundQuotient_le num (2 * half)
    have short : num < 9007199254740991 * (2 * half) := by
      rw [← Nat.div_lt_iff_lt_mul (by omega)]
      omega
    omega

-- the exponent is a variable, so that nothing evaluates its powers
theorem nearestBits_one_eq_none_iff {half : Nat} (largest : half + 1 = 971) (num : Nat) :
    nearestBits num 1 = none ↔ middle half ≤ num := by
  rw [middle]
  rcases Nat.eq_zero_or_pos num with rfl | given
  · have pos := Nat.mul_pos (show 0 < Nat.pow 2 54 - 1 by decide) (two_pow_pos half)
    simp only [Nat.not_le.mpr pos, iff_false]
    nofun
  have some : num ≠ 0 := Nat.pos_iff_ne_zero.mp given
  rw [nearestBits_eq_none_iff some]
  rcases Nat.lt_trichotomy num.log2 (53 + half) with less | same | more
  · have small : exponent num 1 < 971 := by
      have bound := exponent_le num
      omega
    have short := (log2_lt_iff some _).mp less
    have least : Nat.pow 2 53 * Nat.pow 2 half ≤ (Nat.pow 2 54 - 1) * Nat.pow 2 half :=
      Nat.mul_le_mul_right _ (by decide)
    rw [two_pow_add] at short
    constructor
    · rintro (large | ⟨full, -⟩) <;> omega
    · exact fun long => absurd (Nat.lt_of_lt_of_le short least) (Nat.not_lt.mpr long)
  · have log : num.log2 = 1 + half + 52 := by omega
    have short := (log2_lt_iff some (54 + half)).mp (by omega)
    have top : ((1 + half : Nat) : Int) = 971 := by omega
    rw [two_pow_add] at short
    rw [exponent_of_log2 some log, scale_of_nonneg, Nat.one_mul, two_pow_add,
      ← roundQuotient_largest_iff (two_pow_pos half) short, top]
    simp
  · have high : ¬ num.log2 < 54 + half := by omega
    obtain ⟨k, log⟩ := Nat.exists_eq_add_of_le' (show 52 ≤ num.log2 by omega)
    have large : 971 < (k : Int) := by omega
    have long := Nat.not_lt.mp fun short => high ((log2_lt_iff some _).mpr short)
    rw [two_pow_add] at long
    rw [exponent_of_log2 some log]
    constructor
    · exact fun _ => Nat.le_trans (Nat.mul_le_mul_right _ (Nat.sub_le _ _)) long
    · exact fun _ => .inl large

/-- An integer rounds to no double from the limit on. -/
theorem ofInt_eq_none_iff (n : Int) : ofInt n = none ↔ limit ≤ n.natAbs := by
  rw [ofInt, nearest, Option.map_eq_none_iff, nearestBits_one_eq_none_iff rfl, limit]

end Flowline.Double
