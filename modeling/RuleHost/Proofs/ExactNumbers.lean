import Mathlib.Algebra.Order.Field.Power
import Mathlib.Algebra.Order.Ring.Rat
import Mathlib.Tactic.Positivity
import Mathlib.Tactic.Ring
import RuleHost.Proofs.WholeFloats

/-! The number that bits stand for, by the formula of the interchange format. It ties the two readings of a
float, as a whole number and in a comparison, to one meaning. -/

namespace RuleHost.Binary64

variable {x y : Binary64}

/-- The number that finite bits stand for: `0.f` or `1.f` in binary, scaled by a power of two. -/
def rational (x : Binary64) : ℚ :=
  (if x.negative then -1 else 1) *
    if x.biased = 0 then x.fraction / 2 ^ 52 * (2 : ℚ) ^ (-1022 : ℤ)
    else (1 + x.fraction / 2 ^ 52) * (2 : ℚ) ^ (x.biased - 1023 : ℤ)

inductive Number where
  | infinite (negative : Bool)
  | finite (value : ℚ)

/-- The number that bits stand for. NaN is no number. -/
def number? (x : Binary64) : Option Number :=
  if x.isFinite then some (.finite x.rational)
  else if x.fraction = 0 then some (.infinite x.negative)
  else none

theorem isFinite_iff : x.isFinite = true ↔ x.biased ≠ 2047 := bne_iff_ne

theorem isFinite_of_isZero (zero : x.isZero = true) : x.isFinite = true := by
  rw [isFinite_iff, (isZero_iff.mp zero).1]
  decide

/-- The same number, as the significand scales it. -/
theorem rational_eq (x : Binary64) :
    x.rational = (if x.negative then -1 else 1) * (x.significand * (2 : ℚ) ^ x.exponent) := by
  have lowered (k : ℤ) : (2 : ℚ) ^ (k - 52) = 2 ^ k / 2 ^ 52 := by
    rw [zpow_sub₀ two_ne_zero]
    norm_cast
  unfold rational significand exponent
  congr 1
  by_cases subnormal : x.biased = 0
  · rw [if_pos subnormal, if_pos subnormal, subnormal, show ((max 0 1 : ℕ) : ℤ) - 1075 = -1022 - 52 from rfl, lowered]
    ring
  · have scale : ((max x.biased 1 : ℕ) : ℤ) - 1075 = x.biased - 1023 - 52 := by omega
    rw [if_neg subnormal, if_neg subnormal, scale, lowered]
    push_cast
    ring

theorem abs_rational (x : Binary64) : |x.rational| = x.significand * (2 : ℚ) ^ x.exponent := by
  have sign : |(if x.negative then -1 else 1 : ℚ)| = 1 := by split <;> simp
  rw [rational_eq, abs_mul, sign, one_mul, abs_of_nonneg (by positivity)]

theorem rational_eq_zero_iff : x.rational = 0 ↔ x.isZero = true := by
  have scale : (2 : ℚ) ^ x.exponent ≠ 0 := zpow_ne_zero _ two_ne_zero
  rw [← abs_eq_zero, abs_rational, mul_eq_zero_iff_right scale, Nat.cast_eq_zero, significand_eq_zero_iff]

/-- The sign bit is the sign of all numbers but the zeros. -/
theorem rational_neg_iff : x.rational < 0 ↔ x.negative = true ∧ x.isZero = false := by
  rw [← Bool.not_eq_true, ← rational_eq_zero_iff]
  have magnitude : (0 : ℚ) ≤ x.significand * 2 ^ x.exponent := by positivity
  rw [rational_eq]
  cases x.negative with
  | false => simpa using magnitude
  | true => simp [lt_iff_le_and_ne, magnitude, eq_comm]

theorem significand_lt (x : Binary64) : x.significand < 2 ^ 53 := by
  have short := x.fraction_lt
  unfold significand
  split <;> omega

/-- Of two numbers of one magnitude neither has the greater exponent: the other's significand would be too long. -/
theorem exponent_le (same : |x.rational| = |y.rational|) : y.exponent ≤ x.exponent := by
  rw [abs_rational, abs_rational] at same
  by_contra greater
  obtain ⟨up, exponent⟩ : ∃ up : ℕ, y.exponent = x.exponent + (up + 1 : ℕ) :=
    ⟨(y.exponent - x.exponent - 1).toNat, by omega⟩
  have scaled : x.significand = y.significand * 2 ^ (up + 1) := by
    rw [exponent, zpow_add₀ two_ne_zero, zpow_natCast, mul_left_comm, mul_comm] at same
    exact_mod_cast mul_left_cancel₀ (zpow_ne_zero _ two_ne_zero) same
  have normal : y.biased ≠ 0 := by
    unfold Binary64.exponent at exponent
    omega
  have least : 2 ^ 52 * 2 ^ 1 ≤ y.significand * 2 ^ (up + 1) :=
    Nat.mul_le_mul (by rw [significand_of_normal normal]; omega) (Nat.pow_le_pow_right Nat.two_pos (by omega))
  have := x.significand_lt
  omega

/-- A magnitude has one exponent and one fraction. -/
theorem fields_unique (same : |x.rational| = |y.rational|) : x.biased = y.biased ∧ x.fraction = y.fraction := by
  have exponents : x.exponent = y.exponent := le_antisymm (exponent_le same.symm) (exponent_le same)
  have significands : x.significand = y.significand := by
    rw [abs_rational, abs_rational, exponents] at same
    exact_mod_cast mul_right_cancel₀ (zpow_ne_zero _ two_ne_zero) same
  have := x.fraction_lt
  have := y.fraction_lt
  unfold exponent at exponents
  unfold significand at significands
  split at significands <;> split at significands <;> omega

/-- Finite bits stand for different numbers, but for the two zeros. -/
theorem rational_inj : x.rational = y.rational ↔ x = y ∨ x.isZero = true ∧ y.isZero = true := by
  constructor
  · intro same
    have zeros : x.isZero = true ↔ y.isZero = true := by rw [← rational_eq_zero_iff, same, rational_eq_zero_iff]
    cases zero : x.isZero with
    | true => exact .inr ⟨rfl, zeros.mp zero⟩
    | false =>
      have other : y.isZero = false := by rw [Bool.eq_false_iff, ne_eq, ← zeros, zero]; exact Bool.false_ne_true
      have signs : x.negative = true ↔ y.negative = true := by
        have negatives := rational_neg_iff (x := x)
        rw [same, rational_neg_iff, zero, other] at negatives
        simpa using negatives.symm
      obtain ⟨exponents, fractions⟩ := fields_unique (congrArg abs same)
      exact .inl (ext_fields (Bool.eq_iff_iff.mpr signs) exponents fractions)
  · rintro (rfl | ⟨first, second⟩)
    · rfl
    · rw [rational_eq_zero_iff.mpr first, rational_eq_zero_iff.mpr second]

theorem rational_eq_signed (x : Binary64) : x.rational = if x.negative then -|x.rational| else |x.rational| := by
  rw [abs_rational, rational_eq]
  split
  · rw [neg_one_mul]
  · rw [one_mul]

theorem wholeMagnitude?_eq_some_iff_abs {n : ℕ} : x.wholeMagnitude? = some n ↔ |x.rational| = n := by
  rw [wholeMagnitude?_eq_some_iff, abs_rational]
  constructor
  · rintro (⟨up, exponent, rfl⟩ | ⟨down, _, exponent, scaled⟩)
    · rw [exponent, zpow_natCast]
      norm_cast
    · rw [exponent, scaled, zpow_neg, zpow_natCast]
      push_cast
      exact mul_inv_cancel_right₀ (pow_ne_zero _ two_ne_zero) _
  · intro same
    by_cases raised : 0 ≤ x.exponent
    · obtain ⟨up, exponent⟩ := Int.eq_ofNat_of_zero_le raised
      rw [exponent, zpow_natCast] at same
      exact .inl ⟨up, exponent, by exact_mod_cast same.symm⟩
    · obtain ⟨down, exponent⟩ : ∃ down : ℕ, x.exponent = -down := ⟨x.exponent.natAbs, by omega⟩
      rw [exponent, zpow_neg, zpow_natCast, ← div_eq_mul_inv, div_eq_iff (pow_ne_zero _ two_ne_zero)] at same
      exact .inr ⟨down, by omega, exponent, by exact_mod_cast same⟩

/-- A float stands for an integer just if it is finite and its number is that integer. -/
theorem toInt?_eq_some_iff_rational {z : ℤ} : x.toInt? = some z ↔ x.isFinite = true ∧ x.rational = z := by
  rw [toInt?_eq_some_iff_magnitude, isFinite_iff]
  refine and_congr_right fun _ => ?_
  constructor
  · rintro ⟨magnitude, whole, rfl⟩
    rw [rational_eq_signed, wholeMagnitude?_eq_some_iff_abs.mp whole]
    push_cast
    rfl
  · intro same
    have size : |x.rational| = z.natAbs := by rw [same, Nat.cast_natAbs, Int.cast_abs]
    refine ⟨z.natAbs, wholeMagnitude?_eq_some_iff_abs.mpr size, ?_⟩
    have signed := rational_eq_signed x
    rw [same, ← Int.cast_abs] at signed
    rw [Int.natCast_natAbs]
    exact_mod_cast signed.symm

theorem number?_of_finite (finite : x.isFinite = true) : x.number? = some (.finite x.rational) := if_pos finite

theorem number?_eq_none_iff : x.number? = none ↔ x.isNaN = true := by
  have nan : x.isNaN = true ↔ ¬x.isFinite = true ∧ ¬x.fraction = 0 := by
    simp only [isNaN, isFinite, Bool.and_eq_true, beq_iff_eq, bne_iff_ne, ne_eq, not_not]
  rw [nan, number?]
  split
  next finite => simp [finite]
  next infinite => split <;> simp [*]

theorem number?_eq_finite_iff {value : ℚ} :
    x.number? = some (.finite value) ↔ x.isFinite = true ∧ x.rational = value := by
  unfold number?
  split
  next finite => simp [finite]
  next infinite => split <;> simp [infinite]

/-- An infinity has all its bits but the sign in common with the other one. -/
theorem number?_eq_infinite_iff {negative : Bool} :
    x.number? = some (.infinite negative) ↔ x.biased = 2047 ∧ x.fraction = 0 ∧ x.negative = negative := by
  unfold number?
  split
  next finite => simp [isFinite_iff.mp finite]
  next infinite =>
    rw [isFinite_iff, not_not] at infinite
    split
    next whole => simp [infinite, whole]
    next nan => simp [nan]

/-- Bits that stand for one number are the same bits, or both zero. -/
theorem number?_inj {number : Number} (first : x.number? = some number) (second : y.number? = some number) :
    x = y ∨ x.isZero = true ∧ y.isZero = true := by
  cases number with
  | infinite negative =>
    obtain ⟨exponent, fraction, sign⟩ := number?_eq_infinite_iff.mp first
    obtain ⟨other, same, signed⟩ := number?_eq_infinite_iff.mp second
    exact .inl (ext_fields (sign.trans signed.symm) (exponent.trans other.symm) (fraction.trans same.symm))
  | finite value =>
    obtain ⟨_, exact⟩ := number?_eq_finite_iff.mp first
    obtain ⟨_, same⟩ := number?_eq_finite_iff.mp second
    exact rational_inj.mp (exact.trans same.symm)

theorem equals_iff_bits :
    x.equals y = true ↔ x.isNaN = false ∧ y.isNaN = false ∧ (x = y ∨ x.isZero = true ∧ y.isZero = true) := by
  have same : x.bits = y.bits ↔ x = y := ⟨congrArg mk, congrArg bits⟩
  simp [equals, same, and_assoc]

/-- Equality compares the numbers that bits stand for. -/
theorem equals_iff : x.equals y = true ↔ ∃ number, x.number? = some number ∧ y.number? = some number := by
  rw [equals_iff_bits]
  constructor
  · rintro ⟨first, _, rfl | ⟨zero, other⟩⟩
    · obtain ⟨number, stands⟩ := Option.ne_none_iff_exists'.mp (mt number?_eq_none_iff.mp (Bool.not_eq_true _ ▸ first))
      exact ⟨number, stands, stands⟩
    · refine ⟨_, number?_of_finite (isFinite_of_isZero zero), ?_⟩
      rw [number?_of_finite (isFinite_of_isZero other), rational_inj.mpr (.inr ⟨zero, other⟩)]
  · rintro ⟨number, first, second⟩
    refine ⟨?_, ?_, number?_inj first second⟩
    · rw [← Bool.not_eq_true, ← number?_eq_none_iff, first]
      nofun
    · rw [← Bool.not_eq_true, ← number?_eq_none_iff, second]
      nofun

/-- A small natural number becomes the float that stands for it. -/
theorem toInt?_ofInt {n : ℕ} (small : n < 2 ^ 53) : (ofInt n).toInt? = some (n : ℤ) := by
  obtain rfl | positive := Nat.eq_zero_or_pos n
  · rw [toInt?_eq_some_iff_rational]
    exact ⟨by decide, by rw [rational_eq_zero_iff.mpr (by decide)]; rfl⟩
  · have spells := ofInt_spells positive small
    have top := log2_le small
    refine toInt?_eq_some_iff_magnitude.mpr ⟨?_, n, spells.wholeMagnitude? small, ?_⟩
    · rw [spells.biased]
      omega
    · rw [spells.positive, if_neg Bool.false_ne_true]

/-- A float stands for a small natural number just if it is equal to the float made from it. -/
theorem toInt?_eq_some_iff {n : ℕ} (small : n < 2 ^ 53) : x.toInt? = some (n : ℤ) ↔ x.equals (ofInt n) = true := by
  have stands := number?_eq_finite_iff.mpr (toInt?_eq_some_iff_rational.mp (toInt?_ofInt small))
  rw [equals_iff, toInt?_eq_some_iff_rational, ← number?_eq_finite_iff]
  constructor
  · intro same
    exact ⟨_, same, stands⟩
  · rintro ⟨number, same, other⟩
    cases stands.symm.trans other
    exact same

end RuleHost.Binary64
