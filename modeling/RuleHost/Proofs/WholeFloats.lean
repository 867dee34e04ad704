import Mathlib.Data.Nat.Log
import Mathlib.Tactic.Ring
import RuleHost.Binary64

/-! The fields of a float, when its magnitude is whole, and the floats that are made from small natural numbers. -/

namespace RuleHost.Binary64

variable {x y : Binary64} {n : Nat}

theorem fraction_lt (x : Binary64) : x.fraction < 2 ^ 52 := Nat.mod_lt _ (by decide)

theorem bits_eq_fields (x : Binary64) :
    x.bits.toNat = (if x.negative then 2 ^ 63 else 0) + x.biased * 2 ^ 52 + x.fraction := by
  have small := x.bits.toNat_lt
  unfold negative biased fraction
  split
  next negative =>
    have least := of_decide_eq_true negative
    omega
  next positive =>
    have most := of_decide_eq_false (Bool.eq_false_iff.mpr positive)
    omega

/-- A number is its sign, its exponent and its fraction. -/
theorem ext_fields (signs : x.negative = y.negative) (exponents : x.biased = y.biased)
    (fractions : x.fraction = y.fraction) : x = y := by
  have same : x.bits.toNat = y.bits.toNat := by
    rw [bits_eq_fields x, bits_eq_fields y, signs, exponents, fractions]
  cases x; cases y
  exact congrArg mk (UInt64.toNat_inj.mp same)

theorem isZero_iff : x.isZero = true ↔ x.biased = 0 ∧ x.fraction = 0 := by
  simp [isZero]

theorem not_isNaN (finite : x.biased ≠ 2047) : x.isNaN = false := by
  simp [isNaN, finite]

theorem significand_eq_zero_iff : x.significand = 0 ↔ x.isZero = true := by
  rw [isZero_iff, significand]
  split
  next subnormal => simp [subnormal]
  next normal => simp [normal]

theorem significand_of_normal (normal : x.biased ≠ 0) : x.significand = 2 ^ 52 + x.fraction := if_neg normal

theorem wholeMagnitude?_eq_some_iff : x.wholeMagnitude? = some n ↔
    (∃ up : Nat, x.exponent = up ∧ n = x.significand * 2 ^ up) ∨
      ∃ down : Nat, 0 < down ∧ x.exponent = -down ∧ x.significand = n * 2 ^ down := by
  unfold wholeMagnitude?
  simp only [Nat.pow_eq]
  split
  next raised =>
    obtain ⟨up, exponent⟩ := Int.eq_ofNat_of_zero_le raised
    rw [exponent, Int.natAbs_natCast, Option.some.injEq]
    constructor
    · rintro rfl
      exact .inl ⟨up, rfl, rfl⟩
    · rintro (⟨other, same, rfl⟩ | ⟨down, some, same, _⟩)
      · rw [Int.ofNat_inj.mp same]
      · omega
  next lowered =>
    obtain ⟨down, some, exponent⟩ : ∃ down : Nat, 0 < down ∧ x.exponent = -down :=
      ⟨x.exponent.natAbs, by omega, by omega⟩
    rw [exponent, Int.natAbs_neg, Int.natAbs_natCast]
    split
    next whole =>
      rw [Option.some.injEq]
      constructor
      · rintro rfl
        exact .inr ⟨down, some, rfl, (Nat.div_mul_cancel (Nat.dvd_of_mod_eq_zero whole)).symm⟩
      · rintro (⟨up, same, _⟩ | ⟨other, _, same, scaled⟩)
        · omega
        · rw [show other = down by omega] at scaled
          rw [scaled, Nat.mul_div_cancel _ (Nat.two_pow_pos down)]
    next broken =>
      refine ⟨nofun, ?_⟩
      rintro (⟨up, same, _⟩ | ⟨other, _, same, scaled⟩)
      · omega
      · rw [show other = down by omega] at scaled
        exact absurd (by rw [scaled, Nat.mul_mod_left]) broken

theorem toInt?_eq_some_iff_magnitude {z : Int} : x.toInt? = some z ↔ x.biased ≠ 2047 ∧
    ∃ magnitude, x.wholeMagnitude? = some magnitude ∧ (if x.negative then -magnitude else magnitude : Int) = z := by
  unfold toInt? isFinite
  by_cases infinite : x.biased = 2047
  · simp [infinite]
  · cases x.wholeMagnitude? <;> simp [infinite]

/-- A positive natural number is written with the exponent that brings its leading bit to its place. -/
structure Spells (x : Binary64) (n : Nat) : Prop where
  positive : x.negative = false
  biased : x.biased = n.log2 + 1023
  fraction : 2 ^ 52 + x.fraction = n * 2 ^ (52 - n.log2)

theorem log2_le (small : n < 2 ^ 53) : n.log2 ≤ 52 := by
  by_cases zero : n = 0
  · rw [zero, Nat.log2_zero]
    exact Nat.zero_le 52
  · exact Nat.lt_succ_iff.mp ((Nat.log2_lt zero).mpr small)

/-- The leading bit in its place. -/
theorem scaled_bounds (positive : 0 < n) (small : n < 2 ^ 53) :
    2 ^ 52 ≤ n * 2 ^ (52 - n.log2) ∧ n * 2 ^ (52 - n.log2) < 2 ^ 53 := by
  have top := log2_le small
  have least : 2 ^ n.log2 ≤ n := Nat.log2_self_le positive.ne'
  have most : n < 2 ^ (n.log2 + 1) := Nat.lt_log2_self
  constructor
  · calc 2 ^ 52 = 2 ^ n.log2 * 2 ^ (52 - n.log2) := by rw [← Nat.pow_add, Nat.add_sub_cancel' top]
      _ ≤ n * 2 ^ (52 - n.log2) := Nat.mul_le_mul_right _ least
  · calc n * 2 ^ (52 - n.log2) < 2 ^ (n.log2 + 1) * 2 ^ (52 - n.log2) :=
        Nat.mul_lt_mul_of_pos_right most (Nat.two_pow_pos _)
      _ = 2 ^ 53 := by rw [← Nat.pow_add]; congr 1; omega

theorem ofInt_spells (positive : 0 < n) (small : n < 2 ^ 53) : (ofInt n).Spells n := by
  have top := log2_le small
  obtain ⟨least, most⟩ := scaled_bounds positive small
  have bits : (ofInt n).bits.toNat = (n.log2 + 1022) * 2 ^ 52 + n * 2 ^ (52 - n.log2) := by
    have unsigned : ¬(n : Int) < 0 := by omega
    simp only [ofInt, magnitudeBits, Int.natAbs_natCast, positive.ne', unsigned, top, if_true, if_false,
      Nat.pow_eq]
    refine UInt64.toNat_ofNat_of_lt' ?_
    change _ < 2 ^ 64
    omega
  refine ⟨decide_eq_false ?_, ?_, ?_⟩
  · rw [bits]; omega
  · rw [biased, bits]; omega
  · rw [fraction, bits]; omega

theorem Spells.wholeMagnitude? (spells : x.Spells n) (small : n < 2 ^ 53) : x.wholeMagnitude? = some n := by
  have top := log2_le small
  have normal : x.significand = n * 2 ^ (52 - n.log2) := by
    rw [significand_of_normal (by rw [spells.biased]; omega), spells.fraction]
  have exponent : x.exponent = -(52 - n.log2 : Nat) := by
    rw [Binary64.exponent, spells.biased]
    omega
  rw [wholeMagnitude?_eq_some_iff]
  by_cases highest : 52 - n.log2 = 0
  · rw [highest] at normal exponent
    exact .inl ⟨0, exponent, by rw [normal, Nat.pow_zero, Nat.mul_one, Nat.mul_one]⟩
  · exact .inr ⟨_, Nat.pos_of_ne_zero highest, exponent, normal⟩

end RuleHost.Binary64
