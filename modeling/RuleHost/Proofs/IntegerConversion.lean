import Mathlib.Data.Rat.Floor
import Mathlib.Tactic.NormNum
import RuleHost.Arguments
import RuleHost.Proofs.ExactNumbers

/-! Which values are read as integers: the integers, and the floats whose number is a whole one of 64 bits. The
conversion of a float drops fractions and stops at the ends of the range, but where it is made it does neither. -/

namespace RuleHost

namespace Binary64

/-- The whole number next to a number on the side of 0. -/
def towardZero (number : ℚ) : ℤ := if 0 ≤ number then ⌊number⌋ else ⌈number⌉

/-- The conversion to 64 bits that always gives something: it drops the fraction, stops at the ends of the range
and takes NaN to 0. -/
def saturated (x : Binary64) : Int64 :=
  if x.isNaN then 0
  else if x.isFinite then Int64.ofInt (max (-2 ^ 63) (min (2 ^ 63 - 1) (towardZero x.rational)))
  else if x.negative then Int64.minValue
  else Int64.maxValue

/-- A finite whole number from `-2 ^ 63` up to, and not including, `2 ^ 63`. -/
structure Fits (x : Binary64) : Prop where
  finite : x.isFinite = true
  whole : ∃ z : ℤ, x.rational = z
  least : -2 ^ 63 ≤ x.rational
  most : x.rational < 2 ^ 63

/-- What keeps a float from being an integer of 64 bits. -/
inductive Unfit (x : Binary64) : Prop where
  | unbounded (infinite : x.isFinite = false)
  | broken (fraction : ∀ z : ℤ, x.rational ≠ z)
  | subnormal (smallest : x.biased = 0) (nonzero : x.fraction ≠ 0)
  | above (large : 2 ^ 63 ≤ x.rational)
  | below (small : x.rational < -2 ^ 63)

end Binary64

inductive Value.Integral : Value → Int64 → Prop where
  | int (n : Int64) : Integral (.int n) n
  | float {x : Binary64} {n : Int64} (finite : x.isFinite = true) (exact : x.rational = n.toInt) :
      Integral (.float x) n

namespace Binary64

variable {x : Binary64} {n : Int64}

theorem towardZero_intCast (z : ℤ) : towardZero z = z := by
  unfold towardZero
  split
  · exact Int.floor_intCast z
  · exact Int.ceil_intCast z

/-- A number that an integer of 64 bits is exactly loses nothing. -/
theorem saturated_of_exact (finite : x.isFinite = true) (exact : x.rational = n.toInt) : x.saturated = n := by
  have least := n.le_toInt
  have most := n.toInt_lt
  have inside : max (-2 ^ 63) (min (2 ^ 63 - 1) n.toInt) = n.toInt := by omega
  rw [saturated, not_isNaN (isFinite_iff.mp finite), if_neg Bool.false_ne_true, if_pos finite, exact,
    towardZero_intCast, inside, Int64.ofInt_toInt]

theorem fits_iff : x.Fits ↔ ∃ n : Int64, x.isFinite = true ∧ x.rational = n.toInt := by
  constructor
  · rintro ⟨finite, ⟨z, exact⟩, least, most⟩
    rw [exact] at least most
    have same : (Int64.ofInt z).toInt = z :=
      Int64.toInt_ofInt_of_le (by exact_mod_cast least) (by exact_mod_cast most)
    exact ⟨.ofInt z, finite, by rw [same, exact]⟩
  · rintro ⟨n, finite, exact⟩
    refine ⟨finite, ⟨n.toInt, exact⟩, ?_, ?_⟩
    · rw [exact]
      exact_mod_cast n.le_toInt
    · rw [exact]
      exact_mod_cast n.toInt_lt

/-- A subnormal number is less than 1. -/
theorem subnormal_broken (subnormal : x.biased = 0) (nonzero : x.fraction ≠ 0) (z : ℤ) : x.rational ≠ z := by
  intro exact
  have whole : x.wholeMagnitude? = some z.natAbs := by
    rw [wholeMagnitude?_eq_some_iff_abs, exact, Nat.cast_natAbs, Int.cast_abs]
  have significand : x.significand = x.fraction := if_pos subnormal
  obtain ⟨up, raised, _⟩ | ⟨down, _, lowered, scaled⟩ := wholeMagnitude?_eq_some_iff.mp whole
  · rw [exponent, subnormal] at raised
    omega
  · rw [exponent, subnormal] at lowered
    have far : 2 ^ 52 ≤ 2 ^ down := Nat.pow_le_pow_right Nat.two_pos (by omega)
    have short := x.fraction_lt
    rw [← significand, scaled] at nonzero short
    have least : 2 ^ down ≤ z.natAbs * 2 ^ down :=
      Nat.le_mul_of_pos_left _ (Nat.pos_of_ne_zero (left_ne_zero_of_mul nonzero))
    omega

/-- Either a float fits or there is a reason why it does not. -/
theorem unfit_iff : x.Unfit ↔ ¬x.Fits := by
  constructor
  · rintro (infinite | fraction | ⟨smallest, nonzero⟩ | large | small) fits
    · exact Bool.false_ne_true (infinite.symm.trans fits.finite)
    · obtain ⟨z, exact⟩ := fits.whole
      exact fraction z exact
    · obtain ⟨z, exact⟩ := fits.whole
      exact subnormal_broken smallest nonzero z exact
    · exact absurd fits.most (not_lt.mpr large)
    · exact absurd fits.least (not_le.mpr small)
  · intro misfit
    by_contra none
    refine misfit ⟨?_, ?_, ?_, ?_⟩
    · exact Bool.not_eq_false _ ▸ mt Unfit.unbounded none
    · by_contra broken
      exact none (.broken fun z exact => broken ⟨z, exact⟩)
    · exact not_lt.mp fun small => none (.below small)
    · exact not_le.mp fun large => none (.above large)

end Binary64

namespace Value

variable {x : Binary64} {value : Value} {n : Int64}

theorem toInt?_float_eq_some_iff : (Value.float x).toInt? = some n ↔ x.toInt? = some n.toInt := by
  simp only [toInt?, Option.map_eq_some_iff, Option.filter_eq_some_iff, fitsInt64, Bool.and_eq_true, decide_eq_true_eq]
  constructor
  · rintro ⟨z, ⟨stands, least, most⟩, rfl⟩
    rw [stands, Int64.toInt_ofInt_of_le least most]
  · intro stands
    exact ⟨n.toInt, ⟨stands, n.le_toInt, n.toInt_lt⟩, Int64.ofInt_toInt n⟩

theorem toInt?_float_exact : (Value.float x).toInt? = some n ↔ x.isFinite = true ∧ x.rational = n.toInt :=
  toInt?_float_eq_some_iff.trans Binary64.toInt?_eq_some_iff_rational

theorem toInt?_eq_some_iff_integral : value.toInt? = some n ↔ value.Integral n := by
  cases value with
  | int number =>
    constructor
    · rintro ⟨⟩
      exact .int _
    · rintro ⟨⟩
      rfl
  | float number =>
    rw [toInt?_float_exact]
    constructor
    · rintro ⟨finite, exact⟩
      exact .float finite exact
    · rintro ⟨⟩
      exact ⟨‹_›, ‹_›⟩
  | undefined | null | bool | string | list | function => exact ⟨nofun, nofun⟩

end Value

namespace Arguments

variable {name : String} {arguments : List Value} {index : Nat} {value : Value} {n : Int64}

theorem integer_of_given (given : arguments[index]? = some value) : integer name arguments index =
    value.toInt?.elim (.error (.typeMismatch name index .int value.kind)) .ok := by
  simp only [integer, viewed, required, given, bind, Except.bind]
  cases value.toInt? <;> rfl

theorem integer_of_missing (missing : arguments[index]? = none) :
    integer name arguments index = .error (.arity name (index + 1) arguments.length) := by
  simp only [integer, viewed, required, missing, bind, Except.bind]

theorem integer_eq_ok_iff :
    integer name arguments index = .ok n ↔ ∃ value, arguments[index]? = some value ∧ value.Integral n := by
  cases given : arguments[index]? with
  | none => simp [integer_of_missing given]
  | some value =>
    rw [integer_of_given given]
    cases read : value.toInt? with
    | none => simp [← Value.toInt?_eq_some_iff_integral, read]
    | some m => simp [← Value.toInt?_eq_some_iff_integral, read]

theorem integer_eq_mismatch (given : arguments[index]? = some value) (other : ∀ n, ¬value.Integral n) :
    integer name arguments index = .error (.typeMismatch name index .int value.kind) := by
  have unread : value.toInt? = none :=
    Option.eq_none_iff_forall_ne_some.mpr fun n => mt Value.toInt?_eq_some_iff_integral.mp (other n)
  rw [integer_of_given given, unread, Option.elim_none]

end Arguments

namespace Value

/-- A float is read as an integer just if it is exactly that integer, and then the conversion that cannot fail gives
it as it is. An argument is an integer under the same condition, and a mismatch otherwise. -/
theorem integers_exact (x : Binary64) (name : String) (arguments : List Value) (index : Nat) :
    (∀ n : Int64, (Value.float x).toInt? = some n ↔ x.isFinite = true ∧ x.rational = n.toInt) ∧
      (∀ n : Int64, (Value.float x).toInt? = some n ↔ x.Fits ∧ x.saturated = n) ∧
      ((Value.float x).toInt? = none ↔ x.Unfit) ∧
      (x.isZero = true → (Value.float x).toInt? = some 0) ∧
      (x.isFinite = true → x.rational = -2 ^ 63 → (Value.float x).toInt? = some Int64.minValue) ∧
      (∀ n : Int64, Arguments.integer name arguments index = .ok n ↔
        ∃ value, arguments[index]? = some value ∧ value.Integral n) ∧
      (∀ value, arguments[index]? = some value → (∀ n, ¬value.Integral n) →
        Arguments.integer name arguments index = .error (.typeMismatch name index .int value.kind)) ∧
      (arguments[index]? = none →
        Arguments.integer name arguments index = .error (.arity name (index + 1) arguments.length)) := by
  have exact (n : Int64) := toInt?_float_exact (x := x) (n := n)
  refine ⟨exact, fun n => ?_, ?_, fun zero => ?_, fun finite least => ?_, fun n => Arguments.integer_eq_ok_iff,
    fun value => Arguments.integer_eq_mismatch, Arguments.integer_of_missing⟩
  · constructor
    · intro read
      obtain ⟨finite, same⟩ := (exact n).mp read
      exact ⟨Binary64.fits_iff.mpr ⟨n, finite, same⟩, Binary64.saturated_of_exact finite same⟩
    · rintro ⟨fits, rfl⟩
      obtain ⟨n, finite, same⟩ := Binary64.fits_iff.mp fits
      rw [Binary64.saturated_of_exact finite same]
      exact (exact n).mpr ⟨finite, same⟩
  · rw [Binary64.unfit_iff, Binary64.fits_iff, Option.eq_none_iff_forall_ne_some]
    simp only [ne_eq, exact, not_exists]
  · exact (exact 0).mpr ⟨Binary64.isFinite_of_isZero zero, by rw [Binary64.rational_eq_zero_iff.mpr zero]; rfl⟩
  · refine (exact _).mpr ⟨finite, ?_⟩
    rw [least]
    rfl

/-- The greatest float below `2 ^ 63` and the least of all integers are read, and `2 ^ 63` is not. -/
theorem integers_exact_edges :
    (Value.float ⟨0x43DFFFFFFFFFFFFF⟩).toInt? = some 9223372036854774784 ∧
      (Value.float ⟨0xC3E0000000000000⟩).toInt? = some Int64.minValue ∧
      (Value.float ⟨0x8000000000000000⟩).toInt? = some 0 ∧
      Arguments.integer "f" [.null, .float ⟨0x43E0000000000000⟩] 1 = .error (.typeMismatch "f" 1 .int .float) ∧
      Arguments.integer "f" [.null] 1 = .error (.arity "f" 2 1) := by
  have rational {x : Binary64} {significand : ℕ} {exponent : ℤ} (scale : x.significand = significand)
      (power : x.exponent = exponent) : x.rational = (if x.negative then -1 else 1) * (significand * 2 ^ exponent) := by
    rw [x.rational_eq, scale, power]
  have below : Binary64.rational ⟨0x43DFFFFFFFFFFFFF⟩ = 9223372036854774784 := by
    rw [rational (by decide : _ = 9007199254740991) (by decide : _ = (10 : ℤ)), if_neg (by decide)]
    norm_num
  have least : Binary64.rational ⟨0xC3E0000000000000⟩ = -2 ^ 63 := by
    rw [rational (by decide : _ = 4503599627370496) (by decide : _ = (11 : ℤ)), if_pos (by decide)]
    norm_num
  have above : Binary64.rational ⟨0x43E0000000000000⟩ = 2 ^ 63 := by
    rw [rational (by decide : _ = 4503599627370496) (by decide : _ = (11 : ℤ)), if_neg (by decide)]
    norm_num
  have outside (n : Int64) : ¬(Value.float ⟨0x43E0000000000000⟩).Integral n := by
    rintro ⟨⟩
    rename_i exact
    rw [above] at exact
    have most := n.toInt_lt
    exact absurd (by exact_mod_cast exact) most.ne'
  have number := integers_exact ⟨0x43E0000000000000⟩ "f" [.null, .float ⟨0x43E0000000000000⟩] 1
  refine ⟨((integers_exact _ "f" [] 0).1 _).mpr ⟨by decide, ?_⟩, (integers_exact _ "f" [] 0).2.2.2.2.1 (by decide) least,
    (integers_exact _ "f" [] 0).2.2.2.1 (by decide), ?_, ?_⟩
  · rw [below]
    rfl
  · exact number.2.2.2.2.2.2.1 _ rfl outside
  · exact (integers_exact ⟨0⟩ "f" [.null] 1).2.2.2.2.2.2.2 rfl

end Value

end RuleHost
