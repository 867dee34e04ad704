/-! Binary64 numbers, held as their 64 interchange bits. A finite number is its significand times a
power of two, negated if the sign bit is set, and every operation here computes on those exact
integers. -/

namespace RuleHost

/-- A binary64 number. Two numbers are the same value of this type when their bits are the same; the
numeric comparison is `Binary64.equals`. -/
structure Binary64 where
  bits : UInt64
deriving DecidableEq

namespace Binary64

def negative (x : Binary64) : Bool := decide (0x8000000000000000 ≤ x.bits.toNat)

/-- The biased exponent, eleven bits wide. -/
def biased (x : Binary64) : Nat := x.bits.toNat / 0x10000000000000 % 0x800

/-- The fraction field, fifty-two bits wide. -/
def fraction (x : Binary64) : Nat := x.bits.toNat % 0x10000000000000

def isFinite (x : Binary64) : Bool := x.biased != 2047

def isNaN (x : Binary64) : Bool := x.biased == 2047 && x.fraction != 0

def isZero (x : Binary64) : Bool := x.biased == 0 && x.fraction == 0

/-- The integer that a finite number scales: the fraction, with its leading bit unless the number is
subnormal. -/
def significand (x : Binary64) : Nat :=
  if x.biased = 0 then x.fraction else 0x10000000000000 + x.fraction

/-- The power of two by which a finite number scales its significand. -/
def exponent (x : Binary64) : Int := max x.biased 1 - 1075

/-- The magnitude of a finite number, if it is whole. -/
def wholeMagnitude? (x : Binary64) : Option Nat :=
  let scale := Nat.pow 2 x.exponent.natAbs
  if 0 ≤ x.exponent then some (x.significand * scale)
  else if x.significand % scale = 0 then some (x.significand / scale)
  else none

/-- The integer that a finite whole number stands for. Both zeros stand for 0. -/
def toInt? (x : Binary64) : Option Int :=
  if x.isFinite then
    x.wholeMagnitude?.map fun magnitude => if x.negative then -magnitude else magnitude
  else none

/-- Numeric equality: NaN equals nothing, and the two zeros are equal. -/
def equals (x y : Binary64) : Bool :=
  !x.isNaN && !y.isNaN && (x.bits == y.bits || (x.isZero && y.isZero))

/-- Divides by a power of two, to the nearest integer and to the even one of two equally near. -/
def roundShift (n shift : Nat) : Nat :=
  let unit := Nat.pow 2 shift
  let quotient := n / unit
  let twice := 2 * (n % unit)
  if twice > unit || (twice == unit && quotient % 2 == 1) then quotient + 1 else quotient

/-- The bits of the number nearest to a positive integer below `2 ^ 1023`. The significand keeps its
leading bit, so one is taken from the exponent field, and a carry out of rounding moves the number to
the next power of two by itself. -/
def magnitudeBits (n : Nat) : Nat :=
  let top := n.log2
  let significand := if top ≤ 52 then n * Nat.pow 2 (52 - top) else roundShift n (top - 52)
  (top + 1022) * 0x10000000000000 + significand

/-- The number nearest to an integer; of two equally near, the one with the even significand. -/
def ofInt (n : Int) : Binary64 :=
  let magnitude := if n.natAbs = 0 then 0 else magnitudeBits n.natAbs
  ⟨UInt64.ofNat (if n < 0 then 0x8000000000000000 + magnitude else magnitude)⟩

end Binary64
end RuleHost
