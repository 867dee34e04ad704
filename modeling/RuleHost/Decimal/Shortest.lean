import RuleHost.Binary64

/-! The shortest decimal that reads back to a given binary64 number. The reals that round to the
number form a window around it; the decimal grids are tried from coarse to fine, and on each grid only
the two neighbours of the number can lie in the window. -/

namespace RuleHost

/-- The decimal number `digits * 10 ^ exponent`. -/
structure Decimal where
  digits : Nat
  exponent : Int
deriving DecidableEq

namespace Decimal

/-- The reals that round to one positive number, over a common denominator. The ends belong to the
window when the number's significand is even. -/
structure Window where
  low : Nat
  centre : Nat
  high : Nat
  unit : Nat
  closed : Bool

namespace Window

/-- The window reaches halfway to each neighbour, in quarters of the gap above. Just above a power of
two the neighbour below is only half as far away. -/
def ofBinary64 (x : Binary64) : Window :=
  let quarter := x.exponent - 2
  let scale := Nat.pow 2 quarter.toNat
  let narrow := x.fraction = 0 ∧ 1 < x.biased
  { low := (if narrow then 4 * x.significand - 1 else 4 * x.significand - 2) * scale
    centre := 4 * x.significand * scale
    high := (4 * x.significand + 2) * scale
    unit := Nat.pow 2 (-quarter).toNat
    closed := x.significand % 2 == 0 }

/-- The factor that brings the window's numerators onto the grid of multiples of `10 ^ place`. -/
def gridScale (place : Int) : Nat := Nat.pow 10 (-place).toNat

/-- The distance of two grid points, in the scaled numerators. -/
def gridStep (w : Window) (place : Int) : Nat := w.unit * Nat.pow 10 place.toNat

def contains (w : Window) (place : Int) (multiple : Nat) : Bool :=
  let point := multiple * w.gridStep place
  let low := w.low * gridScale place
  let high := w.high * gridScale place
  if w.closed then low ≤ point && point ≤ high else low < point && point < high

/-- The grid point in the window that is nearest to the number, the upper one of two equally near. -/
def nearest? (w : Window) (place : Int) : Option Nat :=
  let step := w.gridStep place
  let centre := w.centre * gridScale place
  let below := centre / step
  match w.contains place below, w.contains place (below + 1) with
  | false, false => none
  | true, false => some below
  | false, true => some (below + 1)
  | true, true => some (if 2 * centre < (2 * below + 1) * step then below else below + 1)

/-- The number of decimal places before the point, counted from the first significant digit: the least
`k` with the number below `10 ^ k`. Every positive number exceeds `10 ^ (-400)`, so scaling it by
`10 ^ 400` leaves its first digits in a whole number. -/
def magnitude (w : Window) : Int :=
  (Nat.toDigits 10 (w.centre * Nat.pow 10 400 / w.unit)).length - 400

/-- The exact value of the number, whose denominator is a power of two. -/
def exact (w : Window) : Decimal :=
  let halvings := w.unit.log2
  ⟨w.centre * Nat.pow 5 halvings, -halvings⟩

end Window

/-- Moves the trailing zeros of the digits into the exponent. -/
def strip (digits : Nat) (exponent : Int) : Decimal :=
  if h : digits ≠ 0 ∧ digits % 10 = 0 then strip (digits / 10) (exponent + 1)
  else ⟨digits, exponent⟩
termination_by digits
decreasing_by omega

/-- The decimal with the fewest digits in the window, and the one nearest to the number among those.
Seventeen digits tell any two binary64 numbers apart. -/
def ofWindow (w : Window) : Decimal :=
  let places := (List.range 17).map fun (count : Nat) => w.magnitude - (count : Int) - 1
  match places.findSome? fun place => (w.nearest? place).map fun digits => (digits, place) with
  | some (digits, place) => strip digits place
  | none => strip w.exact.digits w.exact.exponent

/-- The shortest decimal that rounds to the magnitude of a finite number other than zero. -/
def shortest (x : Binary64) : Decimal := ofWindow (Window.ofBinary64 x)

end Decimal
end RuleHost
