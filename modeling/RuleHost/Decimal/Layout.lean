import RuleHost.Decimal.Shortest

/-! How a number is laid out once its digits are known: where positional notation ends, and whether a
whole number keeps a point. -/

namespace RuleHost

/-- The decisions of one number format. -/
structure NumberLayout where
  /-- Whether a whole number is written with a trailing `.0`. -/
  wholePoint : Bool
  /-- The exponents of the leading digit that are written positionally. -/
  positional : Int → Bool

namespace NumberLayout

/-- Digits with a decimal point after the first `point` of them, padded with zeros on either side. -/
def placePoint (layout : NumberLayout) (digits : List Char) (point : Int) : List Char :=
  let zeros := fun (count : Int) => List.replicate count.toNat '0'
  if point ≤ 0 then '0' :: '.' :: (zeros (-point) ++ digits)
  else if (digits.length : Int) ≤ point then
    digits ++ zeros (point - digits.length) ++ (if layout.wholePoint then ['.', '0'] else [])
  else digits.take point.toNat ++ '.' :: digits.drop point.toNat

/-- One digit, the others behind a point, and the exponent of the first. -/
def placeExponent (digits : List Char) (exponent : Int) : List Char :=
  let rest := digits.drop 1
  digits.take 1 ++ (if rest.isEmpty then [] else '.' :: rest) ++ 'e' :: (toString exponent).toList

def layDecimal (layout : NumberLayout) (d : Decimal) : List Char :=
  let digits := Nat.toDigits 10 d.digits
  let point := (digits.length : Int) + d.exponent
  if layout.positional (point - 1) then layout.placePoint digits point
  else placeExponent digits (point - 1)

def layMagnitude (layout : NumberLayout) (x : Binary64) : List Char :=
  if !x.isFinite then ['i', 'n', 'f']
  else if x.isZero then if layout.wholePoint then ['0', '.', '0'] else ['0']
  else layout.layDecimal (Decimal.shortest x)

/-- The text of a number. The sign of zero is kept; NaN has none. -/
def render (layout : NumberLayout) (x : Binary64) : String :=
  if x.isNaN then "NaN"
  else String.ofList (if x.negative then '-' :: layout.layMagnitude x else layout.layMagnitude x)

end NumberLayout
end RuleHost
