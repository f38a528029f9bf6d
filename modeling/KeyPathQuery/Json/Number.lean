import KeyPathQuery.Number.Shortest
import KeyPathQuery.Text

/-!
The numbers of a JSON value: whole numbers, and floating-point numbers. A number keeps which of
the two it was read as, so `1` and `1.0` stay different and are written as they came.

A floating-point number is written with the fewest digits that read back. Its notation is fixed
by one record, `floatLayout`: positional between 1e-5 and 1e16 and always with a fraction, else
scientific with the sign of the exponent.
-/

set_option autoImplicit false
set_option relaxedAutoImplicit false

namespace KeyPathQuery.Json

/-- A number of a JSON value. -/
inductive Number where
  | integer (value : Int)
  | float (negative : Bool) (magnitude : Binary64)
deriving DecidableEq, Repr

/-- How floating-point numbers are laid out: between which positions of the decimal point,
counted from the first digit, positional notation is used, and what stands between digits and
exponent otherwise. -/
structure FloatLayout where
  leastPoint : Int
  greatestPoint : Int
  wholeSuffix : Text
  positiveExponent : Text
  negativeExponent : Text

/-- Positional notation with the point from four places before the first digit to sixteen after
it, a whole number with `.0`, and exponents with their sign. -/
def floatLayout : FloatLayout where
  leastPoint := -4
  greatestPoint := 16
  wholeSuffix := ".0".toList
  positiveExponent := "e+".toList
  negativeExponent := "e-".toList

/-- The decimal digits of a whole number. -/
def digits (n : Nat) : Text :=
  Nat.toDigits 10 n

/-- A whole number with its sign. -/
def integerText (value : Int) : Text :=
  if value < 0 then '-' :: digits value.natAbs else digits value.natAbs

/-- Digits with the decimal point at a position counted from the first digit. -/
def pointed (layout : FloatLayout) (significant : Text) (point : Int) : Text :=
  let count : Int := significant.length
  if count ≤ point ∧ point ≤ layout.greatestPoint then
    significant ++ List.replicate (point - count).toNat '0' ++ layout.wholeSuffix
  else if 0 < point ∧ point ≤ layout.greatestPoint then
    significant.take point.toNat ++ ['.'] ++ significant.drop point.toNat
  else if layout.leastPoint ≤ point ∧ point ≤ 0 then
    "0.".toList ++ List.replicate (-point).toNat '0' ++ significant
  else
    let fraction := if significant.length ≤ 1 then [] else '.' :: significant.drop 1
    let exponent := point - 1
    significant.take 1 ++ fraction ++
      (if exponent < 0 then layout.negativeExponent else layout.positiveExponent) ++
      digits exponent.natAbs

/-- The text of a floating-point magnitude. -/
def magnitudeText (layout : FloatLayout) (magnitude : Binary64) : Text :=
  if magnitude.mantissa = 0 then '0' :: layout.wholeSuffix
  else
    let decimal := Decimal.shortest magnitude
    let written := digits decimal.digits
    let significant := (written.reverse.dropWhile (· == '0')).reverse
    pointed layout significant (written.length + decimal.exponent)

/-- The text of a number. -/
def Number.text : Number → Text
  | .integer value => integerText value
  | .float negative magnitude =>
    if negative then '-' :: magnitudeText floatLayout magnitude
    else magnitudeText floatLayout magnitude

end KeyPathQuery.Json
