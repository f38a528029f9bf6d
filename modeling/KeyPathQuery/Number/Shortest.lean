import KeyPathQuery.Number.Binary64

/-!
The shortest decimal that reads back as a given binary floating-point magnitude. A magnitude
owns the decimals that round to it: those up to half way to its two neighbours, the half-way
points included when its mantissa is even. For one digit, then two, and so on up to seventeen,
the two decimals with that many digits next to the magnitude are tried; of two that it owns the
nearer one is taken, and at equal distance the even one.
-/

set_option autoImplicit false
set_option relaxedAutoImplicit false

namespace KeyPathQuery

/-- The decimal `digits * 10 ^ exponent`. -/
structure Decimal where
  digits : Nat
  exponent : Int
deriving DecidableEq, Repr

namespace Decimal

/-- How many decimal digits a whole number has. -/
def digitCount (n : Nat) : Nat :=
  (Nat.toDigits 10 n).length

/-- The greatest `e` with `10 ^ e ≤ numerator / denominator`, for positive numbers. -/
def floorLog10 (numerator denominator : Nat) : Int :=
  if denominator ≤ numerator then digitCount (numerator / denominator) - 1
  else -(digitCount ((denominator + numerator - 1) / numerator - 1) : Int)

/-- Compares `left * 2 ^ exponent` with the decimal: whether it is at most as great. -/
def atLeastScaled (decimal : Decimal) (left : Nat) (exponent : Int) : Bool :=
  left * powerOfTwo exponent.toNat * powerOfTen (-decimal.exponent).toNat ≤
    decimal.digits * powerOfTen decimal.exponent.toNat * powerOfTwo (-exponent).toNat

/-- Compares the decimal with `right * 2 ^ exponent`: whether it is at most as great. -/
def atMostScaled (decimal : Decimal) (right : Nat) (exponent : Int) : Bool :=
  decimal.digits * powerOfTen decimal.exponent.toNat * powerOfTwo (-exponent).toNat ≤
    right * powerOfTwo exponent.toNat * powerOfTen (-decimal.exponent).toNat

/-- Whether a decimal rounds to a magnitude. In quarters of the last binary digit, the magnitude
reaches two up and two down, only one down from the least mantissa of an exponent that is not
the least; the ends belong to an even mantissa. -/
def roundsTo (decimal : Decimal) (x : Binary64) : Bool :=
  let quarters := 4 * x.mantissa
  let down := if x.mantissa = powerOfTwo 52 && x.exponent != Binary64.leastExponent then 1 else 2
  let exponent := x.exponent - 2
  if x.mantissa % 2 = 0 then
    atLeastScaled decimal (quarters - down) exponent && atMostScaled decimal (quarters + 2) exponent
  else
    !atMostScaled decimal (quarters - down) exponent &&
      !atLeastScaled decimal (quarters + 2) exponent

/-- The decimals next to a magnitude whose last digit counts `10 ^ exponent`, below or equal
first, the nearer one of the two that round to the magnitude. -/
def neighbour? (x : Binary64) (exponent : Int) : Option Decimal :=
  let numerator := x.numerator * powerOfTen (-exponent).toNat
  let denominator := x.denominator * powerOfTen exponent.toNat
  let below : Decimal := ⟨numerator / denominator, exponent⟩
  let above : Decimal := ⟨numerator / denominator + 1, exponent⟩
  let nearest : Decimal := ⟨Binary64.roundDiv numerator denominator, exponent⟩
  match roundsTo below x, roundsTo above x with
  | true, true => some nearest
  | true, false => some below
  | false, true => some above
  | false, false => none

/-- The decimal with the fewest digits that rounds to a positive magnitude. Seventeen digits
always suffice. -/
def shortest (x : Binary64) : Decimal :=
  let top := floorLog10 x.numerator x.denominator
  ((List.range 17).findSome? fun (count : Nat) ↦ neighbour? x (top - count)).getD ⟨0, 0⟩

end Decimal

end KeyPathQuery
