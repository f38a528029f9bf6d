import KeyPathQuery.Number.Power

/-!
Magnitudes of the 64-bit binary floating-point format: a whole number of at most 53 binary
digits, times a power of two between 2 ^ -1074 and 2 ^ 971. A ratio of whole numbers is rounded
to the nearest magnitude, a tie to the even one; a ratio that rounds past the greatest magnitude
has none. Products and quotients are the rounded exact results.
-/

set_option autoImplicit false
set_option relaxedAutoImplicit false

namespace KeyPathQuery

/-- The magnitude `mantissa * 2 ^ exponent`. -/
structure Binary64 where
  mantissa : Nat
  exponent : Int
deriving DecidableEq, Repr

namespace Binary64

/-- The quotient rounded to the nearest whole number, a tie to the even one. -/
def roundDiv (numerator denominator : Nat) : Nat :=
  let quotient := numerator / denominator
  let twice := 2 * (numerator % denominator)
  if twice < denominator then quotient
  else if denominator < twice then quotient + 1
  else if quotient % 2 = 0 then quotient
  else quotient + 1

/-- The greatest `e` with `2 ^ e ≤ numerator / denominator`, for positive numbers. -/
def floorLog2 (numerator denominator : Nat) : Int :=
  let guess : Int := numerator.log2 - denominator.log2
  if denominator * powerOfTwo guess.toNat ≤ numerator * powerOfTwo (-guess).toNat then guess
  else guess - 1

/-- The least exponent of a magnitude. -/
def leastExponent : Int := -1074

/-- The greatest exponent of a magnitude. -/
def greatestExponent : Int := 971

/-- The magnitude zero. -/
def zero : Binary64 := ⟨0, leastExponent⟩

/-- The magnitude nearest to a ratio, unless the ratio lies past the greatest one. -/
def ofRatio? (numerator denominator : Nat) : Option Binary64 :=
  if numerator = 0 then some zero
  else
    let exponent := max (floorLog2 numerator denominator - 52) leastExponent
    let mantissa :=
      roundDiv (numerator * powerOfTwo (-exponent).toNat)
        (denominator * powerOfTwo exponent.toNat)
    let rounded : Binary64 :=
      if mantissa = powerOfTwo 53 then ⟨powerOfTwo 52, exponent + 1⟩ else ⟨mantissa, exponent⟩
    if greatestExponent < rounded.exponent then none else some rounded

/-- The numerator of a magnitude as a ratio of whole numbers. -/
def numerator (x : Binary64) : Nat :=
  x.mantissa * powerOfTwo x.exponent.toNat

/-- The denominator of a magnitude as a ratio of whole numbers. -/
def denominator (x : Binary64) : Nat :=
  powerOfTwo (-x.exponent).toNat

/-- The rounded product, unless it lies past the greatest magnitude. -/
def mul? (x y : Binary64) : Option Binary64 :=
  ofRatio? (x.numerator * y.numerator) (x.denominator * y.denominator)

/-- The rounded quotient by a magnitude that is not zero. -/
def div? (x y : Binary64) : Option Binary64 :=
  ofRatio? (x.numerator * y.denominator) (x.denominator * y.numerator)

end Binary64

end KeyPathQuery
