/-!
The powers of two and of ten that number formats are made of.
-/

set_option autoImplicit false
set_option relaxedAutoImplicit false

namespace KeyPathQuery

/-- A power of two. -/
def powerOfTwo (exponent : Nat) : Nat :=
  Nat.pow 2 exponent

/-- A power of ten. -/
def powerOfTen (exponent : Nat) : Nat :=
  Nat.pow 10 exponent

theorem powerOfTwo_pos (exponent : Nat) : 0 < powerOfTwo exponent :=
  Nat.pow_pos (by decide)

end KeyPathQuery
