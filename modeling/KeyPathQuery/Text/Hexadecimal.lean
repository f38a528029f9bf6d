import KeyPathQuery.Text

/-!
Hexadecimal digits, in either case, and the numbers they spell.

Main statement: `hexValue?_hexCapital` says that the capital digit of a number is read as that
number.
-/

set_option autoImplicit false
set_option relaxedAutoImplicit false

namespace KeyPathQuery.Text

/-- The number of a hexadecimal digit, in either case. -/
def hexValue? (c : Char) : Option Nat :=
  if '0' ≤ c ∧ c ≤ '9' then some (c.toNat - '0'.toNat)
  else if 'a' ≤ c ∧ c ≤ 'f' then some (c.toNat - 'a'.toNat + 10)
  else if 'A' ≤ c ∧ c ≤ 'F' then some (c.toNat - 'A'.toNat + 10)
  else none

/-- The number that hexadecimal digits spell. -/
def hexNumber? (text : Text) : Option Nat :=
  text.foldlM (fun total c ↦ (hexValue? c).map (total * 16 + ·)) 0

/-- A hexadecimal digit in capitals. -/
def hexCapital (value : Nat) : Char :=
  (Nat.digitChar value).toUpper

theorem hexValue?_hexCapital {value : Nat} (hlt : value < 16) :
    hexValue? (hexCapital value) = some value := by
  have hall : ∀ digit : Fin 16, hexValue? (hexCapital digit) = some digit.val := by decide
  exact hall ⟨value, hlt⟩

end KeyPathQuery.Text
