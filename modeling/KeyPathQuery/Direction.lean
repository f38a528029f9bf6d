import KeyPathQuery.Text.Blank

/-!
Sort directions: ascending or descending, read without regard to the case of ASCII letters or to
surrounding white space.
-/

set_option autoImplicit false
set_option relaxedAutoImplicit false

namespace KeyPathQuery

/-- The direction of a sort. -/
inductive Direction where
  | ascending
  | descending
deriving DecidableEq, Repr, Inhabited

namespace Direction

/-- The direction that a text names. -/
def ofText? (text : Text) : Option Direction :=
  let word := text.trim.asciiLowerCase
  if word = "asc".toList then some .ascending
  else if word = "desc".toList then some .descending
  else none

/-- The name of a direction in SQL. -/
def name : Direction → Text
  | .ascending => "ASC".toList
  | .descending => "DESC".toList

/-- The number by which a document sort tells the direction. -/
def order : Direction → Int
  | .ascending => 1
  | .descending => -1

end Direction

end KeyPathQuery
