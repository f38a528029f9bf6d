import KeyPathQuery.Fragment

/-!
Requests: the six operations on a key path with their arguments understood, before any dialect
has a say.
-/

set_option autoImplicit false
set_option relaxedAutoImplicit false

namespace KeyPathQuery

/-- What is asked of the values at a key path. -/
inductive Request where
  /-- They compare with a value. -/
  | compare (comparison : Comparison) (value : Json)
  /-- They are among some values. -/
  | memberOf (values : List Json)
  /-- Their text holds a text. -/
  | contains (search : Text)
  /-- They are there, and not null. -/
  | present
  /-- The result is sorted by them. -/
  | orderBy (direction : Direction)
  /-- They appear in the result, under a name if one is given. -/
  | select (resultName : Option Text)
deriving Repr

end KeyPathQuery
