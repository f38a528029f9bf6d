import KeyPathQuery.Text.Blank
import KeyPathQuery.Text.Quoted

/-!
Comparison operators of a filter. Six comparisons are recognised, two of them in two spellings,
with white space around them; any other text is kept as it is, for dialects that pass it on.
-/

set_option autoImplicit false
set_option relaxedAutoImplicit false

namespace KeyPathQuery

/-- A comparison of a field with a value. -/
inductive Comparison where
  | equal
  | notEqual
  | less
  | lessOrEqual
  | greater
  | greaterOrEqual
  /-- An operator text that is none of the recognised ones. -/
  | other (operator : Text)
deriving DecidableEq, Repr

namespace Comparison

/-- The comparison that a text without surrounding white space spells. -/
def ofTrimmed (operator : Text) : Comparison :=
  if operator = "=".toList ∨ operator = "==".toList then .equal
  else if operator = "!=".toList ∨ operator = "<>".toList then .notEqual
  else if operator = "<".toList then .less
  else if operator = "<=".toList then .lessOrEqual
  else if operator = ">".toList then .greater
  else if operator = ">=".toList then .greaterOrEqual
  else .other operator

/-- The comparison that a text spells. -/
def parse (operator : Text) : Comparison :=
  ofTrimmed operator.trim

/-- The name of a comparison in messages. -/
def describe : Comparison → Text
  | .equal => "Eq".toList
  | .notEqual => "NotEq".toList
  | .less => "Lt".toList
  | .lessOrEqual => "LtEq".toList
  | .greater => "Gt".toList
  | .greaterOrEqual => "GtEq".toList
  | .other operator => "Other(".toList ++ operator.quoted ++ ")".toList

/-- The operator of a document condition, for a recognised comparison. -/
def documentOperator? : Comparison → Option Text
  | .equal => some "$eq".toList
  | .notEqual => some "$ne".toList
  | .less => some "$lt".toList
  | .lessOrEqual => some "$lte".toList
  | .greater => some "$gt".toList
  | .greaterOrEqual => some "$gte".toList
  | .other _ => none

end Comparison

end KeyPathQuery
