import KeyPathQuery.Sql.Like
import KeyPathQuery.Phrasing.Request

/-!
Phrasing in SQL. The SQL dialects share the shape of every fragment and differ in four
points, which an `Extraction` names: the expression of the values at a path, the test that they
are there, the comparison with a value, and the name that a projection gets by itself.
-/

set_option autoImplicit false
set_option relaxedAutoImplicit false

namespace KeyPathQuery

namespace Phrasing

open Sql

/-- The operator of a comparison in SQL; an operator that is not recognised goes in as it is. -/
def sqlOperator : Comparison → BinaryOperator
  | .equal => .equal
  | .notEqual => .notEqual
  | .less => .less
  | .lessOrEqual => .lessOrEqual
  | .greater => .greater
  | .greaterOrEqual => .greaterOrEqual
  | .other operator => .custom operator

/-- The comparison of an expression with a value. -/
def compareValue (target : Expression) (comparison : Comparison) (value : Json) : Expression :=
  .binary target (sqlOperator comparison) (.bind value)

/-- The points in which SQL dialects differ. -/
structure Extraction where
  /-- The values at a path. -/
  values : KeyPath → Expression
  /-- The test that the values are there. -/
  present : KeyPath → Expression
  /-- The comparison of the values with a value. -/
  compare : Expression → Comparison → Json → Expression
  /-- The name that a projection of the values gets by itself. -/
  defaultName : KeyPath → Text

/-- The fragment of a request in a SQL dialect. -/
def Extraction.phrase (extraction : Extraction) (path : KeyPath) : Request → Fragment
  | .compare comparison value =>
    .filter (extraction.compare (extraction.values path) comparison value)
  | .memberOf values => .filter (.memberOf (extraction.values path) values)
  | .contains search => .filter (.textContains (extraction.values path) search)
  | .present => .filter (extraction.present path)
  | .orderBy direction => .order ⟨extraction.values path, some direction⟩
  | .select resultName =>
    .projection (.expression (extraction.values path)
      (some (resultName.getD (extraction.defaultName path))))

end Phrasing

end KeyPathQuery
