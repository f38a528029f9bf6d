import KeyPathQuery.FilterError
import KeyPathQuery.Json.Writer
import KeyPathQuery.Sql.Compile

/-!
Fragments: what one operation adds to a query, in the syntax of a store. A fragment is a part of
a SELECT statement or a part of a document query.
-/

set_option autoImplicit false
set_option relaxedAutoImplicit false

namespace KeyPathQuery

/-- An addition to a query. -/
inductive Fragment where
  /-- A predicate for the condition of a statement. -/
  | filter (predicate : Sql.Expression)
  /-- An item for the ordering of a statement. -/
  | order (item : Sql.OrderItem)
  /-- An item for the projection of a statement. -/
  | projection (item : Sql.SelectItem)
  /-- A clause that documents must satisfy. -/
  | documentFilter (clause : Json.Fields)
  | documentSort (key : Text) (direction : Direction)
  /-- An entry for the projection of documents. -/
  | documentProjection (key : Text) (content : Json)
deriving Repr

namespace Fragment

/-- The part of a query that a fragment adds to. -/
def part : Fragment → QueryPart
  | .filter _ => .rawFilter
  | .order _ => .rawOrder
  | .projection _ => .rawProjection
  | .documentFilter _ => .documentFilter
  | .documentSort _ _ => .documentSort
  | .documentProjection _ _ => .documentProjection

/-- A fragment by itself, with values as literals. -/
def display : Fragment → Text
  | .filter predicate => (predicate.compile .inline).sql
  | .order item => (item.compile .inline).sql
  | .projection item => (item.compile .inline).sql
  | .documentFilter clause => (Json.object clause).compact
  | .documentSort key direction => key ++ [' '] ++ direction.name
  | .documentProjection key content =>
    ['\x7b'] ++ key.quoted ++ ": ".toList ++ content.compact ++ ['\x7d']

end Fragment

end KeyPathQuery
