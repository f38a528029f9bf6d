import KeyPathQuery.Comparison
import KeyPathQuery.Dialect
import KeyPathQuery.Json.Number
import KeyPathQuery.KeyPath
import KeyPathQuery.Text.Quoted

/-!
The ways in which an operation on a query can fail, each with what its message needs, and the
messages. A message quotes caller text with every character shown or spelled out.
-/

set_option autoImplicit false
set_option relaxedAutoImplicit false

namespace KeyPathQuery

/-- The parts of a query that a query object may refuse to take. -/
inductive QueryPart where
  | rawFilter
  | rawOrder
  | rawProjection
  | documentFilter
  | documentSort
  | documentProjection
deriving DecidableEq, Repr

/-- The name of a part of a query in messages. -/
def QueryPart.name : QueryPart → Text
  | .rawFilter => "raw SQL filters".toList
  | .rawOrder => "raw SQL ordering".toList
  | .rawProjection => "raw SQL projections".toList
  | .documentFilter => "document filters".toList
  | .documentSort => "document sorting".toList
  | .documentProjection => "document projections".toList

/-- Why a dialect cannot express an operation. -/
inductive Obstacle where
  /-- Documents have no operator for a comparison that is not recognised. -/
  | noDocumentOperator (comparison : Comparison)
  /-- The query object does not take a part of this kind. -/
  | partNotAccepted (part : QueryPart)
deriving DecidableEq, Repr

/-- The reason that a message gives for an obstacle. -/
def Obstacle.reason : Obstacle → Text
  | .noDocumentOperator comparison =>
    "no document operator for ".toList ++ comparison.describe
  | .partNotAccepted part => "query object does not accept ".toList ++ part.name

/-- The reason that a message gives for a defect of a key path. -/
def PathDefect.reason : PathDefect → Text
  | .empty => "key path is empty".toList
  | .emptyRoot => "root column is empty".toList
  | .invalidRoot root => root.quoted ++ " is not a valid column name".toList
  | .emptySegment place => "segment ".toList ++ Json.digits place ++ " is empty".toList
  | .unsupportedSegment segment =>
    "segment ".toList ++ segment.quoted ++ " contains unsupported characters".toList

/-- Why an operation on a query failed. -/
inductive FilterError where
  /-- A text is no key path. -/
  | malformedPath (path : Text) (defect : PathDefect)
  /-- The name for a projection is no identifier. -/
  | invalidAlias (name : Text)
  /-- A text names no sort direction. -/
  | invalidDirection (direction : Text)
  /-- A membership filter has no values, and the policy refuses that. -/
  | emptyValueList (path : Text)
  /-- A dialect cannot express the operation. -/
  | inexpressible (dialect : Dialect) (obstacle : Obstacle)
deriving DecidableEq

/-- The message of a failure. -/
def FilterError.message : FilterError → Text
  | .malformedPath path defect =>
    "malformed key path ".toList ++ path.quoted ++ ": ".toList ++ defect.reason
  | .invalidAlias name =>
    "invalid alias ".toList ++ name.quoted ++ ": aliases must be plain identifiers".toList
  | .invalidDirection direction =>
    "invalid sort direction ".toList ++ direction.quoted ++ ": expected asc or desc".toList
  | .emptyValueList path => "empty value list for where-in on ".toList ++ path.quoted
  | .inexpressible dialect obstacle =>
    dialect.name ++ " dialect cannot express this operation: ".toList ++ obstacle.reason

/-- The key path that a text spells, its defect as a failure of the operation. -/
def KeyPath.read (text : Text) : Except FilterError KeyPath :=
  match parse text with
  | .ok path => .ok path
  | .error defect => .error (.malformedPath text defect)

end KeyPathQuery
