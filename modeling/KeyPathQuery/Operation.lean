import KeyPathQuery.KeyPath.Selection
import KeyPathQuery.Phrasing.Request

/-!
Operations as callers give them, all arguments as texts and values, and their reading: the key
path first, then the argument that can be at fault.
-/

set_option autoImplicit false
set_option relaxedAutoImplicit false

namespace KeyPathQuery

/-- What a membership filter without values means. -/
inductive EmptyListPolicy where
  /-- A predicate that nothing satisfies. -/
  | alwaysFalse
  /-- A failure. -/
  | reject
deriving DecidableEq, Repr, Inhabited

/-- The name of a policy in configurations. -/
def EmptyListPolicy.name : EmptyListPolicy → Text
  | .alwaysFalse => "always-false".toList
  | .reject => "reject".toList

/-- The policy of a name. -/
def EmptyListPolicy.ofName? (text : Text) : Option EmptyListPolicy :=
  [EmptyListPolicy.alwaysFalse, .reject].find? (·.name == text)

/-- One of the six operations on a query, as a caller gives it. -/
inductive Operation where
  | filter (path operator : Text) (value : Json)
  | whereIn (path : Text) (values : List Json)
  | contains (path search : Text)
  | present (path : Text)
  | orderBy (path direction : Text)
  | select (selection : Text)
deriving Repr

/-- The key path and the request that an operation spells. -/
def Operation.read (policy : EmptyListPolicy) : Operation → Except FilterError (KeyPath × Request)
  | .filter path operator value => do
    let path ← KeyPath.read path
    pure (path, .compare (.parse operator) value)
  | .whereIn path values => do
    let read ← KeyPath.read path
    if values.isEmpty && policy == .reject then .error (.emptyValueList path)
    else pure (read, .memberOf values)
  | .contains path search => do
    let path ← KeyPath.read path
    pure (path, .contains search)
  | .present path => do
    let path ← KeyPath.read path
    pure (path, .present)
  | .orderBy path direction => do
    let path ← KeyPath.read path
    match Direction.ofText? direction with
    | some direction => pure (path, .orderBy direction)
    | none => .error (.invalidDirection direction)
  | .select selection => do
    let selection ← Selection.parse selection
    pure (selection.path, .select selection.resultName)

end KeyPathQuery
