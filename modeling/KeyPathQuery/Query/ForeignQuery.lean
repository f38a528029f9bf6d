import KeyPathQuery.Query.Target

/-!
Query objects that have no place for any fragment. All they do is to count how often every
column was projected, which is the one thing a failing operation may have done to them.
-/

set_option autoImplicit false
set_option relaxedAutoImplicit false

namespace KeyPathQuery

/-- A query object that takes no fragment. -/
structure ForeignQuery where
  connection : Connection
  projects : Bool
  selectAllCalls : Nat := 0
deriving DecidableEq, Repr

instance : QueryTarget ForeignQuery where
  connection := ForeignQuery.connection
  projectionIsEmpty := fun query ↦ !query.projects
  selectAll := fun query ↦
    { query with projects := true, selectAllCalls := query.selectAllCalls + 1 }

end KeyPathQuery
