import KeyPathQuery.Connection
import KeyPathQuery.Fragment

/-!
Query objects as the operations see them. A query object knows its connection, can tell whether
it projects anything, and can project every column. Of the fragments it takes the kinds it has a
place for; a fragment that it does not take is a failure and never dropped in silence.
-/

set_option autoImplicit false
set_option relaxedAutoImplicit false

namespace KeyPathQuery

/-- A type of query objects. -/
class QueryTarget (τ : Type) where
  /-- The connection that the query runs on. -/
  connection : τ → Connection
  /-- Whether the query projects nothing yet. -/
  projectionIsEmpty : τ → Bool
  /-- The query with every column projected. -/
  selectAll : τ → τ
  /-- The query with a fragment added, unless the query object has no place for it. -/
  add? : τ → Fragment → Option τ := fun _ _ ↦ none
  /-- The dialect that failures of the query object name. -/
  nativeDialect : τ → Dialect := fun _ ↦ .generic

namespace QueryTarget

variable {τ : Type} [QueryTarget τ]

/-- Adds a fragment, or tells that the query object does not take it. -/
def append (query : τ) (fragment : Fragment) : Except FilterError τ :=
  match add? query fragment with
  | some extended => .ok extended
  | none => .error (.inexpressible (nativeDialect query) (.partNotAccepted fragment.part))

/-- Projects every column, unless the query projects something already. -/
def ensureSelectAll (query : τ) : τ :=
  if projectionIsEmpty query then selectAll query else query

end QueryTarget

end KeyPathQuery
