import KeyPathQuery.Query.Target

/-!
Document queries: a search in one collection, bound to a connection. A document comes back
whole unless the query projects something, so projecting everything changes nothing.
-/

set_option autoImplicit false
set_option relaxedAutoImplicit false

namespace KeyPathQuery

/-- A search for documents on a connection. -/
structure DocumentQuery where
  connection : Connection
  collection : Text
  /-- The clauses that a document must satisfy, all of them. -/
  clauses : List Json.Fields := []
  sorts : List (Text × Direction) := []
  projection : Json.Fields := []
deriving Repr

namespace DocumentQuery

/-- The query with a part of a document query added; parts of statements have no place. -/
def add? (query : DocumentQuery) : Fragment → Option DocumentQuery
  | .documentFilter clause => some { query with clauses := query.clauses ++ [clause] }
  | .documentSort key direction => some { query with sorts := query.sorts ++ [(key, direction)] }
  | .documentProjection key content =>
    some { query with projection := query.projection.insert key content }
  | _ => none

instance : QueryTarget DocumentQuery where
  connection := DocumentQuery.connection
  projectionIsEmpty := fun query ↦ query.projection.isEmpty
  selectAll := id
  add? := add?
  nativeDialect := fun _ ↦ .document

/-- The document that the searched documents must satisfy. -/
def filterDocument (query : DocumentQuery) : Json :=
  match query.clauses with
  | [] => .object []
  | [clause] => .object clause
  | clauses => .object [("$and".toList, .array (clauses.map .object))]

/-- The keys to sort by in the order of their first use, each with its last direction. -/
def sortDocument (query : DocumentQuery) : Json.Fields :=
  Json.Fields.ofPairs (query.sorts.map fun (key, direction) ↦ (key, .integer direction.order))

/-- The query as a command of the store; sorts and projections only if there are any. -/
def command (query : DocumentQuery) : Json :=
  .object ([("find".toList, .string query.collection), ("filter".toList, query.filterDocument)] ++
    (if query.sorts.isEmpty then [] else [("sort".toList, .object query.sortDocument)]) ++
    (if query.projection.isEmpty then [] else [("projection".toList, .object query.projection)]))

end DocumentQuery

end KeyPathQuery
