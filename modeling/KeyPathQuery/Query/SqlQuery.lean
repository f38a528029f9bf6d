import KeyPathQuery.Query.Target
import KeyPathQuery.Sql.Parser

/-!
SQL queries: a SELECT statement over one table, bound to a connection, with the dialect that
decides the style of its placeholders.
-/

set_option autoImplicit false
set_option relaxedAutoImplicit false

namespace KeyPathQuery

/-- A SELECT statement on a connection. -/
structure SqlQuery where
  connection : Connection
  dialect : Dialect
  statement : Sql.Select
deriving Repr

namespace SqlQuery

/-- The query of a table, whose name may have a schema in front. -/
def ofTable (connection : Connection) (dialect : Dialect) (table : Text) : SqlQuery where
  connection := connection
  dialect := dialect
  statement := { tables := [.ofText table] }

/-- Adds plain columns to the projection. -/
def selectColumns (query : SqlQuery) (columns : List Text) : SqlQuery :=
  { query with
    statement :=
      { query.statement with
        projections := query.statement.projections ++ columns.map .ofColumnName } }

/-- Projects every column and nothing else. -/
def selectAll (query : SqlQuery) : SqlQuery :=
  { query with statement := { query.statement with projections := [.wildcard] } }

/-- The query with a part of a statement added; parts of document queries have no place. -/
def add? (query : SqlQuery) : Fragment → Option SqlQuery
  | .filter predicate => some { query with statement := query.statement.andWhere predicate }
  | .order item =>
    some { query with
      statement := { query.statement with ordering := query.statement.ordering ++ [item] } }
  | .projection item =>
    some { query with
      statement := { query.statement with projections := query.statement.projections ++ [item] } }
  | _ => none

instance : QueryTarget SqlQuery where
  connection := SqlQuery.connection
  projectionIsEmpty := fun query ↦ query.statement.projections.isEmpty
  selectAll := selectAll
  add? := add?
  nativeDialect := SqlQuery.dialect

/-- The statement with the placeholders of the dialect, and its values. -/
def compile (query : SqlQuery) : Sql.Compiled :=
  query.statement.compile (.ofDialect query.dialect)

/-- The statement with its values as literals, for display. -/
def inlineSql (query : SqlQuery) : Text :=
  (query.statement.compile .inline).sql

/-- Whether a parser takes the compiled statement for SQL of the dialect. -/
def isAccepted (query : SqlQuery) (parser : Sql.Parser := .acceptor) : Bool :=
  parser.accepts query.dialect query.compile.sql

end SqlQuery

end KeyPathQuery
