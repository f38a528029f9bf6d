import KeyPathQuery.Operation
import KeyPathQuery.Query.DocumentQuery
import KeyPathQuery.Query.SqlQuery
import KeyPathQuery.Registry
import KeyPathQuery.Phrasing

/-!
Composers: a registry and a policy for empty lists, and the operations they run on query objects.

An operation is read, phrased by the adapter of the query's connection, and then added to the
query. Reading and phrasing leave the query alone. Before the fragment goes in, the query is
made to project something where the adapter needs that; only then may the query object still
refuse the fragment, so the outcome of an operation is both a query and an answer.
-/

set_option autoImplicit false
set_option relaxedAutoImplicit false

namespace KeyPathQuery

/-- What an operation leaves: the query, and the failure if the operation failed. -/
structure Outcome (τ : Type) where
  query : τ
  failure : Option FilterError

/-- An adapter for every connection, and the meaning of an empty list. -/
structure Composer where
  registry : Registry := .builtIn
  policy : EmptyListPolicy := .alwaysFalse
deriving DecidableEq, Repr

namespace Composer

/-- The composer of the built-in adapters, where an empty list matches nothing. -/
def standard : Composer := {}

/-- The adapter of a connection. -/
def adapterFor (composer : Composer) (connection : Connection) : Adapter :=
  composer.registry.select connection

/-- A SQL query with the dialect of the connection. -/
def sqlQuery (composer : Composer) (connection : Connection) (table : Text) : SqlQuery :=
  .ofTable connection (composer.adapterFor connection).dialect table

/-- A document query. -/
def documentQuery (_ : Composer) (connection : Connection) (collection : Text) : DocumentQuery :=
  { connection := connection, collection := collection }

variable {τ : Type} [QueryTarget τ]

/-- Adds the fragment of an adapter to a query. -/
def merge (adapter : Adapter) (fragment : Fragment) (query : τ) : Outcome τ :=
  let prepared :=
    if adapter.needsSelectAll then QueryTarget.ensureSelectAll query else query
  match QueryTarget.append prepared fragment with
  | .ok extended => ⟨extended, none⟩
  | .error failure => ⟨prepared, some failure⟩

/-- The fragment of an operation on a connection. -/
def phrase (composer : Composer) (connection : Connection) (operation : Operation) :
    Except FilterError Fragment := do
  let (path, request) ← operation.read composer.policy
  (composer.adapterFor connection).dialect.phrase path request

/-- Runs one operation on a query. -/
def run (composer : Composer) (operation : Operation) (query : τ) : Outcome τ :=
  match composer.phrase (QueryTarget.connection query) operation with
  | .error failure => ⟨query, some failure⟩
  | .ok fragment => merge (composer.adapterFor (QueryTarget.connection query)) fragment query

/-- Runs operations one after another, each on what the one before it left; the last query and
the answers in order. -/
def runAll (composer : Composer) (query : τ) : List Operation → τ × List (Option FilterError)
  | [] => (query, [])
  | operation :: rest =>
    let outcome := composer.run operation query
    let (last, answers) := runAll composer outcome.query rest
    (last, outcome.failure :: answers)

/-- Runs operations one after another up to the first one that fails. -/
def runUntilFailure (composer : Composer) (query : τ) : List Operation → Except FilterError τ
  | [] => .ok query
  | operation :: rest =>
    let outcome := composer.run operation query
    match outcome.failure with
    | some failure => .error failure
    | none => runUntilFailure composer outcome.query rest

end Composer

end KeyPathQuery
