import KeyPathQuery.Connection
import KeyPathQuery.Dialect

/-!
Adapters: a name, a dialect, and the way its connections are recognised. The phrasing of an
adapter is that of its dialect, so two adapters of one dialect differ only in the connections
they take.
-/

set_option autoImplicit false
set_option relaxedAutoImplicit false

namespace KeyPathQuery

/-- How an adapter recognises its connections. -/
inductive Recognition where
  /-- By a fragment that occurs in what identifies the connection. -/
  | anyOf (fragments : List Text)
  /-- Every connection is taken. -/
  | everything
  /-- The probe breaks off without an answer. -/
  | breaksOff
deriving DecidableEq, Repr

/-- The answer of a probe, if it comes to one. -/
def Recognition.probe? (recognition : Recognition) (connection : Connection) : Option Bool :=
  match recognition with
  | .anyOf fragments => some (connection.identityContains fragments)
  | .everything => some true
  | .breaksOff => none

/-- A source of fragments for the connections that it recognises. -/
structure Adapter where
  name : Text
  dialect : Dialect
  recognition : Recognition
deriving DecidableEq, Repr

namespace Adapter

/-- The adapter for MySQL and MariaDB. -/
def mysql : Adapter where
  name := "mysql".toList
  dialect := .sqlFunction
  recognition := .anyOf ["mysql".toList, "mariadb".toList]

/-- The adapter for PostgreSQL. -/
def postgres : Adapter where
  name := "pgsql".toList
  dialect := .sqlOperator
  recognition := .anyOf ["postgres".toList, "pgsql".toList]

/-- The adapter for MongoDB. -/
def mongo : Adapter where
  name := "mongodb".toList
  dialect := .document
  recognition := .anyOf ["mongo".toList]

/-- The adapter for everything else. -/
def generic : Adapter where
  name := "generic".toList
  dialect := .generic
  recognition := .everything

/-- The adapter that routes the connections with a fragment in their identity to a dialect. Its
name tells the dialect and the fragment in lower case, which is all that recognition needs. -/
def route (fragment : Text) (dialect : Dialect) : Adapter where
  name := dialect.name ++ [':'] ++ fragment.lowerCase
  dialect := dialect
  recognition := .anyOf [fragment]

/-- Whether an adapter takes a connection; a probe that breaks off takes none. -/
def accepts (adapter : Adapter) (connection : Connection) : Bool :=
  (adapter.recognition.probe? connection).getD false

/-- Whether a query has to project every column before a fragment of the adapter goes in, unless
it projects something already. Documents come back whole without that. -/
def needsSelectAll (adapter : Adapter) : Bool :=
  adapter.dialect != .document

end Adapter

end KeyPathQuery
