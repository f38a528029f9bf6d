import KeyPathQuery.Text

/-!
The families of query syntax that a key path is phrased in, with their names.

Main statement: `Dialect.ofName?_eq_some_iff` says that the name of a dialect determines it.
-/

set_option autoImplicit false
set_option relaxedAutoImplicit false

namespace KeyPathQuery

/-- A family of query syntax. -/
inductive Dialect where
  /-- SQL that extracts by calls of functions. -/
  | sqlFunction
  /-- SQL that extracts by chains of operators. -/
  | sqlOperator
  /-- Documents whose fields are addressed with points. -/
  | document
  /-- SQL without extraction: only the column counts. -/
  | generic
deriving DecidableEq, Repr

namespace Dialect

/-- All dialects. -/
def all : List Dialect := [.sqlFunction, .sqlOperator, .document, .generic]

/-- The name of a dialect in messages and configurations. -/
def name : Dialect → Text
  | .sqlFunction => "sql-function".toList
  | .sqlOperator => "sql-operator".toList
  | .document => "document".toList
  | .generic => "generic".toList

/-- The dialect of a name. -/
def ofName? (text : Text) : Option Dialect :=
  all.find? (·.name == text)

theorem ofName?_eq_some_iff {text : Text} {dialect : Dialect} :
    ofName? text = some dialect ↔ dialect.name = text := by
  constructor
  · intro hfound
    have hname := List.find?_some hfound
    simpa using hname
  · rintro rfl
    cases dialect <;> decide

end Dialect

end KeyPathQuery
