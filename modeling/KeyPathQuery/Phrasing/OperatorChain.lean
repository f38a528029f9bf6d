import KeyPathQuery.Phrasing.Extraction

/-!
Extraction by chains of operators: `meta->profile->country` becomes
`meta->'profile'->>'country'`. Every step but the last keeps the value as JSON, and the last one
gives its text, so that it compares as a scalar.
-/

set_option autoImplicit false
set_option relaxedAutoImplicit false

namespace KeyPathQuery.Phrasing.OperatorChain

open Sql

/-- The steps below an expression, the last of which gives a text. -/
def steps (target : Expression) : List Text → Expression
  | [] => target
  | [segment] => .jsonAccess target (.string segment) true
  | segment :: next :: rest => steps (.jsonAccess target (.string segment) false) (next :: rest)

/-- The text of the value at a path. -/
def chain (path : KeyPath) : Expression :=
  steps (.rootColumn path) path.segments

/-- Extraction by chains of operators. The text of a missing value and of a JSON null are both
the SQL null, so the test for a value that is there needs no more than the chain. -/
def extraction : Extraction where
  values := chain
  present := fun path ↦ .isNotNull (chain path)
  compare := compareValue
  defaultName := KeyPath.defaultAlias

end KeyPathQuery.Phrasing.OperatorChain
