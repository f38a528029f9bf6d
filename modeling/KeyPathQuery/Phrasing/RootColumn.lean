import KeyPathQuery.Phrasing.Extraction

/-!
The last resort, for stores without JSON functions: every operation works on the root column,
and the segments do not count. A comparison becomes a search for the text of the value in the
text of the column, whatever the operator.
-/

set_option autoImplicit false
set_option relaxedAutoImplicit false

namespace KeyPathQuery.Phrasing.RootColumn

open Sql

/-- The text of a value as a search sees it: the content of a string, else the JSON text. -/
def valueText : Json → Text
  | .string content => content
  | value => value.compact

/-- No extraction: the root column stands for its fields. -/
def extraction : Extraction where
  values := .rootColumn
  present := fun path ↦ .isNotNull (.rootColumn path)
  compare := fun target _ value ↦ .textContains target (valueText value)
  defaultName := fun path ↦ path.column.2

end KeyPathQuery.Phrasing.RootColumn
