import KeyPathQuery.FilterError
import KeyPathQuery.Text.Blank

/-!
Selections: a key path, and the name its values get in the result if one is given, written
`path as name`. The first ` as ` divides the text, and white space around either part does not
count. A defect of the path is reported before a defect of the name.
-/

set_option autoImplicit false
set_option relaxedAutoImplicit false

namespace KeyPathQuery

/-- A key path and the name of its values in the result. -/
structure Selection where
  path : KeyPath
  resultName : Option Text
deriving DecidableEq

namespace Selection

/-- The mark between a path and a name. -/
def nameMark : Text := " as ".toList

/-- The texts of the path and of the name, without surrounding white space. -/
def parts (text : Text) : Text × Option Text :=
  match text.cut nameMark with
  | some (path, name) => (path.trim, some name.trim)
  | none => (text.trim, none)

/-- The selection that a text spells. -/
def parse (text : Text) : Except FilterError Selection :=
  match KeyPath.read (parts text).1, (parts text).2 with
  | .error failure, _ => .error failure
  | .ok path, none => .ok ⟨path, none⟩
  | .ok path, some name =>
    if isIdentifier name then .ok ⟨path, some name⟩ else .error (.invalidAlias name)

end Selection

end KeyPathQuery
