import KeyPathQuery.Json.Basic

/-!
Going down into a JSON value from member to member. Only objects have members, so a descent ends at
the first member that is missing and at the first value that is no object. Below a value without
arrays there are none (`hasNoArrays_of_at?`).
-/

set_option autoImplicit false
set_option relaxedAutoImplicit false

namespace KeyPathQuery.Json

/-- The member of a value under a name. -/
def member? : Json → Text → Option Json
  | .object fields, name => Fields.get? fields name
  | _, _ => none

/-- What is reached from a value by members under names, outermost first. -/
def at? (value : Json) (names : List Text) : Option Json :=
  names.foldlM member? value

mutual

/-- Whether no array stands in a value at any depth. -/
def hasNoArrays : Json → Bool
  | .array _ => false
  | .object fields => fieldsHaveNoArrays fields
  | .null | .boolean _ | .number _ | .string _ => true

/-- Whether no array stands in the values of fields. -/
def fieldsHaveNoArrays : List (Text × Json) → Bool
  | [] => true
  | (_, value) :: rest => value.hasNoArrays && fieldsHaveNoArrays rest

end

theorem fieldsHaveNoArrays_iff {fields : Fields} :
    fieldsHaveNoArrays fields = true ↔ ∀ field ∈ fields, field.2.hasNoArrays = true := by
  induction fields with
  | nil => simp [fieldsHaveNoArrays]
  | cons field rest ih => simp [fieldsHaveNoArrays, ih]

theorem hasNoArrays_of_member? {value member : Json} {name : Text}
    (hvalue : value.hasNoArrays = true) (hmember : value.member? name = some member) :
    member.hasNoArrays = true := by
  cases value with
  | object fields =>
    obtain ⟨field, hfound, rfl⟩ := Option.map_eq_some_iff.mp hmember
    rw [hasNoArrays, fieldsHaveNoArrays_iff] at hvalue
    exact hvalue field (List.mem_of_find?_eq_some hfound)
  | null | boolean | number | string | array => cases hmember

@[simp] theorem at?_nil (value : Json) : value.at? [] = some value := rfl

@[simp] theorem at?_cons (value : Json) (name : Text) (rest : List Text) :
    value.at? (name :: rest) = (value.member? name).bind (·.at? rest) :=
  List.foldlM_cons

end KeyPathQuery.Json
