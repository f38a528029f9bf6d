import KeyPathQuery.Json.Writer
import KeyPathQuery.Proofs.Json.Descent
import KeyPathQuery.Proofs.Phrasing.Address

/-!
What clauses mean in a store of documents. A clause puts conditions on the values that dotted names
lead to. Without arrays on the way a name leads to one value or to none; what it leads to through
arrays is left open, and so is all else that no clause on key paths relies on (`DocumentStore`).

A condition speaks of the values found, not of one value: nothing found is equal to null, and so it
is neither unequal to null nor there.
-/

set_option autoImplicit false
set_option relaxedAutoImplicit false

namespace KeyPathQuery

/-- What a store of documents makes of names, values and operators. -/
structure DocumentStore where
  /-- The values that names, outermost first, lead to in a document. -/
  found : Json.Fields → List Text → List Json
  /-- Whether a value found and an operand are the same. -/
  same : Json → Json → Bool
  /-- Whether an operator that is none of those below holds of the values found. -/
  otherwise : Text → Json → List Json → Bool
  found_of_hasNoArrays {document : Json.Fields} {root : Text} {stored : Json}
    (hroot : document.get? root = some stored) (hstored : stored.hasNoArrays = true)
    (names : List Text) : found document (root :: names) = (stored.at? names).toList
  same_null_iff (value : Json) : same value .null = true ↔ value = .null
  same_string_iff (first second : Text) :
    same (.string first) (.string second) = true ↔ first = second

namespace DocumentStore

variable (store : DocumentStore)

/-- Whether one of the values found is the same as an operand. Nothing found counts as null. -/
def equals (values : List Json) : Json → Bool
  | .null => values.isEmpty || values.any (store.same · .null)
  | operand => values.any (store.same · operand)

/-- Whether an operator with an operand holds of the values found. -/
def holds (values : List Json) (operator : Text) (operand : Json) : Bool :=
  if operator = "$eq".toList then store.equals values operand
  else if operator = "$ne".toList then !store.equals values operand
  else
    match operand with
    | .array operands =>
      if operator = "$in".toList then operands.any (store.equals values)
      else store.otherwise operator operand values
    | .boolean wanted =>
      if operator = "$exists".toList then wanted == !values.isEmpty
      else store.otherwise operator operand values
    | _ => store.otherwise operator operand values

/-- Whether an object is made of operators: its first key starts with a dollar sign. -/
def isCondition (fields : Json.Fields) : Bool :=
  match fields.keys with
  | ('$' :: _) :: _ => true
  | _ => false

/-- Whether a document satisfies a clause, which is a condition for every name. -/
def satisfies (document clause : Json.Fields) : Bool :=
  clause.all fun (name, condition) ↦
    let values := store.found document (Text.split '.' name)
    match condition with
    | .object fields =>
      if isCondition fields then
        fields.all fun field ↦ store.holds values field.1 field.2
      else store.equals values (.object fields)
    | operand => store.equals values operand

end DocumentStore

/-! ### A plain store -/

namespace DocumentStore

/-- The members of a value under a name; those of an array are the members of its items. -/
def membersOf (name : Text) : Json → List Json
  | .array items => items.filterMap (·.member? name)
  | value => (value.member? name).toList

/-- The values that names lead to from some values. -/
def reached (values : List Json) (names : List Text) : List Json :=
  names.foldl (fun values name ↦ values.flatMap (membersOf name)) values

/-- Without arrays, names lead on from one value to one at most. -/
theorem reached_of_hasNoArrays {value : Json} (hvalue : value.hasNoArrays = true)
    (names : List Text) : reached [value] names = (value.at? names).toList := by
  have hnone (names : List Text) : reached [] names = [] := by
    induction names with
    | nil => rfl
    | cons name rest ih => exact ih
  induction names generalizing value with
  | nil => rfl
  | cons name rest ih =>
    have hmembers : membersOf name value = (value.member? name).toList := by
      cases value with
      | array items => cases hvalue
      | null | boolean | number | string | object => rfl
    have hstep : reached [value] (name :: rest) = reached (value.member? name).toList rest := by
      simp [reached, hmembers]
    rw [hstep, Json.at?_cons]
    cases hmember : value.member? name with
    | none => exact hnone rest
    | some member => exact ih (Json.hasNoArrays_of_member? hvalue hmember)

/-- Whether two values are the same; arrays and objects are if their texts are. -/
def sameValue : Json → Json → Bool
  | .null, .null => true
  | .boolean first, .boolean second => first == second
  | .number first, .number second => first == second
  | .string first, .string second => first == second
  | .array first, .array second => (Json.array first).compact == (Json.array second).compact
  | .object first, .object second => (Json.object first).compact == (Json.object second).compact
  | _, _ => false

/-- A store of documents without further operators. -/
def plain : DocumentStore where
  found document names := reached [.object document] names
  same := sameValue
  otherwise _ _ _ := false
  found_of_hasNoArrays {document root stored} hroot hstored names := by
    have hmember : (Json.object document).member? root = some stored := hroot
    have hstep : reached [.object document] (root :: names) = reached [stored] names := by
      simp [reached, membersOf, hmember]
    rw [hstep, reached_of_hasNoArrays hstored]
  same_null_iff value := by cases value <;> simp [sameValue]
  same_string_iff first second := by simp [sameValue]

end DocumentStore

/-! ### Clauses on key paths -/

namespace DocumentStore

variable (store : DocumentStore)

/-- A clause on a key path puts its operators on what the segments lead to below the root. -/
theorem satisfies_dotted {path : KeyPath} (hidentifier : isIdentifier path.root = true)
    {document : Json.Fields} {stored : Json} (hroot : document.get? path.root = some stored)
    (hstored : stored.hasNoArrays = true) {condition : Json.Fields}
    (hcondition : isCondition condition = true) :
    store.satisfies document [(path.dotted, .object condition)] =
      condition.all fun field ↦
        store.holds (stored.at? path.segments).toList field.1 field.2 := by
  have hnames : Text.split '.' path.dotted = path.root :: path.segments := by
    rw [path.split_dotted, KeyPath.address_of_identifier hidentifier]
    rfl
  simp only [satisfies, List.all_cons, List.all_nil, Bool.and_true, hcondition, if_true, hnames,
    store.found_of_hasNoArrays hroot hstored]

/-- The conditions of a presence test hold of what is there and not null. -/
theorem holds_exists_and_ne_null_iff (value : Option Json) :
    (store.holds value.toList "$exists".toList (.boolean true) = true ∧
      store.holds value.toList "$ne".toList .null = true) ↔
      ∃ found, value = some found ∧ found ≠ .null := by
  cases value with
  | none => simp [holds]
  | some found =>
    have hnull : store.same found .null = false ↔ found ≠ .null := by
      rw [← Bool.not_eq_true, store.same_null_iff]
    simp [holds, equals, hnull]

/-- A string that may be missing equals a string exactly if it is there and the same. -/
theorem equals_string_iff (content : Option Text) (operand : Text) :
    store.equals (content.map Json.string).toList (.string operand) = true ↔
      content = some operand := by
  cases content with
  | none => simp [equals]
  | some content => simp [equals, store.same_string_iff]

theorem holds_equal (values : List Json) (operand : Json) :
    store.holds values "$eq".toList operand = store.equals values operand := rfl

theorem holds_memberOf (values operands : List Json) :
    store.holds values "$in".toList (.array operands) = operands.any (store.equals values) := rfl

end DocumentStore

end KeyPathQuery
