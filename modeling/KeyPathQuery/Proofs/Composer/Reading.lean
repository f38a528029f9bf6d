import KeyPathQuery.Operation

/-!
The reading of operations, taken apart. An operation has a text for its path and a request that
its other arguments spell; the path is read first. `read_eq` says that reading is these two
steps and nothing more, so a fact about the requests of operations never looks at paths, and
`spells_of_request_eq_ok` which request an operation can spell at all.
-/

set_option autoImplicit false
set_option relaxedAutoImplicit false

namespace KeyPathQuery

/-- The texts of the comparison operators that are recognised. -/
def Comparison.spellings : List Text :=
  ["=".toList, "==".toList, "!=".toList, "<>".toList, "<".toList, "<=".toList, ">".toList,
    ">=".toList]

namespace Operation

/-- The text that has to spell a key path. -/
def pathText : Operation → Text
  | .filter path _ _ => path
  | .whereIn path _ => path
  | .contains path _ => path
  | .present path => path
  | .orderBy path _ => path
  | .select selection => (Selection.parts selection).1

/-- The request that the arguments beside the path spell. -/
def request (policy : EmptyListPolicy) : Operation → Except FilterError Request
  | .filter _ operator value => .ok (.compare (.parse operator) value)
  | .whereIn path values =>
    if values.isEmpty && policy == .reject then .error (.emptyValueList path)
    else .ok (.memberOf values)
  | .contains _ search => .ok (.contains search)
  | .present _ => .ok .present
  | .orderBy _ direction =>
    match Direction.ofText? direction with
    | some direction => .ok (.orderBy direction)
    | none => .error (.invalidDirection direction)
  | .select selection =>
    match (Selection.parts selection).2 with
    | none => .ok (.select none)
    | some name =>
      if isIdentifier name then .ok (.select (some name)) else .error (.invalidAlias name)

/-- An operation is read by reading its path and then its request. -/
theorem read_eq (policy : EmptyListPolicy) (operation : Operation) :
    operation.read policy = (do
      let path ← KeyPath.read operation.pathText
      let request ← operation.request policy
      pure (path, request)) := by
  cases operation with
  | filter path operator value | contains path search | present path => rfl
  | whereIn path values =>
    simp only [read, pathText, request]
    cases values.isEmpty && policy == .reject <;> rfl
  | orderBy path direction =>
    simp only [read, pathText, request]
    cases Direction.ofText? direction <;> rfl
  | select selection =>
    simp only [read, pathText, request, Selection.parse]
    cases KeyPath.read (Selection.parts selection).1 with
    | error failure => rfl
    | ok path =>
      cases (Selection.parts selection).2 with
      | none => rfl
      | some name => cases hname : isIdentifier name <;> simp [hname] <;> rfl

theorem read_eq_ok_iff {policy : EmptyListPolicy} {operation : Operation} {path : KeyPath}
    {request : Request} :
    operation.read policy = .ok (path, request) ↔
      KeyPath.read operation.pathText = .ok path ∧ operation.request policy = .ok request := by
  rw [read_eq]
  cases KeyPath.read operation.pathText with
  | error failure => simp [bind, Except.bind]
  | ok read => cases operation.request policy <;> simp [bind, Except.bind, pure, Except.pure]

/-- The requests of operations by their kinds. -/
inductive Spells : Operation → Request → Prop
  | filter (path operator : Text) (value : Json) :
    Spells (.filter path operator value) (.compare (.parse operator) value)
  | whereIn (path : Text) (values : List Json) : Spells (.whereIn path values) (.memberOf values)
  | contains (path search : Text) : Spells (.contains path search) (.contains search)
  | present (path : Text) : Spells (.present path) .present
  | orderBy (path text : Text) (direction : Direction) :
    Spells (.orderBy path text) (.orderBy direction)
  | select (selection : Text) {resultName : Option Text}
    (hname : ∀ name ∈ resultName, isIdentifier name = true) :
    Spells (.select selection) (.select resultName)

theorem spells_of_request_eq_ok {policy : EmptyListPolicy} {operation : Operation}
    {asked : Request} (hrequest : operation.request policy = .ok asked) :
    operation.Spells asked := by
  cases operation with
  | filter path operator value =>
    obtain rfl := Except.ok.inj hrequest
    exact .filter path operator value
  | whereIn path values =>
    simp only [request] at hrequest
    split at hrequest
    · cases hrequest
    · obtain rfl := Except.ok.inj hrequest
      exact .whereIn path values
  | contains path search =>
    obtain rfl := Except.ok.inj hrequest
    exact .contains path search
  | present path =>
    obtain rfl := Except.ok.inj hrequest
    exact .present path
  | orderBy path text =>
    simp only [request] at hrequest
    split at hrequest
    · obtain rfl := Except.ok.inj hrequest
      exact .orderBy path text _
    · cases hrequest
  | select selection =>
    simp only [request] at hrequest
    split at hrequest
    · obtain rfl := Except.ok.inj hrequest
      exact .select selection (by simp)
    · split at hrequest
      · next hname =>
        obtain rfl := Except.ok.inj hrequest
        exact .select selection (by simpa using hname)
      · cases hrequest

theorem spells_of_read_eq_ok {policy : EmptyListPolicy} {operation : Operation} {path : KeyPath}
    {asked : Request} (hread : operation.read policy = .ok (path, asked)) :
    operation.Spells asked :=
  spells_of_request_eq_ok (read_eq_ok_iff.mp hread).2

end Operation

end KeyPathQuery
