import KeyPathQuery.Phrasing

/-!
Reading a fragment as far as some reader knows its parts. `Expression.collect` goes through a whole
expression and gives what the reader reads, from left to right; only inside what is read already
does it look no further. A reader for what extractions are made of passes over values and
predicates, and the request then makes no difference: a fragment holds what its values hold, or
what its test for presence holds.

Main statement: `Phrasing.Extraction.collect_phrase`.
-/

set_option autoImplicit false
set_option relaxedAutoImplicit false

namespace KeyPathQuery

open Sql Phrasing

variable {α : Type}

/-! ### Expressions -/

namespace Sql.Expression

mutual

/-- What `read?` reads of the parts of an expression, from left to right. A part that it reads is
not searched any further. -/
def collect (read? : Expression → Option α) (expression : Expression) : List α :=
  match read? expression with
  | some found => [found]
  | none =>
    match expression with
    | .column _ _ | .literal _ | .bind _ => []
    | .binary left _ right => left.collect read? ++ right.collect read?
    | .call _ arguments => collectAll read? arguments
    | .like target pattern _ => target.collect read? ++ pattern.collect read?
    | .inList target items => target.collect read? ++ collectAll read? items
    | .isNotNull operand => operand.collect read?
    | .jsonAccess target path _ => target.collect read? ++ path.collect read?
    | .nested inner => inner.collect read?

/-- What `read?` reads of expressions, from left to right. -/
def collectAll (read? : Expression → Option α) : List Expression → List α
  | [] => []
  | expression :: rest => expression.collect read? ++ collectAll read? rest

end

/-- A reader that leaves values and predicates to be searched for their parts. -/
structure ReadsOperands (read? : Expression → Option α) : Prop where
  literal (value : Literal) : read? (.literal value) = none
  bind (value : Json) : read? (.bind value) = none
  binary (left : Expression) (operator : BinaryOperator) (right : Expression) :
    read? (.binary left operator right) = none
  like (target pattern : Expression) (escape : Char) : read? (.like target pattern escape) = none
  inList (target : Expression) (items : List Expression) : read? (.inList target items) = none
  isNotNull (operand : Expression) : read? (.isNotNull operand) = none
  nested (inner : Expression) : read? (.nested inner) = none

variable {read? : Expression → Option α} (hread : ReadsOperands read?)

theorem collect_of_read? {expression : Expression} {found : α}
    (hfound : read? expression = some found) : expression.collect read? = [found] := by
  rw [collect.eq_def, hfound]

/-- Where the reader reads nothing, the parts are searched. -/
theorem collect_of_none {expression : Expression} : read? expression = none →
    expression.collect read? =
      match expression with
      | .column _ _ | .literal _ | .bind _ => []
      | .binary left _ right => left.collect read? ++ right.collect read?
      | .call _ arguments => collectAll read? arguments
      | .like target pattern _ => target.collect read? ++ pattern.collect read?
      | .inList target items => target.collect read? ++ collectAll read? items
      | .isNotNull operand => operand.collect read?
      | .jsonAccess target path _ => target.collect read? ++ path.collect read?
      | .nested inner => inner.collect read? := by
  intro hnone
  rw [collect.eq_def, hnone]

theorem collect_call {function : Text} {arguments : List Expression}
    (hnone : read? (.call function arguments) = none) :
    (call function arguments).collect read? = collectAll read? arguments :=
  collect_of_none hnone

include hread

theorem collect_literal (value : Literal) : (literal value).collect read? = [] :=
  collect_of_none (hread.literal value)

theorem collect_bind (value : Json) : (bind value).collect read? = [] :=
  collect_of_none (hread.bind value)

theorem collect_binary (left : Expression) (operator : BinaryOperator) (right : Expression) :
    (binary left operator right).collect read? = left.collect read? ++ right.collect read? :=
  collect_of_none (hread.binary left operator right)

theorem collect_isNotNull (operand : Expression) :
    (isNotNull operand).collect read? = operand.collect read? :=
  collect_of_none (hread.isNotNull operand)

theorem collect_nested (inner : Expression) :
    (nested inner).collect read? = inner.collect read? :=
  collect_of_none (hread.nested inner)

theorem collectAll_map_bind (values : List Json) : collectAll read? (values.map .bind) = [] := by
  induction values with
  | nil => rfl
  | cons value rest ih => simp [collectAll, collect_bind hread, ih]

theorem collect_compareValue (target : Expression) (comparison : Comparison) (value : Json) :
    (compareValue target comparison value).collect read? = target.collect read? := by
  rw [compareValue, collect_binary hread, collect_bind hread, List.append_nil]

theorem collect_textContains (target : Expression) (search : Text) :
    (textContains target search).collect read? = target.collect read? := by
  rw [textContains, collect_of_none (hread.like _ _ _)]
  simp [collect_bind hread]

theorem collect_memberOf (target : Expression) {values : List Json} (hvalues : values ≠ []) :
    (memberOf target values).collect read? = target.collect read? := by
  rw [memberOf, if_neg (by simpa using hvalues), collect_of_none (hread.inList _ _)]
  simp [collectAll_map_bind hread]

end Sql.Expression

/-! ### Fragments -/

/-- The expressions of a fragment. -/
def Fragment.expressions : Fragment → List Expression
  | .filter predicate => [predicate]
  | .order item => [item.expression]
  | .projection (.expression content _) => [content]
  | _ => []

/-- What `read?` reads of a fragment, from left to right. -/
def Fragment.collect (read? : Expression → Option α) (fragment : Fragment) : List α :=
  fragment.expressions.flatMap (·.collect read?)

/-- What asks for the field of a path in every dialect: its comparison is recognised, its list is
not empty, and a test for presence goes below the column. -/
def Request.AsksField (path : KeyPath) : Request → Prop
  | .compare comparison _ => ∀ operator, comparison ≠ .other operator
  | .memberOf values => values ≠ []
  | .present => path.isNested = true
  | .contains _ | .orderBy _ | .select _ => True

/-- A fragment is about what its test for presence or else its values are about. -/
theorem Phrasing.Extraction.collect_phrase (extraction : Extraction)
    (hcompare : extraction.compare = compareValue) {read? : Expression → Option α}
    (hread : Expression.ReadsOperands read?) {path : KeyPath} {request : Request}
    (hrequest : request.AsksField path) :
    (extraction.phrase path request).collect read? =
      match request with
      | .present => (extraction.present path).collect read?
      | _ => (extraction.values path).collect read? := by
  cases request with
  | compare comparison value =>
    simp [phrase, hcompare, Fragment.collect, Fragment.expressions,
      Expression.collect_compareValue hread]
  | memberOf values =>
    simp [phrase, Fragment.collect, Fragment.expressions,
      Expression.collect_memberOf hread _ hrequest]
  | contains search =>
    simp [phrase, Fragment.collect, Fragment.expressions,
      Expression.collect_textContains hread]
  | present | orderBy _ | select _ => simp [phrase, Fragment.collect, Fragment.expressions]

end KeyPathQuery
