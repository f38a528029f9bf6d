import KeyPathQuery.Json.Writer
import KeyPathQuery.Proofs.Json.Descent
import KeyPathQuery.Proofs.Phrasing.PathLiteral

/-!
What expressions of SQL mean in a store. A store has values of its own, among them JSON values and a
null, and makes of operators and functions what its documentation says. `Store` leaves open all that
no predicate on key paths relies on; the rest are its laws. A store with functions for JSON has
further laws about calls (`CallStore`), and a store with operators for JSON about steps
(`ChainStore`). The stores in `Plain` have no more to them than the laws ask for.

A condition may be neither true nor false, as a comparison with null is, and conjunction and
disjunction have to do with that. A row is found if its condition is true.
-/

set_option autoImplicit false
set_option relaxedAutoImplicit false

namespace KeyPathQuery.Sql

/-! ### Values -/

/-- A value that a store computes with. -/
inductive Value where
  | null
  | truth (value : Bool)
  | integer (value : Int)
  | text (content : Text)
  | json (value : Json)

namespace Value

/-- A JSON value that may be missing. -/
def ofJson? : Option Json → Value
  | some value => .json value
  | none => .null

/-- What a condition says, if it says anything. -/
def truth? : Value → Option Bool
  | .truth value => some value
  | _ => none

/-- A condition that may say nothing. -/
def ofTruth? : Option Bool → Value
  | some value => .truth value
  | none => .null

/-- A text that may be missing. -/
def ofText? : Option Text → Value
  | some content => .text content
  | none => .null

/-- Whether a value is the null of the store, which a JSON null is not. -/
def isNull : Value → Bool
  | .null => true
  | _ => false

end Value

/-- A constant as a value. -/
def Literal.value : Literal → Value
  | .boolean value => .truth value
  | .integer value => .integer value
  | .string content => .text content

/-- Both conditions; one that is false decides by itself. -/
def conjunction : Option Bool → Option Bool → Option Bool
  | some false, _ | _, some false => some false
  | some true, some true => some true
  | _, _ => none

/-- One of two conditions; one that is true decides by itself. -/
def disjunction : Option Bool → Option Bool → Option Bool
  | some true, _ | _, some true => some true
  | some false, some false => some false
  | _, _ => none

/-! ### Stores -/

/-- Whether an operator compares its operands. -/
def BinaryOperator.isComparison : BinaryOperator → Bool
  | .equal | .notEqual | .less | .lessOrEqual | .greater | .greaterOrEqual => true
  | .and | .custom _ => false

/-- What a store makes of values from callers, operators and functions. -/
structure Store where
  /-- A value from a caller. -/
  bound : Json → Value
  /-- An operator between two values, except for the conjunction. -/
  operate : BinaryOperator → Value → Value → Value
  /-- The match of a value with a pattern. -/
  like : Value → Value → Char → Value
  call : Text → List Value → Value
  /-- A step into a value, which gives a JSON value or a text. -/
  step : Value → Value → Bool → Value
  bound_string (content : Text) : bound (.string content) = .text content
  operate_equal_text (first second : Text) :
    operate .equal (.text first) (.text second) = .truth (first == second)
  operate_notEqual_text (first second : Text) :
    operate .notEqual (.text first) (.text second) = .truth (first != second)
  operate_equal_integer (first second : Int) :
    operate .equal (.integer first) (.integer second) = .truth (first == second)
  operate_null {operator : BinaryOperator} (hcomparison : operator.isComparison = true)
    {first second : Value} (hnull : first = .null ∨ second = .null) :
    operate operator first second = .null

/-- Membership in a list is equality with one of its members. -/
def Store.isAmong (store : Store) (target : Value) (items : List Value) : Option Bool :=
  items.foldr (fun item rest ↦ disjunction (store.operate .equal target item).truth? rest)
    (some false)

/-- A store with functions for JSON. A path is a literal of legs, and what it leads to is reached by
members, at least under the names that segments may have. -/
structure CallStore extends Store where
  call_extract {literal : Text} {names : List Text}
    (hliteral : Phrasing.FunctionCall.readLiteral? literal = some names)
    (hnames : ∀ name ∈ names, isSegmentName name = true) (value : Json) :
    call "JSON_EXTRACT".toList [.json value, .text literal] = .ofJson? (value.at? names)
  /-- A JSON null at the end of a path counts as contained. -/
  call_containsPath {literal : Text} {names : List Text}
    (hliteral : Phrasing.FunctionCall.readLiteral? literal = some names)
    (hnames : ∀ name ∈ names, isSegmentName name = true) (value : Json) :
    call "JSON_CONTAINS_PATH".toList [.json value, .text "one".toList, .text literal] =
      .truth (value.at? names).isSome
  call_unquote_string (content : Text) :
    call "JSON_UNQUOTE".toList [.json (.string content)] = .text content
  call_unquote_null : call "JSON_UNQUOTE".toList [.null] = .null
  /-- The name of the type of a JSON value. -/
  typeName : Json → Text
  call_type (value : Json) : call "JSON_TYPE".toList [.json value] = .text (typeName value)
  call_type_null : call "JSON_TYPE".toList [.null] = .null
  typeName_eq_null_iff (value : Json) : typeName value = "NULL".toList ↔ value = .null

/-- The text of a JSON value that may be missing, as the last step of a chain gives it. A JSON null
has none, a string has its content, and any other value has some text. -/
def Value.asText (textOf : Json → Text) : Option Json → Value
  | none | some .null => .null
  | some (.string content) => .text content
  | some value => .text (textOf value)

theorem Value.isNull_asText_iff {textOf : Json → Text} {value : Option Json} :
    (asText textOf value).isNull = false ↔ ∃ found, value = some found ∧ found ≠ .null := by
  rcases value with _ | value
  · simp [asText, isNull]
  · cases value <;> simp [asText, isNull]

theorem Value.asText_map_string (textOf : Json → Text) (content : Option Text) :
    asText textOf (content.map .string) = .ofText? content := by
  cases content <;> rfl

/-- A store with operators for JSON, whose steps go from a value to one of its members. -/
structure ChainStore extends Store where
  /-- The text of a JSON value that is neither null nor a string. -/
  textOf : Json → Text
  step_json (value : Json) (name : Text) :
    step (.json value) (.text name) false = .ofJson? (value.member? name)
  step_text (value : Json) (name : Text) :
    step (.json value) (.text name) true = .asText textOf (value.member? name)
  step_null (name : Value) (asText : Bool) : step .null name asText = .null

/-! ### Plain stores -/

namespace Plain

/-- A value from a caller; texts, truth values and whole numbers are values of the store. -/
def bound : Json → Value
  | .null => .null
  | .boolean value => .truth value
  | .number (.integer value) => .integer value
  | .string content => .text content
  | value => .json value

/-- The comparison of two values of one kind. -/
def compare {α : Type} [BEq α] [LT α] [DecidableLT α] (first second : α) :
    BinaryOperator → Value
  | .equal => .truth (first == second)
  | .notEqual => .truth (first != second)
  | .less => .truth (first < second)
  | .lessOrEqual => .truth !decide (second < first)
  | .greater => .truth (second < first)
  | .greaterOrEqual => .truth !decide (first < second)
  | .and | .custom _ => .null

/-- An operator between two values; nothing comes of values of different kinds. -/
def operate (operator : BinaryOperator) : Value → Value → Value
  | .text first, .text second => compare first second operator
  | .integer first, .integer second => compare first second operator
  | _, _ => .null

/-- The match of a text with a pattern. -/
def like : Value → Value → Char → Value
  | .text content, .text pattern, escape => .truth (Like.fits escape pattern content)
  | _, _, _ => .null

/-- The name of the type of a JSON value. -/
def typeName : Json → Text
  | .null => "NULL".toList
  | .boolean _ => "BOOLEAN".toList
  | .number (.integer _) => "INTEGER".toList
  | .number (.float _ _) => "DOUBLE".toList
  | .string _ => "STRING".toList
  | .array _ => "ARRAY".toList
  | .object _ => "OBJECT".toList

theorem typeName_eq_null_iff (value : Json) : typeName value = "NULL".toList ↔ value = .null := by
  have hothers : ∀ name ∈ ["BOOLEAN", "INTEGER", "DOUBLE", "STRING", "ARRAY", "OBJECT"],
      name.toList ≠ "NULL".toList := by decide
  rcases value with _ | _ | (_ | _) | _ | _ | _
  · exact iff_of_true rfl rfl
  all_goals exact iff_of_false (hothers _ (by decide)) nofun

/-- The functions for JSON. -/
def call (function : Text) (arguments : List Value) : Value :=
  if function = "JSON_EXTRACT".toList then
    match arguments with
    | [.json value, .text literal] =>
      .ofJson? ((Phrasing.FunctionCall.readLiteral? literal).bind value.at?)
    | _ => .null
  else if function = "JSON_CONTAINS_PATH".toList then
    match arguments with
    | [.json value, .text _, .text literal] =>
      .ofTruth? ((Phrasing.FunctionCall.readLiteral? literal).map (value.at? · |>.isSome))
    | _ => .null
  else if function = "JSON_UNQUOTE".toList then
    match arguments with
    | [.json (.string content)] => .text content
    | [.json value] => .text value.compact
    | [value] => value
    | _ => .null
  else if function = "JSON_TYPE".toList then
    match arguments with
    | [.json value] => .text (typeName value)
    | _ => .null
  else .null

/-- The operators for JSON. -/
def step : Value → Value → Bool → Value
  | .json value, .text name, true => .asText Json.compact (value.member? name)
  | .json value, .text name, false => .ofJson? (value.member? name)
  | _, _, _ => .null

/-- A store with some functions and some steps, and nothing more than it needs. -/
def store (call : Text → List Value → Value) (step : Value → Value → Bool → Value) : Store where
  bound := bound
  operate := operate
  like := like
  call := call
  step := step
  bound_string _ := rfl
  operate_equal_text _ _ := rfl
  operate_notEqual_text _ _ := rfl
  operate_equal_integer _ _ := rfl
  operate_null {_ _ second} _ hnull := by
    rcases hnull with rfl | rfl
    · rfl
    · cases second <;> rfl

/-- A plain store with functions for JSON. -/
def callStore : CallStore where
  toStore := store call fun _ _ _ ↦ .null
  call_extract hliteral _ value :=
    congrArg (fun names : Option (List Text) ↦ Value.ofJson? (names.bind value.at?)) hliteral
  call_containsPath hliteral _ value :=
    congrArg (fun names : Option (List Text) ↦ Value.ofTruth? (names.map (value.at? · |>.isSome)))
      hliteral
  call_unquote_string _ := rfl
  call_unquote_null := rfl
  typeName := typeName
  call_type _ := rfl
  call_type_null := rfl
  typeName_eq_null_iff := typeName_eq_null_iff

/-- A plain store with operators for JSON. -/
def chainStore : ChainStore where
  toStore := store (fun _ _ ↦ .null) step
  textOf := Json.compact
  step_json _ _ := rfl
  step_text _ _ := rfl
  step_null _ _ := rfl

end Plain

/-! ### Expressions -/

/-- The values of a row under its columns, with their tables if these are named. -/
abbrev Row := Option Text → Text → Value

mutual

/-- The value of an expression in a row. -/
def Expression.valueIn (store : Store) (row : Row) : Expression → Value
  | .column table name => row table name
  | .literal value => value.value
  | .bind value => store.bound value
  | .binary left .and right =>
    .ofTruth? (conjunction (left.valueIn store row).truth? (right.valueIn store row).truth?)
  | .binary left operator right =>
    store.operate operator (left.valueIn store row) (right.valueIn store row)
  | .call function arguments => store.call function (valuesIn store row arguments)
  | .like target pattern escape =>
    store.like (target.valueIn store row) (pattern.valueIn store row) escape
  | .inList target items =>
    .ofTruth? (store.isAmong (target.valueIn store row) (valuesIn store row items))
  | .isNotNull operand => .truth !(operand.valueIn store row).isNull
  | .jsonAccess target path asText =>
    store.step (target.valueIn store row) (path.valueIn store row) asText
  | .nested inner => inner.valueIn store row

/-- The values of expressions in a row. -/
def Expression.valuesIn (store : Store) (row : Row) : List Expression → List Value
  | [] => []
  | expression :: rest => expression.valueIn store row :: valuesIn store row rest

end

/-- Whether a row is found by a predicate. -/
def Expression.holdsIn (store : Store) (row : Row) (predicate : Expression) : Bool :=
  (predicate.valueIn store row).truth? == some true

namespace Expression

variable {store : Store} {row : Row}

theorem valueIn_bind (value : Json) : (bind value).valueIn store row = store.bound value := rfl

theorem valueIn_and (left right : Expression) :
    (binary left .and right).valueIn store row =
      .ofTruth? (conjunction (left.valueIn store row).truth? (right.valueIn store row).truth?) :=
  rfl

theorem valueIn_equal (left right : Expression) :
    (binary left .equal right).valueIn store row =
      store.operate .equal (left.valueIn store row) (right.valueIn store row) :=
  rfl

theorem valueIn_inList (target : Expression) (items : List Expression) :
    (inList target items).valueIn store row =
      .ofTruth? (store.isAmong (target.valueIn store row) (valuesIn store row items)) :=
  rfl

theorem valueIn_isNotNull (operand : Expression) :
    (isNotNull operand).valueIn store row = .truth !(operand.valueIn store row).isNull :=
  rfl

theorem valuesIn_cons (expression : Expression) (rest : List Expression) :
    valuesIn store row (expression :: rest) =
      expression.valueIn store row :: valuesIn store row rest :=
  rfl

theorem holdsIn_nested (inner : Expression) :
    (nested inner).holdsIn store row = inner.holdsIn store row := rfl

theorem holdsIn_isNotNull (operand : Expression) :
    (isNotNull operand).holdsIn store row = !(operand.valueIn store row).isNull := by
  rw [holdsIn, valueIn_isNotNull, Value.truth?]
  cases (operand.valueIn store row).isNull <;> rfl

/-- Both conditions are true exactly if each is; what is neither true nor false finds no row. -/
theorem holdsIn_and (left right : Expression) :
    (binary left .and right).holdsIn store row =
      (left.holdsIn store row && right.holdsIn store row) := by
  simp only [holdsIn, valueIn_and]
  generalize (left.valueIn store row).truth? = first
  generalize (right.valueIn store row).truth? = second
  rcases first with _ | _ | _ <;> rcases second with _ | _ | _ <;> rfl

theorem holdsIn_alwaysFalse : alwaysFalse.holdsIn store row = false := by
  simp [holdsIn, alwaysFalse, valueIn, Literal.value, store.operate_equal_integer, Value.truth?]

theorem valuesIn_map_bind (operands : List Text) :
    valuesIn store row ((operands.map Json.string).map bind) = operands.map .text := by
  induction operands with
  | nil => rfl
  | cons operand rest ih =>
    simp only [List.map_cons, valuesIn_cons, valueIn_bind, store.bound_string, ih]

end Expression

namespace Store

variable (store : Store)

/-- Equality with a text is true of that text and neither true nor false of null. -/
theorem truth?_operate_equal (content : Option Text) (operand : Text) :
    (store.operate .equal (.ofText? content) (.text operand)).truth? =
      content.map (· == operand) := by
  cases content with
  | none => rw [Value.ofText?, store.operate_null rfl (.inl rfl)]; rfl
  | some content => rw [Value.ofText?, store.operate_equal_text]; rfl

theorem isAmong_ofText?_iff (content : Option Text) (operands : List Text) :
    store.isAmong (.ofText? content) (operands.map .text) = some true ↔
      ∃ operand ∈ operands, content = some operand := by
  induction operands with
  | nil => simp [isAmong]
  | cons operand rest ih =>
    have hsplit : (∃ other ∈ operand :: rest, content = some other) ↔
        content = some operand ∨ ∃ other ∈ rest, content = some other := by
      simp
    rw [hsplit, ← ih, List.map_cons, isAmong, List.foldr_cons, ← isAmong,
      truth?_operate_equal]
    generalize store.isAmong (.ofText? content) (rest.map .text) = others
    cases content with
    | none => rcases others with _ | _ | _ <;> simp [disjunction]
    | some content =>
      by_cases hsame : content = operand
      · simp [hsame, disjunction]
      · have hother : (content == operand) = false := beq_eq_false_iff_ne.mpr hsame
        rcases others with _ | _ | _ <;> simp [disjunction, hsame, hother]

end Store

namespace Expression

variable {store : Store} {row : Row} {target : Expression} {content : Option Text}
  (htarget : target.valueIn store row = .ofText? content)
include htarget

/-- A text that may be missing equals a text exactly if it is there and the same. -/
theorem holdsIn_equal_iff (operand : Text) :
    (binary target .equal (.bind (.string operand))).holdsIn store row = true ↔
      content = some operand := by
  simp only [holdsIn, valueIn_equal, valueIn_bind, htarget, store.bound_string,
    store.truth?_operate_equal]
  simp only [beq_iff_eq, Option.map_eq_some_iff, exists_eq_right]

/-- It is a member of a list, which may be empty, exactly if it is there and in the list. -/
theorem holdsIn_memberOf_iff (operands : List Text) :
    (memberOf target (operands.map .string)).holdsIn store row = true ↔
      ∃ operand ∈ operands, content = some operand := by
  unfold memberOf
  split
  · next hempty =>
    obtain rfl : operands = [] := by simpa using hempty
    simp [holdsIn_alwaysFalse]
  · rw [holdsIn, valueIn_inList, htarget, valuesIn_map_bind,
      ← store.isAmong_ofText?_iff content operands, beq_iff_eq]
    cases store.isAmong (.ofText? content) (operands.map .text) <;> rfl

end Expression

end KeyPathQuery.Sql
