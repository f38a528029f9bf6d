import KeyPathQuery.Direction
import KeyPathQuery.Json.Basic
import KeyPathQuery.KeyPath

/-!
SQL expressions, as far as key-path queries need them, and the parts of a SELECT statement made
of them. A value from a caller is always a `bind`; literals are for the fixed parts of an
expression, such as the legs of a JSON path.
-/

set_option autoImplicit false
set_option relaxedAutoImplicit false

namespace KeyPathQuery.Sql

/-- A constant in an expression. -/
inductive Literal where
  | boolean (value : Bool)
  | integer (value : Int)
  | string (content : Text)
deriving DecidableEq, Repr

/-- An operator between two expressions. -/
inductive BinaryOperator where
  | equal
  | notEqual
  | less
  | lessOrEqual
  | greater
  | greaterOrEqual
  | and
  /-- An operator given by its text. -/
  | custom (operator : Text)
deriving DecidableEq, Repr

/-- A SQL expression. -/
inductive Expression where
  /-- A column, with its table if that is named. -/
  | column (table : Option Text) (name : Text)
  | literal (value : Literal)
  /-- A value from a caller, kept out of the text of the statement. -/
  | bind (value : Json)
  | binary (left : Expression) (operator : BinaryOperator) (right : Expression)
  | call (function : Text) (arguments : List Expression)
  /-- A match with a pattern in which a character takes the next one literally. -/
  | like (target pattern : Expression) (escape : Char)
  | inList (target : Expression) (items : List Expression)
  | isNotNull (operand : Expression)
  /-- A step into a JSON value, which gives a JSON value or a text. -/
  | jsonAccess (target path : Expression) (asText : Bool)
  /-- An expression in parentheses. -/
  | nested (inner : Expression)
deriving Repr, Inhabited

namespace Expression

/-- A string literal. -/
def string (content : Text) : Expression :=
  .literal (.string content)

/-- The column of a key path. -/
def rootColumn (path : KeyPath) : Expression :=
  .column path.column.1 path.column.2

/-- A predicate that no row satisfies. -/
def alwaysFalse : Expression :=
  .binary (.literal (.integer 1)) .equal (.literal (.integer 0))

/-- Membership in a list of values; no row satisfies membership in the empty list. -/
def memberOf (target : Expression) (values : List Json) : Expression :=
  if values.isEmpty then alwaysFalse else .inList target (values.map .bind)

end Expression

/-- An item of a projection. -/
inductive SelectItem where
  /-- Every column. -/
  | wildcard
  /-- An expression, with the name of its values if one is given. -/
  | expression (content : Expression) (resultName : Option Text)
deriving Repr

/-- A column of a projection, the table before the first point. -/
def SelectItem.ofColumnName (name : Text) : SelectItem :=
  match name.cut ['.'] with
  | some (table, column) => .expression (.column (some table) column) none
  | none => .expression (.column none name) none

/-- A table, with its schema if that is named. -/
structure Table where
  schema : Option Text
  name : Text
deriving DecidableEq, Repr

/-- The table that a text names, the schema before the first point. -/
def Table.ofText (text : Text) : Table :=
  match text.cut ['.'] with
  | some (schema, name) => ⟨some schema, name⟩
  | none => ⟨none, text⟩

/-- An item of an ordering, with its direction if one is given. -/
structure OrderItem where
  expression : Expression
  direction : Option Direction
deriving Repr

/-- A SELECT statement. -/
structure Select where
  projections : List SelectItem := []
  tables : List Table := []
  condition : Option Expression := none
  ordering : List OrderItem := []
deriving Repr

/-- Adds a predicate to the condition of a statement, joined by AND to the one it has. -/
def Select.andWhere (select : Select) (predicate : Expression) : Select :=
  match select.condition with
  | some existing => { select with condition := some (.binary existing .and predicate) }
  | none => { select with condition := some predicate }

end KeyPathQuery.Sql
