import KeyPathQuery.Dialect
import KeyPathQuery.Sql.Literal

/-!
The text of SQL expressions and statements. Values from callers are written in one of three
styles: as question marks, as numbered placeholders, or as literals. In the first two styles the
values are collected beside the text, in the order of their placeholders.

A part of a statement is written knowing how many values were collected before it, which is all
that numbering needs: `Written` is that function, and `Written.append` puts one part after
another.
-/

set_option autoImplicit false
set_option relaxedAutoImplicit false

namespace KeyPathQuery.Sql

/-- How values from callers are written. -/
inductive PlaceholderStyle where
  /-- Every value as a question mark. -/
  | questionMark
  /-- The values as a dollar sign with their number, from one on. -/
  | numbered
  /-- Every value as a literal. -/
  | inline
deriving DecidableEq, Repr

/-- The style that the stores of a dialect expect. -/
def PlaceholderStyle.ofDialect : Dialect → PlaceholderStyle
  | .sqlOperator => .numbered
  | _ => .questionMark

/-- A text with the values that its placeholders refer to. -/
structure Compiled where
  sql : Text
  bindings : List Json
deriving Repr, Inhabited

/-- A part of a statement, given the number of values collected before it. -/
abbrev Written := Nat → Compiled

namespace Written

/-- A part without values. -/
def text (chars : Text) : Written :=
  fun _ ↦ ⟨chars, []⟩

/-- The part that stands for one value. -/
def value (style : PlaceholderStyle) (content : Json) : Written :=
  fun before ↦
    match style with
    | .questionMark => ⟨['?'], [content]⟩
    | .numbered => ⟨'$' :: Json.digits (before + 1), [content]⟩
    | .inline => ⟨inlineText content, []⟩

/-- One part after another. -/
def append (first second : Written) : Written :=
  fun before ↦
    let left := first before
    let right := second (before + left.bindings.length)
    ⟨left.sql ++ right.sql, left.bindings ++ right.bindings⟩

instance : Append Written := ⟨append⟩

/-- Parts one after another with a text between neighbours. -/
def join (mark : Text) : List Written → Written
  | [] => text []
  | [part] => part
  | part :: next :: parts => part ++ text mark ++ join mark (next :: parts)

theorem append_assoc (first second third : Written) :
    first ++ second ++ third = first ++ (second ++ third) := by
  funext before
  change append (append first second) third before = append first (append second third) before
  simp [append, Nat.add_assoc]

end Written

/-- The text of an operator. -/
def BinaryOperator.text : BinaryOperator → Text
  | .equal => "=".toList
  | .notEqual => "<>".toList
  | .less => "<".toList
  | .lessOrEqual => "<=".toList
  | .greater => ">".toList
  | .greaterOrEqual => ">=".toList
  | .and => "AND".toList
  | .custom operator => operator

/-- A name with the name it is qualified by, if there is one. -/
def qualifiedText (qualifier : Option Text) (name : Text) : Text :=
  match qualifier with
  | some qualifier => qualifier ++ ['.'] ++ name
  | none => name

mutual

/-- An expression as a part of a statement. -/
def Expression.written (style : PlaceholderStyle) : Expression → Written
  | .column table name => .text (qualifiedText table name)
  | .literal value => .text value.text
  | .bind value => .value style value
  | .binary left operator right =>
    left.written style ++ .text ([' '] ++ operator.text ++ [' ']) ++ right.written style
  | .call function arguments =>
    .text (function ++ ['(']) ++ .join ", ".toList (writtenList style arguments) ++ .text [')']
  | .like target pattern escape =>
    target.written style ++ .text " LIKE ".toList ++ pattern.written style ++
      .text (" ESCAPE ".toList ++ quote [escape])
  | .inList target items =>
    target.written style ++ .text " IN (".toList ++
      .join ", ".toList (writtenList style items) ++ .text [')']
  | .isNotNull operand => operand.written style ++ .text " IS NOT NULL".toList
  | .jsonAccess target path asText =>
    target.written style ++ .text (if asText then "->>".toList else "->".toList) ++
      path.written style
  | .nested inner => .text ['('] ++ inner.written style ++ .text [')']

/-- Expressions as parts of a statement. -/
def Expression.writtenList (style : PlaceholderStyle) : List Expression → List Written
  | [] => []
  | expression :: rest => expression.written style :: writtenList style rest

end

/-- An item of a projection as a part of a statement. -/
def SelectItem.written (style : PlaceholderStyle) : SelectItem → Written
  | .wildcard => .text ['*']
  | .expression content none => content.written style
  | .expression content (some name) => content.written style ++ .text (" AS ".toList ++ name)

/-- What follows the expression of an ordering item. -/
def directionSuffix : Option Direction → Text
  | some direction => ' ' :: direction.name
  | none => []

/-- An item of an ordering as a part of a statement. -/
def OrderItem.written (style : PlaceholderStyle) (item : OrderItem) : Written :=
  item.expression.written style ++ .text (directionSuffix item.direction)

/-- The text of a table. -/
def Table.text (table : Table) : Text :=
  qualifiedText table.schema table.name

namespace Select

/-- The projection; without items, every column. -/
def projectionWritten (style : PlaceholderStyle) (select : Select) : Written :=
  .text "SELECT ".toList ++
    if select.projections.isEmpty then .text ['*']
    else .join ", ".toList (select.projections.map (·.written style))

/-- The tables, if there are any. -/
def tablesWritten (select : Select) : List Written :=
  if select.tables.isEmpty then []
  else [.text ("FROM ".toList ++ Text.join ", ".toList (select.tables.map Table.text))]

/-- The condition, if there is one. -/
def conditionWritten (style : PlaceholderStyle) (select : Select) : List Written :=
  match select.condition with
  | some condition => [.text "WHERE ".toList ++ condition.written style]
  | none => []

/-- The ordering, if it has items. -/
def orderingWritten (style : PlaceholderStyle) (select : Select) : List Written :=
  if select.ordering.isEmpty then []
  else
    [.text "ORDER BY ".toList ++ .join ", ".toList (select.ordering.map (·.written style))]

/-- A statement: its clauses with a space between neighbours. -/
def written (style : PlaceholderStyle) (select : Select) : Written :=
  .join [' '] (select.projectionWritten style :: (select.tablesWritten ++
    select.conditionWritten style ++ select.orderingWritten style))

/-- The text of a statement, with its values. -/
def compile (style : PlaceholderStyle) (select : Select) : Compiled :=
  select.written style 0

end Select

/-- The text of an expression by itself, with its values. -/
def Expression.compile (style : PlaceholderStyle) (expression : Expression) : Compiled :=
  expression.written style 0

/-- The text of an ordering item by itself, with its values. -/
def OrderItem.compile (style : PlaceholderStyle) (item : OrderItem) : Compiled :=
  item.written style 0

/-- The text of a projection item by itself, with its values. -/
def SelectItem.compile (style : PlaceholderStyle) (item : SelectItem) : Compiled :=
  item.written style 0

end KeyPathQuery.Sql
