import KeyPathQuery.Sql.Operator

/-!
Whether a text is SQL of the shape that queries are compiled to: SELECT statements over tables
without joins, with a condition and an ordering, separated by semicolons. The text is read token
by token. A state holds the clause that is being read, a stack of the brackets that are open, and
what may come next; a text is accepted when every token of it fits and it ends where a statement
may end. `Sql.accepts` is the test.

Main statement: `Acceptor.run_append` says that tokens may be read in parts.
-/

set_option autoImplicit false
set_option relaxedAutoImplicit false

namespace KeyPathQuery.Sql

/-- The clause of a SELECT statement that is being read. -/
inductive Clause where
  | projection
  | tables
  | condition
  | ordering
deriving DecidableEq, Repr

/-- What stands between two brackets. -/
inductive Bracket where
  /-- An expression, or several separated by commas. -/
  | group
  /-- The arguments of a function. -/
  | arguments
  /-- The members of an IN list. -/
  | members
deriving DecidableEq, Repr

/-- An expression as far as it has been read, up to the brackets around it. -/
structure Level where
  /-- The brackets around the expression, unless it stands in a clause by itself. -/
  bracket : Option Bracket
  /-- Whether the pattern of a LIKE has been read, and not yet its escape character. -/
  escapeOpen : Bool
  /-- Whether a BETWEEN has been read, and not yet its AND. -/
  rangeOpen : Bool
deriving DecidableEq, Repr

/-- What may come next. -/
inductive Expectation where
  /-- A statement, or the end. -/
  | statement
  /-- What follows SELECT. -/
  | selectStart
  /-- A column of the projection. -/
  | item
  | operand
  /-- An operand after NOT, or what follows a column of that name. -/
  | negated
  /-- What follows a name that may be qualified further, or called. -/
  | afterName
  | afterPoint
  | afterOperand
  /-- The first argument of a call, or its end. -/
  | firstArgument
  | argument
  /-- What follows an asterisk as an argument. -/
  | afterArgument
  /-- The name of a column after AS. -/
  | itemName
  | afterItem
  | tableName
  /-- The name of a table after that of its schema. -/
  | qualifiedTableName
  | afterTableName
  /-- The other name of a table after AS. -/
  | otherTableName
  | afterTable
  /-- What follows IS. -/
  | test
  /-- What follows IS NOT. -/
  | negatedTest
  /-- FROM after IS DISTINCT. -/
  | distinctFrom
  /-- The operator after NOT. -/
  | negatedOperator
  /-- TO after SIMILAR. -/
  | similarTo
  /-- The bracket after IN. -/
  | membersStart
  /-- The escape character of a pattern. -/
  | escapeCharacter
  /-- BY after ORDER. -/
  | orderBy
  | afterDirection
deriving DecidableEq, Repr

/-- A text as far as it has been read. -/
structure Acceptor where
  clause : Clause
  level : Level
  /-- The expressions around the innermost open bracket, from the inside out. -/
  enclosing : List Level
  expectation : Expectation
deriving Repr

/-- An expression of which nothing has been read. -/
def Level.start (bracket : Option Bracket) : Level :=
  ⟨bracket, false, false⟩

namespace Acceptor

/-- Nothing has been read. -/
def start : Acceptor :=
  ⟨.projection, Level.start none, [], .statement⟩

/-- The state in which something else may come next. -/
def expect (state : Acceptor) (expectation : Expectation) : Acceptor :=
  { state with expectation := expectation }

/-- A new clause. -/
def enter (state : Acceptor) (clause : Clause) (expectation : Expectation) : Acceptor :=
  { state with clause := clause, level := Level.start none, expectation := expectation }

/-- A new bracket. -/
def openBracket (state : Acceptor) (bracket : Bracket) (expectation : Expectation) : Acceptor :=
  { state with
    level := Level.start (some bracket)
    enclosing := state.level :: state.enclosing
    expectation := expectation }

/-- The end of the innermost bracket. A BETWEEN without its AND does not end there. -/
def closeBracket? (state : Acceptor) : Option Acceptor :=
  match state.level.bracket, state.enclosing with
  | some _, outer :: enclosing =>
    if state.level.rangeOpen then none
    else
      some { state with level := outer, enclosing := enclosing, expectation := .afterOperand }
  | _, _ => none

/-- An operator between two operands. The limits of a BETWEEN hold stronger operators only, and
so does the pattern of a LIKE; a weaker one ends the pattern. -/
def operator? (grammar : Grammar) (state : Acceptor) (strength : Nat)
    (expectation : Expectation) : Option Acceptor :=
  if state.level.rangeOpen && decide (strength ≤ grammar.strengths.range) then none
  else
    some { state with
      level :=
        { state.level with
          escapeOpen := state.level.escapeOpen && decide (grammar.strengths.like < strength) }
      expectation := expectation }

/-- An operator whose right side is a pattern that may name its escape character. -/
def patternOperator? (grammar : Grammar) (state : Acceptor) (expectation : Expectation) :
    Option Acceptor :=
  (state.operator? grammar grammar.strengths.like expectation).map fun next ↦
    { next with level := { next.level with escapeOpen := true } }

/-- The operators that may be negated. -/
def testOperator? (grammar : Grammar) (state : Acceptor) (token : Token) : Option Acceptor :=
  if token.isOneOf ["LIKE", "ILIKE"] then state.patternOperator? grammar .operand
  else if token.isOneOf ["SIMILAR"] then state.patternOperator? grammar .similarTo
  else if token.isOneOf ["RLIKE", "REGEXP"] then
    state.operator? grammar grammar.strengths.like .operand
  else if token.isOneOf ["IN"] then state.operator? grammar grammar.strengths.range .membersStart
  else if token.isOneOf ["BETWEEN"] then
    (state.operator? grammar grammar.strengths.range .operand).map fun next ↦
      { next with level := { next.level with rangeOpen := true } }
  else none

/-- A word between two operands. -/
def wordOperator? (grammar : Grammar) (state : Acceptor) (token : Token) : Option Acceptor :=
  if token.isOneOf ["AND"] then
    if state.level.rangeOpen then
      some { state with level := { state.level with rangeOpen := false }, expectation := .operand }
    else state.operator? grammar grammar.strengths.conjunction .operand
  else if token.isOneOf ["OR", "XOR"] then
    state.operator? grammar grammar.strengths.disjunction .operand
  else if token.isOneOf ["IS"] then state.operator? grammar grammar.strengths.isTest .test
  else if token.isOneOf ["NOT"] then some (state.expect .negatedOperator)
  else if state.level.escapeOpen && token.isOneOf ["ESCAPE"] then
    some { state with
      level := { state.level with escapeOpen := false }, expectation := .escapeCharacter }
  else state.testOperator? grammar token

/-- What ends an expression, a table or a name that stands in a clause by itself. -/
def clauseEnd? (state : Acceptor) (token : Token) : Option Acceptor :=
  let beforeCondition := state.clause == .projection || state.clause == .tables
  if token.isSignOf [";"] then some (state.enter .projection .statement)
  else if token.isOneOf ["FROM"] && state.clause == .projection then
    some (state.enter .tables .tableName)
  else if token.isOneOf ["WHERE"] && beforeCondition then some (state.enter .condition .operand)
  else if token.isOneOf ["ORDER"] && state.clause != .ordering then
    some (state.enter .ordering .orderBy)
  else none

/-- A comma, and what may follow it. -/
def comma? (state : Acceptor) : Option Acceptor :=
  let next (expectation : Expectation) :=
    some { state with level := Level.start state.level.bracket, expectation := expectation }
  match state.level.bracket, state.clause with
  | some .arguments, _ => next .argument
  | some _, _ => next .operand
  | none, .projection => next .item
  | none, .tables => next .tableName
  | none, .ordering => next .operand
  | none, .condition => none

/-- Where a value is expected. -/
def operand? (grammar : Grammar) (state : Acceptor) (token : Token) : Option Acceptor :=
  match token with
  | .word text =>
    if grammar.reservedOperands.contains (text.map Char.toUpper) then none
    else if token.isOneOf ["NOT"] then some (state.expect .negated)
    else if token.isOneOf ["NULL", "TRUE", "FALSE"] then some (state.expect .afterOperand)
    else some (state.expect .afterName)
  | .quotedName => some (state.expect .afterName)
  | .sign mark =>
    if mark == ['('] then some (state.openBracket .group .operand)
    else if grammar.valueSigns.contains mark then some (state.expect .operand)
    else none
  | _ => some (state.expect .afterOperand)

/-- What follows a complete expression: an operator, or what ends it. -/
def afterOperand? (grammar : Grammar) (state : Acceptor) (token : Token) : Option Acceptor :=
  match token.signStrength? grammar with
  | some strength => state.operator? grammar strength .operand
  | none =>
    if token.isSignOf [")"] then state.closeBracket?
    else
      match state.wordOperator? grammar token with
      | some next => some next
      | none =>
        if state.level.rangeOpen then none
        else if token.isSignOf [","] then state.comma?
        else if state.level.bracket.isSome then none
        else
          match state.clauseEnd? token with
          | some next => some next
          | none =>
            match state.clause with
            | .projection =>
              if token.isOneOf ["AS"] then some (state.expect .itemName)
              else
                match token with
                | .word _ =>
                  if token.isOneOf reservedColumnNames then none
                  else some (state.expect .afterItem)
                | .quotedName => some (state.expect .afterItem)
                | .string => some (state.expect .afterItem)
                | _ => none
            | .ordering =>
              if token.isOneOf ["ASC", "DESC"] then some (state.expect .afterDirection) else none
            | _ => none

/-- What follows a complete column or table, or a direction. -/
def afterPart? (state : Acceptor) (token : Token) : Option Acceptor :=
  if token.isSignOf [","] then state.comma? else state.clauseEnd? token

/-- Where a name is expected, whatever word it is. -/
def name? (state : Acceptor) (token : Token) (expectation : Expectation) : Option Acceptor :=
  match token with
  | .word _ => some (state.expect expectation)
  | .quotedName => some (state.expect expectation)
  | .string => some (state.expect expectation)
  | _ => none

/-- Where a table is expected. -/
def table? (grammar : Grammar) (state : Acceptor) (token : Token) : Option Acceptor :=
  match token.keyword? with
  | some capitals =>
    if grammar.reservedTables.contains capitals then none else some (state.expect .afterTableName)
  | none => state.name? token .afterTableName

/-- The state after one token more. -/
def step (grammar : Grammar) (state : Acceptor) (token : Token) : Option Acceptor :=
  match state.expectation with
  | .statement =>
    if token.isSignOf [";"] then some state
    else if token.isOneOf ["SELECT"] then some (state.enter .projection .selectStart)
    else none
  | .selectStart =>
    if token.isOneOf ["DISTINCT", "ALL"] then some (state.expect .item)
    else if token.isSignOf ["*"] then some (state.expect .afterItem)
    else if token.isOneOf ["FROM"] then none
    else state.operand? grammar token
  | .item =>
    if token.isSignOf ["*"] then some (state.expect .afterItem)
    else if token.isOneOf ["FROM"] then none
    else state.operand? grammar token
  | .operand => state.operand? grammar token
  | .negated =>
    match state.operand? grammar token with
    | some next => some next
    | none => state.afterOperand? grammar token
  | .afterName =>
    if token.isSignOf ["."] then some (state.expect .afterPoint)
    else if token.isSignOf ["("] then some (state.openBracket .arguments .firstArgument)
    else state.afterOperand? grammar token
  | .afterPoint =>
    if token.isSignOf ["*"] then
      match state.level.bracket with
      | none => if state.clause = .projection then some (state.expect .afterItem) else none
      | some .arguments => some (state.expect .afterArgument)
      | some _ => none
    else state.name? token .afterName
  | .afterOperand => state.afterOperand? grammar token
  | .firstArgument =>
    if token.isSignOf [")"] then state.closeBracket?
    else if token.isSignOf ["*"] then some (state.expect .afterArgument)
    else state.operand? grammar token
  | .argument =>
    if token.isSignOf ["*"] then some (state.expect .afterArgument)
    else state.operand? grammar token
  | .afterArgument =>
    if token.isSignOf [")"] then state.closeBracket?
    else if token.isSignOf [","] then state.comma?
    else none
  | .itemName => state.name? token .afterItem
  | .afterItem => state.afterPart? token
  | .tableName => state.table? grammar token
  | .qualifiedTableName => state.name? token .afterTableName
  | .afterTableName =>
    if token.isSignOf ["."] then some (state.expect .qualifiedTableName)
    else if token.isOneOf ["AS"] then some (state.expect .otherTableName)
    else
      match state.afterPart? token with
      | some next => some next
      | none => if token.isOneOf reservedTableNames then none else state.name? token .afterTable
  | .otherTableName => state.name? token .afterTable
  | .afterTable => state.afterPart? token
  | .test =>
    if token.isOneOf ["NOT"] then some (state.expect .negatedTest)
    else if token.isOneOf ["NULL", "TRUE", "FALSE", "UNKNOWN"] then
      some (state.expect .afterOperand)
    else if token.isOneOf ["DISTINCT"] then some (state.expect .distinctFrom)
    else none
  | .negatedTest =>
    if token.isOneOf ["NULL", "TRUE", "FALSE", "UNKNOWN"] then some (state.expect .afterOperand)
    else if token.isOneOf ["DISTINCT"] then some (state.expect .distinctFrom)
    else none
  | .distinctFrom => if token.isOneOf ["FROM"] then some (state.expect .operand) else none
  | .negatedOperator => state.testOperator? grammar token
  | .similarTo => if token.isOneOf ["TO"] then some (state.expect .operand) else none
  | .membersStart =>
    if token.isSignOf ["("] then some (state.openBracket .members .operand) else none
  | .escapeCharacter =>
    match token with
    | .string => some (state.expect .afterOperand)
    | _ => none
  | .orderBy => if token.isOneOf ["BY"] then some (state.expect .operand) else none
  | .afterDirection => state.afterPart? token

/-- Whether the text may end. -/
def mayEnd (state : Acceptor) : Bool :=
  !state.level.rangeOpen && state.enclosing.isEmpty &&
    match state.expectation with
    | .statement => true
    | .negated => true
    | .afterName => true
    | .afterOperand => true
    | .afterItem => true
    | .afterTableName => true
    | .afterTable => true
    | .afterDirection => true
    | _ => false

/-- The state after the tokens of a text. -/
def run (grammar : Grammar) (state : Acceptor) (tokens : List Token) : Option Acceptor :=
  tokens.foldlM (step grammar) state

theorem run_append (grammar : Grammar) (state : Acceptor) (first second : List Token) :
    state.run grammar (first ++ second) = (state.run grammar first).bind (·.run grammar second) :=
  List.foldlM_append

end Acceptor

/-- Whether a text is SQL of a dialect. -/
def accepts (dialect : Dialect) (text : Text) : Bool :=
  let grammar := Grammar.ofDialect dialect
  match Token.ofText? grammar text with
  | some tokens => ((Acceptor.start.run grammar tokens).map Acceptor.mayEnd).getD false
  | none => false

end KeyPathQuery.Sql
