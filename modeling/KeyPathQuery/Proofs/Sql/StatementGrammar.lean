import KeyPathQuery.Proofs.Sql.TokenText
import KeyPathQuery.Sql.Parser

/-!
What a parser of SQL owes to the statements of this library. A statement is a list of symbols, and
a text spells it if the symbols stand in it one after another, with spaces between them or without
(`Spells`). The grammar says which lists of symbols are SELECT statements over one table
(`IsStatement`): a projection, a table, and perhaps a condition and an ordering. Operands and
operators take turns in its expressions, so it does not matter how strongly an operator binds.
Parsers give up where brackets are nested too deep, so the grammar bounds that too.

All stores share the grammar but for the placeholders: PostgreSQL numbers them and has no question
mark, and the other way round elsewhere. A name is an identifier that the parser does not keep for
itself. The strings are those that all stores take for the same content.

A parser reads statements (`Parser.ReadsStatements`) if it accepts every text that spells one. It
may accept any number of other texts.
-/

set_option autoImplicit false
set_option relaxedAutoImplicit false

namespace KeyPathQuery.Sql

/-! ### Symbols -/

/-- A symbol of a statement. -/
inductive Symbol where
  /-- A name, or a word of the grammar. -/
  | word (name : Text)
  | number (digit : Char)
  | string (content : Text)
  | placeholder (mark : Text)
  /-- A comma, a bracket or an asterisk. -/
  | punctuation (mark : Char)
  /-- The point between two names. -/
  | point
  /-- A sign between two operands. -/
  | operator (sign : Text)
deriving DecidableEq, Repr

namespace Symbol

/-- The text of a symbol. -/
def text : Symbol → Text
  | .word name => name
  | .number digit => [digit]
  | .string content => quote content
  | .placeholder mark => mark
  | .punctuation mark => [mark]
  | .point => ['.']
  | .operator sign => sign

/-- The characters that may stand right behind a symbol: those that are not taken for a part of
it. -/
def EndsBefore : Symbol → Char → Prop
  | .word _ => Token.endsWord
  | .number _ => (· ∈ Template.separators)
  | .string _ => (· ≠ '\'')
  | .placeholder _ => (· ∈ Template.separators)
  | .punctuation _ => Token.anything
  | .point => (isIdentifierStart · = true)
  | .operator _ => Token.startsOperand

/-- A value in a dialect. -/
inductive IsValue (dialect : Dialect) : Symbol → Prop
  | number {digit : Char} (hdigit : digit ∈ "0123456789".toList) : IsValue dialect (.number digit)
  | string {content : Text} (hcontent : Token.KeepsBackslashes content) :
    IsValue dialect (.string content)
  | numbered (hdialect : dialect = .sqlOperator) (place : Nat) :
    IsValue dialect (.placeholder ('$' :: Json.digits place))
  | questionMark (hdialect : dialect ≠ .sqlOperator) : IsValue dialect (.placeholder ['?'])

end Symbol

/-- A text spells symbols: they stand in it one after another, with any number of spaces between
them, and at least one where the next symbol would be taken for a part of the one before it. -/
inductive Spells : List Symbol → Text → Prop
  | nil : Spells [] []
  | space {symbols : List Symbol} {text : Text} (htext : Spells symbols text) :
    Spells symbols (' ' :: text)
  | cons {symbol : Symbol} {symbols : List Symbol} {text : Text}
    (hend : Token.GoesOnWith symbol.EndsBefore text) (htext : Spells symbols text) :
    Spells (symbol :: symbols) (symbol.text ++ text)

/-! ### The grammar -/

/-- Lists of symbols one after another with commas between neighbours. -/
def commaSeparated : List (List Symbol) → List Symbol
  | [] => []
  | [part] => part
  | part :: next :: parts => part ++ .punctuation ',' :: commaSeparated (next :: parts)

/-- The functions on JSON values that statements call. -/
def jsonFunctions : List Text :=
  ["JSON_EXTRACT", "JSON_UNQUOTE", "JSON_CONTAINS_PATH", "JSON_TYPE"].map String.toList

/-- How deep brackets are nested in the expressions of a statement, at most. -/
def nesting : Nat := 3

section

variable (isKeyword : Text → Bool) (dialect : Dialect)

/-- The name of a column or a table, which may be qualified by another name. -/
inductive IsName : List Symbol → Prop
  | plain {name : Text} (hname : isIdentifier name = true) (hfree : isKeyword name = false) :
    IsName [.word name]
  | qualified {qualifier name : Text} (hqualifier : isIdentifier qualifier = true)
    (hqualifierFree : isKeyword qualifier = false) (hname : isIdentifier name = true)
    (hfree : isKeyword name = false) : IsName [.word qualifier, .point, .word name]

/-- An expression with brackets nested no deeper than a depth. -/
inductive IsExpression : Nat → List Symbol → Prop
  | name {depth : Nat} {symbols : List Symbol} (hname : IsName isKeyword symbols) :
    IsExpression depth symbols
  | value {depth : Nat} {symbol : Symbol} (hvalue : symbol.IsValue dialect) :
    IsExpression depth [symbol]
  | call {depth : Nat} {function : Text} {arguments : List (List Symbol)}
    (hfunction : function ∈ jsonFunctions) (hne : arguments ≠ [])
    (harguments : ∀ argument ∈ arguments, IsExpression depth argument) :
    IsExpression (depth + 1) (.word function :: .punctuation '(' ::
      (commaSeparated arguments ++ [.punctuation ')']))
  | nested {depth : Nat} {inner : List Symbol} (hinner : IsExpression depth inner) :
    IsExpression (depth + 1) (.punctuation '(' :: (inner ++ [.punctuation ')']))
  /-- A comparison, or a step into a JSON value. -/
  | operator {depth : Nat} {left right : List Symbol} {sign : Text}
    (hsign : sign ∈ Token.binarySigns) (hleft : IsExpression depth left)
    (hright : IsExpression depth right) : IsExpression depth (left ++ .operator sign :: right)
  | and {depth : Nat} {left right : List Symbol} (hleft : IsExpression depth left)
    (hright : IsExpression depth right) :
    IsExpression depth (left ++ .word "AND".toList :: right)
  | like {depth : Nat} {target : List Symbol} {pattern : Symbol} {escape : Char}
    (htarget : IsExpression depth target) (hpattern : pattern.IsValue dialect)
    (hescape : escape ≠ '\\') :
    IsExpression depth (target ++
      [.word "LIKE".toList, pattern, .word "ESCAPE".toList, .string [escape]])
  | inList {depth : Nat} {target : List Symbol} {items : List (List Symbol)}
    (htarget : IsExpression (depth + 1) target) (hne : items ≠ [])
    (hitems : ∀ item ∈ items, IsExpression depth item) :
    IsExpression (depth + 1) (target ++ .word "IN".toList :: .punctuation '(' ::
      (commaSeparated items ++ [.punctuation ')']))
  | isNotNull {depth : Nat} {operand : List Symbol} (hoperand : IsExpression depth operand) :
    IsExpression depth (operand ++ [.word "IS".toList, .word "NOT".toList, .word "NULL".toList])

/-- An item of a projection. -/
inductive IsItem : List Symbol → Prop
  | wildcard : IsItem [.punctuation '*']
  | expression {symbols : List Symbol}
    (hexpression : IsExpression isKeyword dialect nesting symbols) : IsItem symbols
  | named {symbols : List Symbol} {name : Text}
    (hexpression : IsExpression isKeyword dialect nesting symbols)
    (hname : isIdentifier name = true) (hfree : isKeyword name = false) :
    IsItem (symbols ++ [.word "AS".toList, .word name])

/-- An item of an ordering. -/
inductive IsOrderItem : List Symbol → Prop
  | directed {symbols : List Symbol} (direction : Direction)
    (hexpression : IsExpression isKeyword dialect nesting symbols) :
    IsOrderItem (symbols ++ [.word direction.name])

/-- A condition, if there is one. -/
inductive IsConditionClause : List Symbol → Prop
  | none : IsConditionClause []
  | some {symbols : List Symbol} (hexpression : IsExpression isKeyword dialect nesting symbols) :
    IsConditionClause (.word "WHERE".toList :: symbols)

/-- An ordering, if there is one. -/
inductive IsOrderingClause : List Symbol → Prop
  | none : IsOrderingClause []
  | some {items : List (List Symbol)} (hne : items ≠ [])
    (hitems : ∀ item ∈ items, IsOrderItem isKeyword dialect item) :
    IsOrderingClause (.word "ORDER".toList :: .word "BY".toList :: commaSeparated items)

/-- A SELECT statement over one table. -/
inductive IsStatement : List Symbol → Prop
  | intro {items : List (List Symbol)} {table condition ordering : List Symbol} (hne : items ≠ [])
    (hitems : ∀ item ∈ items, IsItem isKeyword dialect item) (htable : IsName isKeyword table)
    (hcondition : IsConditionClause isKeyword dialect condition)
    (hordering : IsOrderingClause isKeyword dialect ordering) :
    IsStatement (.word "SELECT".toList :: (commaSeparated items ++
      .word "FROM".toList :: (table ++ (condition ++ ordering))))

end

/-! ### Parsers -/

/-- A parser accepts the statements of the grammar, however they are spelled. -/
structure Parser.ReadsStatements (parser : Parser) : Prop where
  accepts_of_spells : ∀ {dialect : Dialect} {symbols : List Symbol} {text : Text},
    IsStatement parser.isKeyword dialect symbols → Spells symbols text →
      parser.accepts dialect text = true

end KeyPathQuery.Sql
