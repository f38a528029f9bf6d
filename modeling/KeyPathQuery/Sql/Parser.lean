import KeyPathQuery.Sql.Acceptor

/-!
The parser of SQL behind the check of a query. Which texts are SQL is not for the query to say, so
a parser is a parameter wherever a text is checked: what it accepts, and the words that it keeps
for itself. `Parser.acceptor` is the parser of this library; it takes the SELECT statements that
`Sql.accepts` takes.
-/

set_option autoImplicit false
set_option relaxedAutoImplicit false

namespace KeyPathQuery.Sql

/-- A parser of SQL, as the check of a query uses it. -/
structure Parser where
  /-- Whether a text is SQL of a dialect. -/
  accepts : Dialect → Text → Bool
  /-- Whether a name is a word that the parser keeps for itself, in whatever case. -/
  isKeyword : Text → Bool

/-- The words that the grammars read as more than names. -/
def keywords : List String :=
  reservedColumnNames ++ reservedTableNames ++
    ["DISTINCT", "ALL", "NOT", "NULL", "TRUE", "FALSE", "UNKNOWN", "EXISTS", "INTERVAL", "STRUCT",
      "AND", "OR", "XOR", "IS", "LIKE", "ILIKE", "SIMILAR", "TO", "RLIKE", "REGEXP", "IN",
      "BETWEEN", "ESCAPE", "AS", "BY", "ASC", "DESC", "TABLE", "UNNEST"]

/-- Whether a name is a keyword, in whatever case. -/
def isKeyword (name : Text) : Bool :=
  (Token.word name).isOneOf keywords

/-- The parser that reads a text token by token. -/
def Parser.acceptor : Parser :=
  ⟨Sql.accepts, Sql.isKeyword⟩

end KeyPathQuery.Sql
