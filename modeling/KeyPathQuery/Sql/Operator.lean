import KeyPathQuery.Sql.Token

/-!
The operators of SQL between two operands, and how strongly each of them binds. An operator is
one sign, or one word; words are compared without regard to case.
-/

set_option autoImplicit false
set_option relaxedAutoImplicit false

namespace KeyPathQuery.Sql

namespace Token

/-- A word in capitals; nothing for the other tokens, and for a name between quotation marks. -/
def keyword? : Token → Option Text
  | .word text => some (text.map Char.toUpper)
  | _ => none

/-- Whether a token is one of some keywords, written in capitals. -/
def isOneOf (token : Token) (keywords : List String) : Bool :=
  match token.keyword? with
  | some capitals => keywords.any fun keyword ↦ keyword.toList == capitals
  | none => false

/-- Whether a token is one of some signs. -/
def isSignOf (token : Token) (marks : List String) : Bool :=
  match token with
  | .sign mark => marks.any fun other ↦ other.toList == mark
  | _ => false

/-- The strength of a sign between two operands. -/
def signStrength? (grammar : Grammar) (token : Token) : Option Nat :=
  let strengths := grammar.strengths
  if token.isSignOf ["=", "==", "<>", "!=", "<", "<=", ">", ">=", "<=>", "~", "~*", "!~", "!~*",
      "~~", "~~*", "!~~", "!~~*"] then some strengths.comparison
  else if token.isSignOf ["+", "-"] then some strengths.sum
  else if token.isSignOf ["*", "/", "%", "||"] then some strengths.product
  else if token.isSignOf ["->", "->>", "#>", "#>>", "@>", "<@", "#-", "@?", "@@", "?", "?|", "?&"]
    then some strengths.access
  else if token.isSignOf ["&", "|", "^"] then some strengths.bitwise
  else
    match token with
    | .sign mark =>
      if grammar.ownSigns.contains mark then some strengths.bitwise
      else if mark.all grammar.isOperatorPart && !signs.contains mark then some strengths.access
      else none
    | _ => none

end Token

/-- The words that no column of a projection takes for its name without AS. -/
def reservedColumnNames : List String :=
  ["WITH", "EXPLAIN", "ANALYZE", "SELECT", "WHERE", "GROUP", "SORT", "HAVING", "ORDER", "TOP",
    "LATERAL", "VIEW", "LIMIT", "OFFSET", "FETCH", "UNION", "EXCEPT", "INTERSECT", "CLUSTER",
    "DISTRIBUTE", "RETURNING", "FROM", "INTO", "END"]

/-- The words that no table takes for its other name without AS. -/
def reservedTableNames : List String :=
  ["WITH", "EXPLAIN", "ANALYZE", "SELECT", "WHERE", "GROUP", "SORT", "HAVING", "ORDER", "PIVOT",
    "UNPIVOT", "TOP", "LATERAL", "VIEW", "LIMIT", "OFFSET", "FETCH", "UNION", "EXCEPT",
    "INTERSECT", "ON", "JOIN", "INNER", "CROSS", "FULL", "LEFT", "RIGHT", "NATURAL", "USING",
    "CLUSTER", "DISTRIBUTE", "GLOBAL", "ANTI", "SEMI", "RETURNING", "ASOF", "MATCH_CONDITION",
    "OUTER", "SET", "QUALIFY", "WINDOW", "END", "FOR", "PARTITION", "PREWHERE", "SETTINGS",
    "FORMAT", "START", "CONNECT", "MATCH_RECOGNIZE"]

end KeyPathQuery.Sql
