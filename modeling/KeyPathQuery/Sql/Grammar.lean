import KeyPathQuery.Dialect
import KeyPathQuery.Text.Alphabetic
import KeyPathQuery.Text.Blank

/-!
What the SQL of one store has of its own: the characters of words, the kinds of quotation marks,
the meaning of a backslash and of a question mark, and how strongly operators bind. The rest of
the grammar is shared.
-/

set_option autoImplicit false
set_option relaxedAutoImplicit false

namespace KeyPathQuery.Sql

/-- How strongly the operators of a grammar bind; a greater number binds more strongly. -/
structure Strengths where
  disjunction : Nat
  conjunction : Nat
  isTest : Nat
  /-- Arrows, containment and the other operators on JSON values. -/
  access : Nat
  like : Nat
  comparison : Nat
  /-- BETWEEN and IN. -/
  range : Nat
  bitwise : Nat
  sum : Nat
  product : Nat

/-- The SQL of a store. -/
structure Grammar where
  isWordStart : Char → Bool
  isWordPart : Char → Bool
  /-- The quotation marks of names. -/
  nameQuotes : Text
  /-- Whether double quotation marks enclose strings. -/
  doubleQuotesStrings : Bool
  /-- Whether a backslash in a string takes the next character literally. -/
  backslashEscapes : Bool
  /-- Whether a number sign starts a comment. -/
  hashComments : Bool
  /-- Whether two hyphens start a comment only before a space. -/
  commentNeedsSpace : Bool
  /-- Whether a word may start with digits. -/
  digitsStartWords : Bool
  /-- Whether a question mark is a placeholder, and not an operator. -/
  questionMarkBinds : Bool
  /-- The characters that may follow one another in an operator of the user's own. -/
  isOperatorPart : Char → Bool
  /-- The signs that are operators in this grammar and not in every one. -/
  ownSigns : List Text
  /-- The signs that may stand before a value. -/
  valueSigns : List Text
  /-- Words that are no column of a query. -/
  reservedOperands : List Text
  /-- Words that are no table by themselves, because they start a table of another kind. -/
  reservedTables : List Text
  strengths : Strengths

namespace Grammar

/-- The strengths of stores in which operators on JSON values bind loosely. -/
def looseAccess : Strengths where
  disjunction := 5
  conjunction := 10
  access := 16
  isTest := 17
  like := 19
  comparison := 20
  range := 20
  bitwise := 22
  sum := 30
  product := 40

/-- The strengths of stores in which operators on JSON values bind tightly. -/
def tightAccess : Strengths where
  disjunction := 10
  conjunction := 20
  isTest := 40
  comparison := 50
  like := 60
  range := 60
  access := 70
  bitwise := 70
  sum := 80
  product := 90

/-- The SQL of MySQL. -/
def mysql : Grammar where
  isWordStart := fun c ↦ c.isAlpha || c == '_' || c == '$' || c == '@' ||
    (decide (0x80 ≤ c.toNat) && decide (c.toNat ≤ 0xFFFF))
  isWordPart := fun c ↦ c.isAlphanum || c == '_' || c == '$' || c == '@' ||
    (decide (0x80 ≤ c.toNat) && decide (c.toNat ≤ 0xFFFF))
  nameQuotes := ['\x60']
  doubleQuotesStrings := true
  backslashEscapes := true
  hashComments := true
  commentNeedsSpace := true
  digitsStartWords := true
  questionMarkBinds := true
  isOperatorPart := fun _ ↦ false
  ownSigns := []
  valueSigns := ["+", "-"].map String.toList
  reservedOperands := ["EXISTS", "INTERVAL"].map String.toList
  reservedTables := ["TABLE", "LATERAL"].map String.toList
  strengths := looseAccess

/-- The SQL of PostgreSQL. -/
def postgres : Grammar where
  isWordStart := fun c ↦ c.isAlpha || c == '_' || decide (0x80 ≤ c.toNat)
  isWordPart := fun c ↦ c.isAlphanum || c == '_' || c == '$' || decide (0x80 ≤ c.toNat)
  nameQuotes := ['"']
  doubleQuotesStrings := false
  backslashEscapes := false
  hashComments := false
  commentNeedsSpace := false
  digitsStartWords := false
  questionMarkBinds := false
  isOperatorPart := fun c ↦ "+-*/<>=~!@#%^&|\x60?".toList.contains c
  ownSigns := ["<<", ">>", "&&", "^@", "#"].map String.toList
  valueSigns := ["+", "-", "~", "@", "!!", "|/", "||/"].map String.toList
  reservedOperands := ["EXISTS"].map String.toList
  reservedTables := ["TABLE", "LATERAL", "UNNEST"].map String.toList
  strengths := tightAccess

/-- SQL that no store in particular understands. -/
def standard : Grammar where
  isWordStart := fun c ↦ Text.isAlphabetic c || c == '_' || c == '#' || c == '@'
  isWordPart := fun c ↦ Text.isAlphabetic c || c.isDigit || c == '_' || c == '#' || c == '@' ||
    c == '$'
  nameQuotes := ['"', '\x60']
  doubleQuotesStrings := false
  backslashEscapes := false
  hashComments := false
  commentNeedsSpace := false
  digitsStartWords := false
  questionMarkBinds := true
  isOperatorPart := fun _ ↦ false
  ownSigns := ["<<", ">>", "&&", "^@"].map String.toList
  valueSigns := ["+", "-"].map String.toList
  reservedOperands := ["EXISTS", "INTERVAL", "STRUCT"].map String.toList
  reservedTables := ["TABLE", "LATERAL", "UNNEST"].map String.toList
  strengths := looseAccess

/-- The SQL of a dialect. -/
def ofDialect : Dialect → Grammar
  | .sqlFunction => mysql
  | .sqlOperator => postgres
  | .document => standard
  | .generic => standard

end Grammar

end KeyPathQuery.Sql
