import KeyPathQuery.Json.Writer
import KeyPathQuery.Sql.Expression

/-!
SQL literals. A string stands between single quotes, and a quote inside it is written twice. A
value written into a statement, for display, becomes one literal: arrays and objects by their
compact text.

Main statement: `count_doubleQuotes` says that a quote inside a string is written twice and
every other character once.
-/

set_option autoImplicit false
set_option relaxedAutoImplicit false

namespace KeyPathQuery.Sql

/-- The content of a string literal, with every quote written twice. -/
def doubleQuotes (content : Text) : Text :=
  content.flatMap fun c ↦ if c = '\'' then ['\'', '\''] else [c]

/-- A string literal. -/
def quote (content : Text) : Text :=
  ['\''] ++ doubleQuotes content ++ ['\'']

/-- The text of a truth value. -/
def booleanText (value : Bool) : Text :=
  if value then "TRUE".toList else "FALSE".toList

/-- The text of a literal. -/
def Literal.text : Literal → Text
  | .boolean value => booleanText value
  | .integer value => Json.integerText value
  | .string content => quote content

/-- A value as a literal. -/
def inlineText : Json → Text
  | .null => "NULL".toList
  | .boolean value => booleanText value
  | .number value => value.text
  | .string content => quote content
  | value => quote value.compact

/-- A quote is written twice and every other character once. -/
theorem count_doubleQuotes (c : Char) (content : Text) :
    (doubleQuotes content).count c = (if c = '\'' then 2 else 1) * content.count c := by
  induction content with
  | nil => simp [doubleQuotes]
  | cons first rest ih =>
    simp only [doubleQuotes, List.flatMap_cons, List.count_append] at ih ⊢
    rw [ih]
    by_cases hquote : first = '\''
    · subst hquote
      by_cases hc : c = '\''
      · simp [hc]; omega
      · simp [hc, Ne.symm hc]
    · by_cases hc : c = first
      · subst hc; simp [hquote]; omega
      · simp [hquote, Ne.symm hc]

end KeyPathQuery.Sql
