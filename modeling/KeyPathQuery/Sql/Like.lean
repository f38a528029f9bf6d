import KeyPathQuery.Sql.Expression

/-!
Patterns of LIKE. In a pattern `%` stands for any text and `_` for any one character, and an
escape character takes the character after it literally. `containsPattern` is the pattern of the
texts that hold a given text, and `Like.fits` is what a store does with a pattern.
-/

set_option autoImplicit false
set_option relaxedAutoImplicit false

namespace KeyPathQuery.Sql

namespace Like

/-- The escape character of every pattern, named in each statement since stores differ in their
default. -/
def escape : Char := '!'

/-- Whether a character has to be escaped in a pattern. -/
def isSpecial (c : Char) : Bool :=
  c == '%' || c == '_' || c == escape

/-- A text as a pattern that only it fits. -/
def literally (text : Text) : Text :=
  text.flatMap fun c ↦ if isSpecial c then [escape, c] else [c]

/-- The pattern of the texts that hold a given text. -/
def containsPattern (search : Text) : Text :=
  ['%'] ++ literally search ++ ['%']

/-- Whether some end part of a text, the text itself included, passes a test. -/
def someSuffix (test : Text → Bool) : Text → Bool
  | [] => test []
  | c :: rest => test (c :: rest) || someSuffix test rest

/-- Whether a text fits a pattern with an escape character. -/
def fits (escape : Char) (pattern text : Text) : Bool :=
  match pattern with
  | [] => text.isEmpty
  | c :: rest =>
    if c = escape then
      match rest, text with
      | literal :: rest, d :: text => literal == d && fits escape rest text
      | _, _ => false
    else if c = '%' then someSuffix (fits escape rest) text
    else
      match text with
      | d :: text => (c == '_' || c == d) && fits escape rest text
      | [] => false

end Like

/-- The predicate that the text of an expression holds a given text. -/
def Expression.textContains (target : Expression) (search : Text) : Expression :=
  .like target (.bind (.string (Like.containsPattern search))) Like.escape

end KeyPathQuery.Sql
