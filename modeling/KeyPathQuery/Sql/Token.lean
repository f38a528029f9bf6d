import KeyPathQuery.Sql.Grammar

/-!
The tokens of a SQL text: words, quoted names, numbers, strings, placeholders and signs, without
the white space and the comments between them. A text has no tokens when a quotation mark in it
is not closed or a character has no place in the grammar.
-/

set_option autoImplicit false
set_option relaxedAutoImplicit false

namespace KeyPathQuery.Sql

/-- A token of a SQL text. -/
inductive Token where
  /-- A word, which may be a keyword. -/
  | word (text : Text)
  /-- A name between quotation marks, which is no keyword. -/
  | quotedName
  | number
  | string
  | placeholder
  /-- A sign of punctuation or an operator. -/
  | sign (text : Text)
deriving DecidableEq, Repr

namespace Token

/-- The signs of the grammar; of two signs that start alike the longer one stands first. -/
def signs : List Text :=
  ["!~~*", "->>", "#>>", "<=>", "!~*", "!~~", "~~*", "->", "#>", "#-", "<=", "<>", "<@", "<<",
    ">=", ">>", "==", "=>", "!=", "!!", "!~", "~~", "~*", "@>", "@@", "@?", "||/", "||", "|/",
    "&&", "?|", "?&", "^@", "::", "(", ")", ",", ";", "<", ">", "=", "!", "~", "@", "|", "&", "^",
    "+", "-", "*", "/", "%", "?", ":", "[", "]", "#"].map String.toList

/-- The characters that start the signs which an operator of the user's own may continue. -/
def openSigns : Text := "-<>&~#|%".toList

/-- What follows the closing quotation mark. A doubled mark does not close, and neither does a
mark after a backslash where that takes the next character literally. -/
def afterQuoted? (mark : Char) (backslash : Bool) : Text → Option Text
  | [] => none
  | c :: rest =>
    if c = mark then
      match rest with
      | [] => some []
      | d :: more => if d = mark then afterQuoted? mark backslash more else some rest
    else if backslash && c == '\\' then
      match rest with
      | [] => none
      | _ :: more => afterQuoted? mark backslash more
    else afterQuoted? mark backslash rest

/-- What follows a comment that an asterisk and a slash close. -/
def afterComment? : Text → Option Text
  | [] => none
  | '*' :: '/' :: rest => some rest
  | _ :: rest => afterComment? rest

/-- What follows a digit sequence, and an exponent if there is one behind it. -/
def afterExponent (text : Text) : Text :=
  match text with
  | mark :: rest =>
    if mark = 'e' ∨ mark = 'E' then
      let digits :=
        match rest with
        | first :: more => if first = '+' ∨ first = '-' then more else rest
        | [] => []
      match digits with
      | c :: _ => if c.isDigit then digits.dropWhile Char.isDigit else text
      | [] => text
    else text
  | [] => text

/-- A number, or a word that starts with digits, or a point that is no part of a number. -/
def readNumber (grammar : Grammar) (text : Text) : Token × Text :=
  let whole := text.takeWhile Char.isDigit
  let afterWhole := text.dropWhile Char.isDigit
  let pointed := afterWhole.head? == some '.'
  let afterPoint := if pointed then afterWhole.drop 1 else afterWhole
  let fraction := afterPoint.takeWhile Char.isDigit
  let afterFraction := afterPoint.dropWhile Char.isDigit
  if whole.isEmpty && fraction.isEmpty then (.sign ['.'], afterPoint)
  else
    let rest := afterExponent afterFraction
    if grammar.digitsStartWords && rest.length == afterFraction.length &&
        (rest.head?.map grammar.isWordPart).getD false then
      (.word (text.take (text.length - (rest.dropWhile grammar.isWordPart).length)),
        rest.dropWhile grammar.isWordPart)
    else (.number, rest)

/-- Letters that, right before a quote, open a string of a special kind. -/
def stringLetters : Text := "bBeEnNxX".toList

/-- Whether white space or a comment starts a text, and what follows it. -/
def afterSpace? (grammar : Grammar) (text : Text) : Option (Option Text) :=
  match text with
  | ' ' :: rest => some (some rest)
  | '\t' :: rest => some (some rest)
  | '\n' :: rest => some (some rest)
  | '\r' :: rest => some (some rest)
  | '-' :: '-' :: rest =>
    if grammar.commentNeedsSpace && rest.head? != some ' ' then none
    else some (some (rest.dropWhile (· != '\n')))
  | '#' :: rest => if grammar.hashComments then some (some (rest.dropWhile (· != '\n'))) else none
  | '/' :: '*' :: rest => some (afterComment? rest)
  | _ => none

/-- The first token of a text that does not start with white space, and what follows it. -/
def next? (grammar : Grammar) (text : Text) : Option (Token × Text) :=
  match text with
  | [] => none
  | '\'' :: rest => (afterQuoted? '\'' grammar.backslashEscapes rest).map (.string, ·)
  | c :: rest =>
    if stringLetters.contains c && rest.head? == some '\'' then
      (afterQuoted? '\'' (grammar.backslashEscapes || c.toLower == 'e') (rest.drop 1)).map
        (.string, ·)
    else if grammar.nameQuotes.contains c then
      (afterQuoted? c false rest).map (.quotedName, ·)
    else if c == '"' && grammar.doubleQuotesStrings then
      (afterQuoted? '"' grammar.backslashEscapes rest).map (.string, ·)
    else if c.isDigit || c == '.' then some (readNumber grammar text)
    else if c == '?' && grammar.questionMarkBinds then
      some (.placeholder, rest.dropWhile Char.isDigit)
    else
      match signs.find? (·.isPrefixOf text) with
      | some mark =>
        if mark.length == 1 && grammar.isWordStart c then
          some (.word (text.takeWhile grammar.isWordPart), text.dropWhile grammar.isWordPart)
        else
          let more :=
            if openSigns.contains c then (text.drop mark.length).takeWhile grammar.isOperatorPart
            else []
          some (.sign (mark ++ more), text.drop (mark ++ more).length)
      | none =>
        if grammar.isWordStart c then
          some (.word (text.takeWhile grammar.isWordPart), text.dropWhile grammar.isWordPart)
        else if c == '$' then
          some (.placeholder, rest.dropWhile fun d ↦ Text.isAlphabetic d || d.isDigit || d == '_')
        else none

/-- The tokens of a text. Every token takes at least one character, which is checked as the
tokens are read. -/
def ofText? (grammar : Grammar) (text : Text) : Option (List Token) :=
  if text.isEmpty then some []
  else
    match afterSpace? grammar text with
    | some none => none
    | some (some rest) => if rest.length < text.length then ofText? grammar rest else none
    | none =>
      if (text.head?.map fun c ↦ Text.isBlank c && !grammar.isWordStart c).getD false then
        if (text.drop 1).length < text.length then ofText? grammar (text.drop 1) else none
      else
        match next? grammar text with
        | none => none
        | some (token, rest) =>
          if rest.length < text.length then (ofText? grammar rest).map (token :: ·) else none
termination_by text.length

end Token

end KeyPathQuery.Sql
