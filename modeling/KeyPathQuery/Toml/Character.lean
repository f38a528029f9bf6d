import KeyPathQuery.Text.Hexadecimal

/-!
The characters of a TOML text: white space, the ends of lines, and the characters that stand for
themselves in comments and strings. A control character other than the tab never does.
-/

set_option autoImplicit false
set_option relaxedAutoImplicit false

namespace KeyPathQuery.Toml

/-- White space within a line. -/
def isSpace (c : Char) : Bool :=
  c == ' ' || c == '\t'

/-- Whether a character is a control character, the tab aside. -/
def isControl (c : Char) : Bool :=
  (c.toNat < 0x20 && c != '\t') || c.toNat == 0x7F

/-- A character of a key without quotation marks. -/
def isBareKeyPart (c : Char) : Bool :=
  c.isAlphanum || c == '_' || c == '-'

/-- A text without the white space at its start. -/
def skipSpace (text : Text) : Text :=
  text.dropWhile isSpace

/-- What follows the end of a line at the start of a text. -/
def afterLineBreak? (text : Text) : Option Text :=
  match text with
  | '\n' :: rest => some rest
  | '\r' :: '\n' :: rest => some rest
  | _ => none

/-- What follows the comment at the start of a text, if there is one. -/
def skipComment (text : Text) : Text :=
  match text with
  | '#' :: rest => rest.dropWhile (!isControl ·)
  | _ => text

/-- What follows the rest of a line on which nothing else stands. -/
def afterLine? (text : Text) : Option Text :=
  match skipComment (skipSpace text) with
  | [] => some []
  | rest => afterLineBreak? rest

/-- The character with a number in hexadecimal digits. -/
def charOfHex? (digits : Text) : Option Char :=
  match Text.hexNumber? digits with
  | some code => if code.isValidChar then some (Char.ofNat code) else none
  | none => none

/-- The character that a letter after a backslash stands for. -/
def namedEscape? (c : Char) : Option Char :=
  match c with
  | 'b' => some '\x08'
  | 't' => some '\t'
  | 'n' => some '\n'
  | 'f' => some '\x0c'
  | 'r' => some '\r'
  | '"' => some '"'
  | '\\' => some '\\'
  | _ => none

end KeyPathQuery.Toml
