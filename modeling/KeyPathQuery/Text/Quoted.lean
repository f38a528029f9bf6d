import KeyPathQuery.Text.GraphemeExtend
import KeyPathQuery.Text.Printable
import KeyPathQuery.Text

/-!
Texts quoted for a message: between double quotation marks, with a backslash before a quotation
mark or a backslash, short names for the usual control characters, and every character that
would not show as itself spelled by its number in hexadecimal digits.
-/

set_option autoImplicit false
set_option relaxedAutoImplicit false

namespace KeyPathQuery.Text

/-- A character spelled by its number: a backslash, `u`, and the hexadecimal digits in braces. -/
def spelledByNumber (c : Char) : Text :=
  "\\u\x7b".toList ++ Nat.toDigits 16 c.toNat ++ "\x7d".toList

/-- The form of one character inside a quoted text. -/
def quotedChar (c : Char) : Text :=
  match c with
  | '\x00' => ['\\', '0']
  | '\t' => ['\\', 't']
  | '\r' => ['\\', 'r']
  | '\n' => ['\\', 'n']
  | '\\' => ['\\', '\\']
  | '"' => ['\\', '"']
  | _ => if isGraphemeExtend c || !isPrintable c then spelledByNumber c else [c]

/-- A text between quotation marks, with every character shown or spelled out. -/
def quoted (text : Text) : Text :=
  ['"'] ++ text.flatMap quotedChar ++ ['"']

end KeyPathQuery.Text
