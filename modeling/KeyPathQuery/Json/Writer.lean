import KeyPathQuery.Json.Basic

/-!
The text of a JSON value, in two layouts: compact, with nothing between the parts, and indented,
with each item and field on its own line, two spaces deeper than the line that opens the array
or object. Inside a string only the quotation mark, the backslash and the control characters
below the space are escaped.
-/

set_option autoImplicit false
set_option relaxedAutoImplicit false

namespace KeyPathQuery.Json

/-- The hexadecimal digit of a number below sixteen, letters in lower case. -/
def hexDigit (n : Nat) : Char :=
  Nat.digitChar n

/-- The form of one character inside a JSON string. -/
def escapedChar (c : Char) : Text :=
  match c with
  | '"' => ['\\', '"']
  | '\\' => ['\\', '\\']
  | '\x08' => ['\\', 'b']
  | '\t' => ['\\', 't']
  | '\n' => ['\\', 'n']
  | '\x0c' => ['\\', 'f']
  | '\r' => ['\\', 'r']
  | _ =>
    if c.toNat < 0x20 then
      ['\\', 'u', '0', '0', hexDigit (c.toNat / 16), hexDigit (c.toNat % 16)]
    else [c]

/-- A text as a JSON string. -/
def stringText (text : Text) : Text :=
  ['"'] ++ text.flatMap escapedChar ++ ['"']

/-- The text of a truth value. -/
def booleanText (value : Bool) : Text :=
  if value then "true".toList else "false".toList

/-! ### Compact layout -/

mutual

/-- The compact text of a value. -/
def compact : Json → Text
  | .null => "null".toList
  | .boolean value => booleanText value
  | .number value => value.text
  | .string value => stringText value
  | .array items => ['['] ++ compactItems items ++ [']']
  | .object fields => ['\x7b'] ++ compactFields fields ++ ['\x7d']

/-- The compact text of the items of an array, a comma between neighbours. -/
def compactItems : List Json → Text
  | [] => []
  | [item] => item.compact
  | item :: next :: items => item.compact ++ [','] ++ compactItems (next :: items)

/-- The compact text of the fields of an object, a comma between neighbours. -/
def compactFields : List (Text × Json) → Text
  | [] => []
  | [(key, value)] => stringText key ++ [':'] ++ value.compact
  | (key, value) :: next :: fields =>
    stringText key ++ [':'] ++ value.compact ++ [','] ++ compactFields (next :: fields)

end

/-! ### Indented layout -/

/-- A line break and the indentation of a depth. -/
def newLine (depth : Nat) : Text :=
  '\n' :: List.replicate (2 * depth) ' '

mutual

/-- The indented text of a value that stands at a depth. -/
def indented (depth : Nat) : Json → Text
  | .null => "null".toList
  | .boolean value => booleanText value
  | .number value => value.text
  | .string value => stringText value
  | .array [] => "[]".toList
  | .array (item :: items) =>
    ['['] ++ indentedItems (depth + 1) (item :: items) ++ newLine depth ++ [']']
  | .object [] => ['\x7b', '\x7d']
  | .object (field :: fields) =>
    ['\x7b'] ++ indentedFields (depth + 1) (field :: fields) ++ newLine depth ++ ['\x7d']

/-- The items of an array on their lines, a comma at the end of each line but the last. -/
def indentedItems (depth : Nat) : List Json → Text
  | [] => []
  | [item] => newLine depth ++ indented depth item
  | item :: next :: items =>
    newLine depth ++ indented depth item ++ [','] ++ indentedItems depth (next :: items)

/-- The fields of an object on their lines, a comma at the end of each line but the last. -/
def indentedFields (depth : Nat) : List (Text × Json) → Text
  | [] => []
  | [(key, value)] => newLine depth ++ stringText key ++ ": ".toList ++ indented depth value
  | (key, value) :: next :: fields =>
    newLine depth ++ stringText key ++ ": ".toList ++ indented depth value ++ [','] ++
      indentedFields depth (next :: fields)

end

/-- The indented text of a value. -/
def pretty (value : Json) : Text :=
  value.indented 0

end KeyPathQuery.Json
