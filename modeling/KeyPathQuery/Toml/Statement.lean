import KeyPathQuery.Toml.Basic
import KeyPathQuery.Toml.MomentReader
import KeyPathQuery.Toml.NumberReader
import KeyPathQuery.Toml.StringReader

/-!
The statements of a TOML text: assignments of values to dotted keys, headers of tables, and
headers of tables of which there may be several. Between them stand empty lines and comments.

Arrays and tables in braces nest up to a limit, and so many parts a dotted key may have. The
items of an array may stand on lines of their own, with comments; the entries of a table in
braces may not, and no comma follows the last one.
-/

set_option autoImplicit false
set_option relaxedAutoImplicit false

namespace KeyPathQuery.Toml

/-- The first depth of nesting that is refused, and the first length of a dotted key. -/
def nestingLimit : Nat := 80

/-- A statement of a TOML text. -/
inductive Statement where
  | assignment (path : List Text) (value : Toml)
  | header (path : List Text)
  | headerOfSeveral (path : List Text)
deriving Repr

/-! ### Keys -/

/-- One part of a dotted key. -/
def readKeyPart? (text : Text) : Option (Text × Text) :=
  match text with
  | '"' :: rest => readBasic? rest
  | '\'' :: rest => readLiteral? rest
  | _ =>
    let bare := text.takeWhile isBareKeyPart
    if bare.isEmpty then none else some (bare, text.dropWhile isBareKeyPart)

/-- The parts of a dotted key with the white space around them. -/
def readKeyParts? (text : Text) : Option (List Text × Text) :=
  match readKeyPart? (skipSpace text) with
  | none => none
  | some (part, rest) =>
    match skipSpace rest with
    | '.' :: more =>
      if more.length < text.length then
        (readKeyParts? more).map fun (parts, after) ↦ (part :: parts, after)
      else none
    | after => some ([part], after)
termination_by text.length

/-- A dotted key with the white space around it. -/
def readKey? (text : Text) : Option (List Text × Text) :=
  match readKeyParts? text with
  | some (parts, rest) => if parts.length < nestingLimit then some (parts, rest) else none
  | none => none

/-! ### Values -/

/-- What follows white space, line breaks and comments. -/
def skipLines (text : Text) : Text :=
  let after := skipComment (skipSpace text)
  let rest := (afterLineBreak? after).getD after
  if rest.length < text.length then skipLines rest else text
termination_by text.length

/-- What follows a word at the start of a text. -/
def afterWord? (word text : Text) : Option Text :=
  if word.isPrefixOf text then some (text.drop word.length) else none

/-- The items of an array up to its closing bracket, each read by `read`. -/
def readItems? (read : Text → Option (Toml × Text)) (text : Text) :
    Option (List Toml × Text) :=
  match skipLines text with
  | ']' :: rest => some ([], rest)
  | start =>
    match read start with
    | none => none
    | some (item, afterItem) =>
      match skipLines afterItem with
      | ']' :: rest => some ([item], rest)
      | ',' :: more =>
        if more.length < text.length then
          (readItems? read more).map fun (items, rest) ↦ (item :: items, rest)
        else none
      | _ => none
termination_by text.length

/-- An assignment of a value that `read` reads to a dotted key, and what follows it. -/
def readAssignment? (read : Text → Option (Toml × Text)) (text : Text) :
    Option ((List Text × Toml) × Text) :=
  match readKey? text with
  | some (path, '=' :: afterSign) =>
    (read (skipSpace afterSign)).map fun (value, rest) ↦ ((path, value), skipSpace rest)
  | _ => none

/-- The entries of a table in braces that is not empty, up to its closing brace. -/
def readEntries? (read : Text → Option (Toml × Text)) (text : Text) :
    Option (List (List Text × Toml) × Text) :=
  match readAssignment? read text with
  | none => none
  | some (assignment, afterAssignment) =>
    match afterAssignment with
    | '\x7d' :: rest => some ([assignment], rest)
    | ',' :: more =>
      if more.length < text.length then
        (readEntries? read more).map fun (assignments, rest) ↦ (assignment :: assignments, rest)
      else none
    | _ => none
termination_by text.length

/-- A value at the start of a text that may nest `depth` levels more, and what follows it. -/
def readValue? (depth : Nat) (text : Text) : Option (Toml × Text) :=
  match text with
  | '[' :: rest =>
    match depth with
    | 0 => none
    | depth + 1 =>
      (readItems? (readValue? depth) rest).map fun (items, after) ↦ (.array items, after)
  | '\x7b' :: rest =>
    match depth with
    | 0 => none
    | depth + 1 =>
      match skipSpace rest with
      | '\x7d' :: after => some (.table .inBraces [], after)
      | _ =>
        match readEntries? (readValue? depth) rest with
        | some (assignments, after) =>
          (Entries.assignAll? [] assignments).map fun entries ↦ (.table .inBraces entries, after)
        | none => none
  | 't' :: rest => (afterWord? "rue".toList rest).map (.boolean true, ·)
  | 'f' :: rest => (afterWord? "alse".toList rest).map (.boolean false, ·)
  | c :: _ =>
    if c = '"' ∨ c = '\'' then (readString? text).map fun (content, rest) ↦ (.string content, rest)
    else
      match afterMoment? text with
      | some rest => some (.moment, rest)
      | none => readNumber? text
  | [] => none

/-! ### Statements -/

/-- One statement at the start of a line, white space before it skipped, and what follows it. -/
def readStatement? (text : Text) : Option (Statement × Text) :=
  match text with
  | '[' :: '[' :: rest =>
    match readKey? rest with
    | some (path, ']' :: ']' :: after) => (afterLine? after).map (.headerOfSeveral path, ·)
    | _ => none
  | '[' :: rest =>
    match readKey? rest with
    | some (path, ']' :: after) => (afterLine? after).map (.header path, ·)
    | _ => none
  | _ =>
    match readAssignment? (readValue? (nestingLimit - 1)) text with
    | some ((path, value), after) => (afterLine? after).map (.assignment path value, ·)
    | none => none

/-- The statements of a text. -/
def readStatements? (text : Text) : Option (List Statement) :=
  match skipSpace text with
  | [] => some []
  | start =>
    match afterLine? start with
    | some rest => if rest.length < text.length then readStatements? rest else none
    | none =>
      match readStatement? start with
      | some (statement, rest) =>
        if rest.length < text.length then
          (readStatements? rest).map fun statements ↦ statement :: statements
        else none
      | none => none
termination_by text.length

/-- A text without the byte order mark at its start. -/
def skipByteOrderMark (text : Text) : Text :=
  match text with
  | '\ufeff' :: rest => rest
  | _ => text

/-- The statements of a whole text. -/
def statementsOf? (text : Text) : Option (List Statement) :=
  readStatements? (skipByteOrderMark text)

end KeyPathQuery.Toml
