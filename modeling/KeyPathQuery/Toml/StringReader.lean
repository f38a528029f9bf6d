import KeyPathQuery.Toml.Character

/-!
Reading the four kinds of TOML strings: between quotation marks, where a backslash spells
characters, or between apostrophes, where every character stands for itself; on one line between
single marks, or on several between triple ones. In a string of several lines a line break right
after the opening marks does not count, every line break is read as a line feed, and up to two
marks may stand before the closing ones.
-/

set_option autoImplicit false
set_option relaxedAutoImplicit false

namespace KeyPathQuery.Toml

/-- Puts a character in front of a text that was read. -/
def withChar (c : Char) (read : Option (Text × Text)) : Option (Text × Text) :=
  read.map fun (content, rest) ↦ (c :: content, rest)

/-- A string of one line after its opening quotation mark: the content, and what follows the
closing mark. -/
def readBasic? : Text → Option (Text × Text)
  | [] => none
  | '"' :: rest => some ([], rest)
  | '\\' :: 'u' :: a :: b :: c :: d :: rest =>
    match charOfHex? [a, b, c, d] with
    | some spelled => withChar spelled (readBasic? rest)
    | none => none
  | '\\' :: 'U' :: a :: b :: c :: d :: e :: f :: g :: h :: rest =>
    match charOfHex? [a, b, c, d, e, f, g, h] with
    | some spelled => withChar spelled (readBasic? rest)
    | none => none
  | '\\' :: c :: rest =>
    match namedEscape? c with
    | some spelled => withChar spelled (readBasic? rest)
    | none => none
  | c :: rest => if c = '\\' ∨ isControl c then none else withChar c (readBasic? rest)

/-- Whether a line ends after white space at the start of a text. -/
def endsLine (text : Text) : Bool :=
  (afterLineBreak? (skipSpace text)).isSome

/-- The marks before the closing three of a string of several lines, and what follows them. -/
def afterClosing (mark : Char) (text : Text) : Text × Text :=
  match text with
  | a :: b :: rest =>
    if a = mark then if b = mark then ([mark, mark], rest) else ([mark], b :: rest)
    else ([], text)
  | [a] => if a = mark then ([mark], []) else ([], text)
  | [] => ([], [])

/-- A string of several lines between quotation marks, after the opening ones. After a backslash
at the end of a line, white space and line breaks are skipped. -/
def readBlock? (skipping : Bool) : Text → Option (Text × Text)
  | [] => none
  | '"' :: '"' :: '"' :: rest => some (afterClosing '"' rest)
  | '\\' :: 'u' :: a :: b :: c :: d :: rest =>
    match charOfHex? [a, b, c, d] with
    | some spelled => withChar spelled (readBlock? false rest)
    | none => none
  | '\\' :: 'U' :: a :: b :: c :: d :: e :: f :: g :: h :: rest =>
    match charOfHex? [a, b, c, d, e, f, g, h] with
    | some spelled => withChar spelled (readBlock? false rest)
    | none => none
  | '\\' :: c :: rest =>
    match namedEscape? c with
    | some spelled => withChar spelled (readBlock? false rest)
    | none => if endsLine (c :: rest) then readBlock? true rest else none
  | '\r' :: '\n' :: rest =>
    if skipping then readBlock? true rest else withChar '\n' (readBlock? false rest)
  | c :: rest =>
    if skipping && (isSpace c || c == '\n') then readBlock? true rest
    else if c = '\n' then withChar c (readBlock? false rest)
    else if c = '\\' ∨ isControl c then none
    else withChar c (readBlock? false rest)

/-- A string of one line after its opening apostrophe. -/
def readLiteral? : Text → Option (Text × Text)
  | [] => none
  | c :: rest =>
    if c = '\'' then some ([], rest)
    else if isControl c then none
    else withChar c (readLiteral? rest)

/-- A string of several lines between apostrophes, after the opening ones. -/
def readLiteralBlock? : Text → Option (Text × Text)
  | [] => none
  | '\'' :: '\'' :: '\'' :: rest => some (afterClosing '\'' rest)
  | '\r' :: '\n' :: rest => withChar '\n' (readLiteralBlock? rest)
  | c :: rest =>
    if c ≠ '\n' ∧ isControl c then none else withChar c (readLiteralBlock? rest)

/-- What follows a line break, or the text if it starts with none. -/
def skipLineBreak (text : Text) : Text :=
  (afterLineBreak? text).getD text

/-- A string at the start of a text, and what follows it. -/
def readString? (text : Text) : Option (Text × Text) :=
  match text with
  | '"' :: '"' :: '"' :: rest => readBlock? false (skipLineBreak rest)
  | '"' :: rest => readBasic? rest
  | '\'' :: '\'' :: '\'' :: rest => readLiteralBlock? (skipLineBreak rest)
  | '\'' :: rest => readLiteral? rest
  | _ => none

end KeyPathQuery.Toml
