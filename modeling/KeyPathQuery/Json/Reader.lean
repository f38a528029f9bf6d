import KeyPathQuery.Json.Basic
import KeyPathQuery.Text.Hexadecimal

/-!
Reading a JSON value from a text. `Json.parse?` takes the whole text, white space around the
value included, and gives nothing for a text that is not exactly one value.

A number without fraction and exponent that fits 64 bits, with or without sign, is a whole
number; any other is a floating-point number. Its digits are collected while they fit 64 bits;
a whole digit past that raises the exponent, a fraction digit past that is dropped. The
collected number is rounded to a magnitude and then scaled by one rounded product or quotient
with a power of ten (`scaled?`). A number past the greatest magnitude is no value.

In a string, a character below the space must be escaped, and an escaped surrogate must be
followed by its other half.
-/

set_option autoImplicit false
set_option relaxedAutoImplicit false

namespace KeyPathQuery.Json

/-- A text without the white space at its start, as the JSON grammar has it. -/
def skipSpace (text : Text) : Text :=
  text.dropWhile fun c ↦ c == ' ' || c == '\n' || c == '\t' || c == '\r'

/-! ### Numbers -/

/-- The number that a decimal digit stands for. -/
def digitValue (c : Char) : Nat :=
  c.toNat - '0'.toNat

/-- The greatest number that digits are collected into. -/
def collectLimit : Nat := powerOfTwo 64 - 1

/-- Appends digits to a number while the limit allows it; the number, how many digits went in,
and how many are left. -/
def collect (collected : Nat) : Text → Nat × Nat × Nat
  | [] => (collected, 0, 0)
  | c :: rest =>
    let next := collected * 10 + digitValue c
    if next ≤ collectLimit then
      let (total, used, left) := collect next rest
      (total, used + 1, left)
    else (collected, 0, rest.length + 1)

/-- The power of ten as a magnitude. -/
def magnitudeOfPower? (exponent : Nat) : Option Binary64 :=
  Binary64.ofRatio? (powerOfTen exponent) 1

/-- The greatest exponent of a power of ten that is a magnitude. -/
def greatestPower : Nat := 308

/-- A magnitude times a power of ten, rounded once; an exponent below the table of powers takes
a division by the greatest power first, and at most `rounds` of them. -/
def scaled? (rounds : Nat) (magnitude : Binary64) (exponent : Int) : Option Binary64 :=
  if exponent.natAbs ≤ greatestPower then do
    let power ← magnitudeOfPower? exponent.natAbs
    if 0 ≤ exponent then magnitude.mul? power else magnitude.div? power
  else if magnitude.mantissa = 0 then some magnitude
  else if 0 ≤ exponent then none
  else
    match rounds with
    | 0 => some Binary64.zero
    | rounds + 1 => do
      let power ← magnitudeOfPower? greatestPower
      let divided ← magnitude.div? power
      scaled? rounds divided (exponent + greatestPower)

/-- The floating-point number with collected digits and an exponent of ten. Two divisions by the
greatest power bring any collected number to zero, so three rounds suffice. -/
def floatOf? (negative : Bool) (collected : Nat) (exponent : Int) : Option Number := do
  let magnitude ← Binary64.ofRatio? collected 1
  let result ← scaled? 3 magnitude exponent
  pure (.float negative result)

/-- The number with the given parts: the whole digits, the fraction digits if there is a point,
and the exponent if there is one. -/
def numberOf? (negative : Bool) (whole : Text) (fraction : Option Text) (exponent : Option Int) :
    Option Number :=
  let (collected, _, raised) := collect 0 whole
  match fraction, exponent with
  | none, none =>
    if raised ≠ 0 then floatOf? negative collected raised
    else if !negative then some (.integer collected)
    else if collected = 0 ∨ powerOfTwo 63 < collected then floatOf? true collected 0
    else some (.integer (-collected))
  | _, _ =>
    let (total, used, _) := collect collected (fraction.getD [])
    floatOf? negative total ((raised : Int) - used + exponent.getD 0)

/-- The whole digits of a number, which has no needless zero in front. -/
def readWhole? (text : Text) : Option (Text × Text) :=
  let whole := text.takeWhile Char.isDigit
  let rest := text.dropWhile Char.isDigit
  match whole with
  | [] => none
  | '0' :: _ :: _ => none
  | _ => some (whole, rest)

/-- The fraction of a number, with at least one digit after the point; no point, no fraction. -/
def readFraction? (text : Text) : Option (Option Text × Text) :=
  match text with
  | '.' :: rest =>
    let fraction := rest.takeWhile Char.isDigit
    if fraction.isEmpty then none else some (some fraction, rest.dropWhile Char.isDigit)
  | _ => some (none, text)

/-- The number that decimal digits stand for. -/
def digitsValue (text : Text) : Nat :=
  text.foldl (fun total c ↦ total * 10 + digitValue c) 0

/-- The digits of an exponent after its sign. -/
def readExponentDigits? (negative : Bool) (text : Text) : Option (Option Int × Text) :=
  let written := text.takeWhile Char.isDigit
  if written.isEmpty then none
  else
    let value : Int := digitsValue written
    some (some (if negative then -value else value), text.dropWhile Char.isDigit)

/-- The exponent of a number, with at least one digit after its mark and sign; no mark, no
exponent. -/
def readExponent? (text : Text) : Option (Option Int × Text) :=
  match text with
  | mark :: rest =>
    if mark = 'e' ∨ mark = 'E' then
      match rest with
      | '+' :: digits => readExponentDigits? false digits
      | '-' :: digits => readExponentDigits? true digits
      | _ => readExponentDigits? false rest
    else some (none, text)
  | [] => some (none, text)

/-- A number at the start of a text, after its sign. -/
def readUnsigned? (negative : Bool) (text : Text) : Option (Number × Text) := do
  let (whole, afterWhole) ← readWhole? text
  let (fraction, afterFraction) ← readFraction? afterWhole
  let (exponent, rest) ← readExponent? afterFraction
  let result ← numberOf? negative whole fraction exponent
  pure (result, rest)

/-- A number at the start of a text. -/
def readNumber? (text : Text) : Option (Number × Text) :=
  match text with
  | '-' :: rest => readUnsigned? true rest
  | _ => readUnsigned? false text

/-! ### Strings -/

/-- The 16-bit unit that four hexadecimal digits stand for. -/
def unit? (a b c d : Char) : Option Nat :=
  Text.hexNumber? [a, b, c, d]

/-- Whether a unit is the first half of a surrogate pair. -/
def isLeading (unit : Nat) : Bool :=
  0xD800 ≤ unit && unit ≤ 0xDBFF

/-- Whether a unit is the second half of a surrogate pair. -/
def isTrailing (unit : Nat) : Bool :=
  0xDC00 ≤ unit && unit ≤ 0xDFFF

/-- The character of a surrogate pair. -/
def pairChar (leading trailing : Nat) : Char :=
  Char.ofNat (0x10000 + (leading - 0xD800) * 0x400 + (trailing - 0xDC00))

/-- The character that a letter after a backslash stands for. -/
def namedEscape? (c : Char) : Option Char :=
  match c with
  | '"' => some '"'
  | '\\' => some '\\'
  | '/' => some '/'
  | 'b' => some '\x08'
  | 'f' => some '\x0c'
  | 'n' => some '\n'
  | 'r' => some '\r'
  | 't' => some '\t'
  | _ => none

/-- Puts a character in front of a text that was read. -/
def withChar (c : Char) (read : Option (Text × Text)) : Option (Text × Text) :=
  read.map fun (content, rest) ↦ (c :: content, rest)

/-- The content of a string up to its closing quotation mark, and the text after it. -/
def readString? : Text → Option (Text × Text)
  | [] => none
  | '"' :: rest => some ([], rest)
  | '\\' :: 'u' :: a :: b :: c :: d :: rest =>
    match unit? a b c d with
    | none => none
    | some unit =>
      if isTrailing unit then none
      else if isLeading unit then
        match rest with
        | '\\' :: 'u' :: e :: f :: g :: h :: more =>
          match unit? e f g h with
          | none => none
          | some second =>
            if isTrailing second then withChar (pairChar unit second) (readString? more) else none
        | _ => none
      else withChar (Char.ofNat unit) (readString? rest)
  | '\\' :: c :: rest =>
    match namedEscape? c with
    | none => none
    | some escaped => withChar escaped (readString? rest)
  | c :: rest => if c = '\\' ∨ c.toNat < 0x20 then none else withChar c (readString? rest)

/-! ### Values -/

/-- What follows a word at the start of a text. -/
def afterWord? (word text : Text) : Option Text :=
  if word.isPrefixOf text then some (text.drop word.length) else none

mutual

/-- A value at the start of a text, white space before it included. -/
def readValue? (fuel : Nat) (text : Text) : Option (Json × Text) :=
  match fuel with
  | 0 => none
  | fuel + 1 =>
    match skipSpace text with
    | 'n' :: rest => (afterWord? "ull".toList rest).map (.null, ·)
    | 't' :: rest => (afterWord? "rue".toList rest).map (.boolean true, ·)
    | 'f' :: rest => (afterWord? "alse".toList rest).map (.boolean false, ·)
    | '"' :: rest => (readString? rest).map fun (content, more) ↦ (.string content, more)
    | '[' :: rest =>
      match skipSpace rest with
      | ']' :: more => some (.array [], more)
      | _ => (readItems? fuel rest).map fun (items, more) ↦ (.array items, more)
    | '\x7b' :: rest =>
      match skipSpace rest with
      | '\x7d' :: more => some (.object [], more)
      | _ => (readFields? fuel rest).map fun (pairs, more) ↦ (.object (Fields.ofPairs pairs), more)
    | chars => (readNumber? chars).map fun (result, rest) ↦ (.number result, rest)

/-- The items of an array that is not empty, up to its closing bracket. -/
def readItems? (fuel : Nat) (text : Text) : Option (List Json × Text) :=
  match fuel with
  | 0 => none
  | fuel + 1 =>
    match readValue? fuel text with
    | none => none
    | some (item, rest) =>
      match skipSpace rest with
      | ']' :: more => some ([item], more)
      | ',' :: more => (readItems? fuel more).map fun (items, last) ↦ (item :: items, last)
      | _ => none

/-- The fields of an object that is not empty, up to its closing brace. -/
def readFields? (fuel : Nat) (text : Text) : Option (List (Text × Json) × Text) :=
  match fuel with
  | 0 => none
  | fuel + 1 =>
    match skipSpace text with
    | '"' :: opened =>
      match readString? opened with
      | none => none
      | some (key, afterKey) =>
        match skipSpace afterKey with
        | ':' :: afterColon =>
          match readValue? fuel afterColon with
          | none => none
          | some (value, rest) =>
            match skipSpace rest with
            | '\x7d' :: more => some ([(key, value)], more)
            | ',' :: more =>
              (readFields? fuel more).map fun (pairs, last) ↦ ((key, value) :: pairs, last)
            | _ => none
        | _ => none
    | _ => none

end

/-- The value that a text holds. Every call of a reader passes a character or is the first one
at its place, so twice the length bounds their number. -/
def parse? (text : Text) : Option Json :=
  match readValue? (2 * text.length + 2) text with
  | some (value, rest) => if (skipSpace rest).isEmpty then some value else none
  | none => none

end KeyPathQuery.Json
