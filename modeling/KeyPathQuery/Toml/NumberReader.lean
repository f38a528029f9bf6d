import KeyPathQuery.Json.Number
import KeyPathQuery.Toml.Basic
import KeyPathQuery.Toml.Character

/-!
Reading TOML numbers. Digits may be grouped by single underscores. A whole number fits 64 bits
with sign; it is decimal without a needless zero, or hexadecimal, octal or binary. A number with
a fraction or an exponent is refused only where it lies above every 64-bit floating-point number;
one below all of them is taken.
-/

set_option autoImplicit false
set_option relaxedAutoImplicit false

namespace KeyPathQuery.Toml

/-- The first whole number that does not fit 64 bits with sign. -/
def integerLimit : Int := powerOfTwo 63

/-- The digits that go on at the start of a text, without the underscores between them, and what
follows. -/
def spanDigits (isDigit : Char → Bool) : Text → Text × Text
  | [] => ([], [])
  | '_' :: c :: rest =>
    if isDigit c then
      let (digits, after) := spanDigits isDigit rest
      (c :: digits, after)
    else ([], '_' :: c :: rest)
  | c :: rest =>
    if isDigit c then
      let (digits, after) := spanDigits isDigit rest
      (c :: digits, after)
    else ([], c :: rest)

/-- One digit or more at the start of a text, and what follows. -/
def readDigits? (isDigit : Char → Bool) (text : Text) : Option (Text × Text) :=
  match text with
  | c :: rest =>
    if isDigit c then
      let (digits, after) := spanDigits isDigit rest
      some (c :: digits, after)
    else none
  | [] => none

/-- The number that digits spell to a base. -/
def valueOf (base : Nat) (digits : Text) : Nat :=
  digits.foldl (fun total c ↦ total * base + ((Text.hexValue? c).getD 0)) 0

/-- Whether a sign starts a text, which one, and what follows it. -/
def readSign (text : Text) : Bool × Text :=
  match text with
  | '+' :: rest => (false, rest)
  | '-' :: rest => (true, rest)
  | _ => (false, text)

/-- The whole digits of a decimal number, without a needless zero. -/
def readWhole? (text : Text) : Option (Text × Text) :=
  match text with
  | '0' :: rest => some (['0'], rest)
  | _ => readDigits? Char.isDigit text

/-- Whether digits times a power of ten lie above every 64-bit floating-point number. The number
of digits decides unless it comes close to the greatest one. -/
def isTooGreat (digits : Text) (exponent : Int) : Bool :=
  let value := valueOf 10 digits
  if value = 0 then false
  else
    let places : Int := (Json.digits value).length + exponent
    if places ≤ 308 then false
    else if 310 ≤ places then true
    else
      (Binary64.ofRatio? (value * powerOfTen exponent.toNat)
        (powerOfTen (-exponent).toNat)).isNone

/-- What follows a point: fraction digits, at least one. No point, no fraction. -/
def readFraction? (text : Text) : Option (Text × Text) :=
  match text with
  | '.' :: rest => readDigits? Char.isDigit rest
  | _ => some ([], text)

/-- An exponent, with at least one digit; without its mark, zero. -/
def readExponent? (text : Text) : Option (Int × Text) :=
  match text with
  | mark :: rest =>
    if mark = 'e' ∨ mark = 'E' then
      let (negative, unsigned) := readSign rest
      match readDigits? Char.isDigit unsigned with
      | some (digits, after) =>
        let value : Int := valueOf 10 digits
        some (if negative then -value else value, after)
      | none => none
    else some (0, text)
  | [] => some (0, text)

/-- A decimal number at the start of a text. -/
def readDecimal? (text : Text) : Option (Toml × Text) := do
  let (negative, unsigned) := readSign text
  let (whole, afterWhole) ← readWhole? unsigned
  let (fraction, afterFraction) ← readFraction? afterWhole
  let (exponent, rest) ← readExponent? afterFraction
  if rest.length = afterWhole.length then
    let value := valueOf 10 whole
    let signed : Int := if negative then -value else value
    if -integerLimit ≤ signed ∧ signed < integerLimit then some (.integer signed, rest) else none
  else if !negative && isTooGreat (whole ++ fraction) (exponent - fraction.length) then none
  else some (.float, rest)

/-- A whole number to a base, after the letter that names the base. -/
def readBased? (base : Nat) (isDigit : Char → Bool) (text : Text) : Option (Toml × Text) :=
  match readDigits? isDigit text with
  | some (digits, rest) =>
    let value := valueOf base digits
    let signed : Int := value
    if signed < integerLimit then some (.integer signed, rest) else none
  | none => none

/-- A number at the start of a text, and what follows it. Infinity and what is no number have
names. -/
def readNumber? (text : Text) : Option (Toml × Text) :=
  match text with
  | '0' :: 'x' :: rest => readBased? 16 (fun c ↦ (Text.hexValue? c).isSome) rest
  | '0' :: 'o' :: rest => readBased? 8 (fun c ↦ '0' ≤ c && c ≤ '7') rest
  | '0' :: 'b' :: rest => readBased? 2 (fun c ↦ c == '0' || c == '1') rest
  | _ =>
    match (readSign text).2 with
    | 'i' :: 'n' :: 'f' :: rest => some (.float, rest)
    | 'n' :: 'a' :: 'n' :: rest => some (.float, rest)
    | _ => readDecimal? text

end KeyPathQuery.Toml
