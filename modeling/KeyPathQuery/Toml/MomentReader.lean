import KeyPathQuery.Toml.Character

/-!
Reading TOML points in time: a date, a time of day, or both, with or without an offset. Months
have the days of the calendar, with a leap day where it has one, and a minute may have a leap
second. Only what follows the point in time is kept.
-/

set_option autoImplicit false
set_option relaxedAutoImplicit false

namespace KeyPathQuery.Toml

/-- A number of exactly `count` decimal digits within limits, and what follows. -/
def readFixed? (count least greatest : Nat) (text : Text) : Option (Nat × Text) :=
  let digits := text.take count
  if digits.length = count ∧ digits.all Char.isDigit then
    let value := digits.foldl (fun total c ↦ total * 10 + (c.toNat - '0'.toNat)) 0
    if least ≤ value ∧ value ≤ greatest then some (value, text.drop count) else none
  else none

/-- What follows one character. -/
def afterMark? (mark : Char) (text : Text) : Option Text :=
  match text with
  | c :: rest => if c = mark then some rest else none
  | [] => none

/-- Whether a year has a leap day. -/
def isLeapYear (year : Nat) : Bool :=
  year % 4 == 0 && (year % 100 != 0 || year % 400 == 0)

/-- The number of days of a month. -/
def daysOfMonth (year month : Nat) : Nat :=
  if month = 2 then if isLeapYear year then 29 else 28
  else if month = 4 ∨ month = 6 ∨ month = 9 ∨ month = 11 then 30
  else 31

/-- What follows a date. -/
def afterDate? (text : Text) : Option Text := do
  let (year, text) ← readFixed? 4 0 9999 text
  let text ← afterMark? '-' text
  let (month, text) ← readFixed? 2 1 12 text
  let text ← afterMark? '-' text
  let (_, text) ← readFixed? 2 1 (daysOfMonth year month) text
  pure text

/-- What follows the fraction of a second, if there is one. -/
def skipSecondFraction (text : Text) : Text :=
  match text with
  | '.' :: c :: rest => if c.isDigit then rest.dropWhile Char.isDigit else text
  | _ => text

/-- What follows hours and minutes. -/
def afterHourMinute? (text : Text) : Option Text := do
  let (_, text) ← readFixed? 2 0 23 text
  let text ← afterMark? ':' text
  let (_, text) ← readFixed? 2 0 59 text
  pure text

/-- What follows a time of day. -/
def afterTime? (text : Text) : Option Text := do
  let text ← afterHourMinute? text
  let text ← afterMark? ':' text
  let (_, text) ← readFixed? 2 0 60 text
  pure (skipSecondFraction text)

/-- What follows an offset, if there is one. -/
def skipOffset (text : Text) : Text :=
  match text with
  | c :: rest =>
    if c = 'Z' ∨ c = 'z' then rest
    else if c = '+' ∨ c = '-' then (afterHourMinute? rest).getD text
    else text
  | [] => []

/-- What follows a point in time. -/
def afterMoment? (text : Text) : Option Text :=
  match afterDate? text with
  | some (c :: rest) =>
    if c = 'T' ∨ c = 't' ∨ c = ' ' then
      match afterTime? rest with
      | some afterTime => some (skipOffset afterTime)
      | none => some (c :: rest)
    else some (c :: rest)
  | some [] => some []
  | none => afterTime? text

end KeyPathQuery.Toml
