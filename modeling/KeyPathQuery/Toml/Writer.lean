import KeyPathQuery.Toml.Character

/-!
Writing a text as a TOML string. The plainest of four notations that can hold the text is taken:
quotation marks around one line, apostrophes around one line, triple quotation marks, triple
apostrophes. The first of them is taken only for a text that needs no backslash, and the last
three can hold no control character; for what is left, control characters and marks are spelled
with backslashes. A text of several lines starts on a line of its own.
-/

set_option autoImplicit false
set_option relaxedAutoImplicit false

namespace KeyPathQuery.Toml

/-- The length of the longest run of one character in a text, `run` of which come right before
it. -/
def longestRun (mark : Char) (run : Nat) : Text → Nat
  | [] => run
  | c :: rest =>
    if c = mark then longestRun mark (run + 1) rest else max run (longestRun mark 0 rest)

/-- A control character by its number. -/
def spelledControl (c : Char) : Text :=
  "\\u00".toList ++ [Text.hexCapital (c.toNat / 16), Text.hexCapital (c.toNat % 16)]

/-- The spelling of a character that cannot stand for itself in any string between quotation
marks; nothing for the other characters. -/
def spelled? (c : Char) : Option Text :=
  if c = '\x08' then some "\\b".toList
  else if c = '\t' then some "\\t".toList
  else if c = '\x0c' then some "\\f".toList
  else if c = '\r' then some "\\r".toList
  else if c = '\\' then some "\\\\".toList
  else if c ≠ '\n' ∧ isControl c then some (spelledControl c)
  else none

/-- The content of a string of one line between quotation marks. -/
def basicContent (text : Text) : Text :=
  text.flatMap fun c ↦
    if c = '"' then "\\\"".toList
    else if c = '\n' then "\\n".toList
    else (spelled? c).getD [c]

/-- The content of a string of several lines between quotation marks, `run` of which have been
written just before. A third one in a row is spelled with a backslash. -/
def blockContent (run : Nat) : Text → Text
  | [] => []
  | c :: rest =>
    if c = '"' then
      if run < 2 then c :: blockContent (run + 1) rest
      else "\\\"".toList ++ blockContent 0 rest
    else (spelled? c).getD [c] ++ blockContent 0 rest

/-- The line break after the opening marks of a text of several lines. -/
def openingBreak (text : Text) : Text :=
  if text.contains '\n' then ['\n'] else []

/-- Whether a text holds a character that apostrophes cannot hold, line feeds aside. -/
def hasControl (text : Text) : Bool :=
  text.any fun c ↦ c != '\n' && isControl c

/-- A text as a TOML string. -/
def stringText (text : Text) : Text :=
  let multiline := text.contains '\n'
  let block := "\"\"\"".toList
  let literalBlock := "'''".toList
  if !hasControl text && !multiline && !text.contains '\\' && !text.contains '"' then
    ['"'] ++ basicContent text ++ ['"']
  else if !hasControl text && !multiline && !text.contains '\'' then ['\''] ++ text ++ ['\'']
  else if !hasControl text && !text.contains '\\' && longestRun '"' 0 text ≤ 2 then
    block ++ openingBreak text ++ blockContent 0 text ++ block
  else if !hasControl text && longestRun '\'' 0 text ≤ 2 then
    literalBlock ++ openingBreak text ++ text ++ literalBlock
  else if multiline then block ++ openingBreak text ++ blockContent 0 text ++ block
  else ['"'] ++ basicContent text ++ ['"']

end KeyPathQuery.Toml
