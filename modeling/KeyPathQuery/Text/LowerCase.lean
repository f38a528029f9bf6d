import KeyPathQuery.Text
import KeyPathQuery.Text.Cased
import KeyPathQuery.Text.LowerCaseMapping

/-!
The lower-case form of a text. Two characters need more than the table of small letters. A
capital I with a dot keeps its dot as a combining mark of its own. A capital sigma becomes the
final sigma where a word ends: a cased letter stands before it and none after it, both times
passing over the characters that case decisions ignore.
-/

set_option autoImplicit false
set_option relaxedAutoImplicit false

namespace KeyPathQuery.Text

/-- Whether the first character that case decisions do not pass over is cased. -/
def meetsCased (text : Text) : Bool :=
  match text.dropWhile isCaseIgnorable with
  | [] => false
  | c :: _ => isCased c

/-- The small sigma for a capital sigma with the given characters before it, the nearest
first, and after it. -/
def smallSigma (before after : Text) : Char :=
  if meetsCased before && !meetsCased after then 'ς' else 'σ'

/-- The lower-case form of one character between those before it, the nearest first, and those
after it. -/
def lowerCaseChar (before : Text) (c : Char) (after : Text) : Text :=
  if c = 'Σ' then [smallSigma before after]
  else if c = 'İ' then ['i', '\u0307']
  else [smallLetter c]

/-- The lower-case form of a text that follows the characters `before`, the nearest first. -/
def lowerCaseAfter (before : Text) : Text → Text
  | [] => []
  | c :: rest => lowerCaseChar before c rest ++ lowerCaseAfter (c :: before) rest

/-- The lower-case form of a text. -/
def lowerCase (text : Text) : Text :=
  lowerCaseAfter [] text

end KeyPathQuery.Text
