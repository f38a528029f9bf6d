import KeyPathQuery.Text

/-!
Regular expressions that match a given text and nothing else: every character that has a
meaning in a regular expression gets a backslash in front.
-/

set_option autoImplicit false
set_option relaxedAutoImplicit false

namespace KeyPathQuery.Document

/-- The characters with a meaning in a regular expression. -/
def patternSigns : Text :=
  "\\.+*?()|[]\x7b\x7d^$#&-~".toList

/-- The regular expression of a text. -/
def literalPattern (text : Text) : Text :=
  text.flatMap fun c ↦ if patternSigns.contains c then ['\\', c] else [c]

end KeyPathQuery.Document
