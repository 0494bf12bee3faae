import LiveRoom.Text.Ranges

/-!
# Blank characters and trimming

What a user types is read without the blanks around it.  A blank is a character
with Unicode's `White_Space` property: besides the space and the ASCII controls
from tab to carriage return these are the no-break spaces, the typographic
spaces and the line and paragraph separators, but neither the zero-width space
nor the byte order mark.

`trim` drops the blanks at both ends and keeps those inside.
-/

namespace LiveRoom.Text

/-- The code points with the `White_Space` property. -/
def blanks : Ranges :=
  [(0x09, 0x0D), (0x20, 0x20), (0x85, 0x85), (0xA0, 0xA0), (0x1680, 0x1680),
   (0x2000, 0x200A), (0x2028, 0x2029), (0x202F, 0x202F), (0x205F, 0x205F),
   (0x3000, 0x3000)]

/-- **A blank**: a character with the `White_Space` property. -/
def isBlank (c : Char) : Bool := blanks.has c

/-- The text after its leading blanks. -/
def trimStart (text : List Char) : List Char := text.dropWhile isBlank

/-- The text before its trailing characters of one kind. -/
def dropWhileEnd (p : Char → Bool) (text : List Char) : List Char :=
  (text.reverse.dropWhile p).reverse

/-- The text without the blanks around it. -/
def trim (text : List Char) : List Char := dropWhileEnd isBlank (trimStart text)

/-- `trim`, on strings. -/
def trimmed (text : String) : String := String.ofList (trim text.toList)

end LiveRoom.Text
