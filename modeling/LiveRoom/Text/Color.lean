/-!
# Coloured text

Warnings are yellow and failures red.  Colour is switched on by an escape sequence
in front of the text and reset by another behind it.
-/

namespace LiveRoom.Text

/-- Switches to a colour of the terminal's palette. -/
def colorStart (index : Nat) : String := "\x1b[38;5;" ++ toString index ++ "m"

/-- Resets the colour. -/
def colorEnd : String := "\x1b[39m"

/-- Text in the colour of warnings. -/
def yellow (text : String) : String := colorStart 11 ++ text ++ colorEnd

/-- Text in the colour of failures. -/
def red (text : String) : String := colorStart 9 ++ text ++ colorEnd

end LiveRoom.Text
