import LiveRoom.Domain.Label

/-!
# Names in ASCII

A name of a host may be typed in any script.  It is looked up in ASCII: each character is
replaced by what it stands for, the text is brought into composed form, and each label
between dots is written in ASCII.  A name with a label from right to left is one only if
every label keeps its place.
-/

namespace LiveRoom.Domain

/-- **A name in ASCII**, or `none` where the text is no name. -/
def ascii? (text : List Char) : Option (List Char) := do
  let meant ← text.mapM meaning?
  let labels ← (Text.pieces (· == '.') (Text.composed meant.flatten)).mapM Label.ofText?
  if labels.any Label.turnsLeft && !labels.all Label.keepsPlace then none
  else some (['.'].intercalate (labels.map Label.written))

end LiveRoom.Domain
