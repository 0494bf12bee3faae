/-!
# Sets of characters given by ranges

Unicode states its properties as ranges of code points.  `Ranges` keeps such a
list as it stands, and `Ranges.has` asks whether a character lies in one of
them.  A property with two answers, such as being blank, being hidden or being
wordlike, is a table of this type.
-/

namespace LiveRoom.Text

/-- **A set of characters**, as closed ranges of code points. -/
abbrev Ranges := List (Nat × Nat)

/-- Whether a character lies in one of the ranges. -/
def Ranges.has (ranges : Ranges) (c : Char) : Bool :=
  ranges.any fun range => range.1 ≤ c.toNat && c.toNat ≤ range.2

end LiveRoom.Text
