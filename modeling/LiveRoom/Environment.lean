import LiveRoom.Text.Utf8

/-!
# Environments

The variables of a process have names that are text and values that are bytes.  Where a
variable is set twice, the first value counts.
-/

namespace LiveRoom

/-- **The variables of a process** with their values. -/
abbrev Environment := List (String × List UInt8)

namespace Environment

/-- The bytes of a variable's value. -/
def bytes? (environment : Environment) (name : String) : Option (List UInt8) :=
  (environment.find? fun entry => entry.1 = name).map (·.2)

/-- The text of a variable's value, if it is text. -/
def text? (environment : Environment) (name : String) : Option String :=
  ((environment.bytes? name).bind Utf8.decode?).map String.ofList

/-- The variables of these names, in this order, as far as they are set. -/
def only (environment : Environment) (names : List String) : Environment :=
  names.filterMap fun name => (environment.bytes? name).map fun value => (name, value)

end Environment

end LiveRoom
