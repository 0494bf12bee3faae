/-!
# Log entries

While it runs, the program notes what it does.  An entry has a level, the part of
the program it comes from (its target), a fixed message, and fields in order.  A
field value remembers whether it is shown between quotes; where entries are listed
as data the two kinds of text are the same.
-/

namespace LiveRoom.Log

/-- **How grave an entry is**, from the gravest on. -/
inductive Level where
  | error
  | warn
  | info
  | debug
  | trace
  deriving DecidableEq, Repr

/-- The rank of a level: a filter that lets through one rank lets through all lower
ones. -/
def Level.rank : Level → Nat
  | .error => 1
  | .warn => 2
  | .info => 3
  | .debug => 4
  | .trace => 5

def Level.name : Level → String
  | .error => "ERROR"
  | .warn => "WARN"
  | .info => "INFO"
  | .debug => "DEBUG"
  | .trace => "TRACE"

/-- **The value of a field.** -/
inductive Value where
  /-- Text shown between quotes. -/
  | quoted (text : String)
  /-- Text shown as it is. -/
  | plain (text : String)
  | whole (value : Int)
  | flag (value : Bool)
  deriving DecidableEq, Repr

/-- **A log entry.** -/
structure Entry where
  level : Level
  target : String
  message : String
  fields : List (String × Value)
  deriving DecidableEq, Repr

end LiveRoom.Log
