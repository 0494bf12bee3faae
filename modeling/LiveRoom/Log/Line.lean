import LiveRoom.Log.Entry
import LiveRoom.Text.Quoted

/-!
# Log lines

A log entry becomes one line: the time, the level right-aligned to five, the target,
the message, and the fields as `name=value`.  With styles the time and all
punctuation are dim, the level has the colour of its gravity and the field names
are italic.

The time is given by whoever writes the line, as it is no part of the entry.
-/

namespace LiveRoom.Log

def Value.render : Value → String
  | .quoted text => Text.quoted text
  | .plain text => text
  | .whole value => toString value
  | .flag value => if value then "true" else "false"

/-- A styled piece of text; without styles the text itself. -/
def styled (styles : Bool) (code : String) (text : String) : String :=
  if styles then "\x1b[" ++ code ++ "m" ++ text ++ "\x1b[0m" else text

def dim : String := "2"

def italic : String := "3"

def Level.color : Level → String
  | .error => "31"
  | .warn => "33"
  | .info => "32"
  | .debug => "34"
  | .trace => "35"

/-- The name of a level, right-aligned to five columns. -/
def Level.column (level : Level) : String :=
  String.ofList (List.replicate (5 - level.name.length) ' ') ++ level.name

/-- **The line of an entry**, line feed included. -/
def Entry.line (entry : Entry) (styles : Bool) (time : String) : String :=
  let field (pair : String × Value) : String :=
    " " ++ styled styles italic pair.1 ++ styled styles dim "=" ++ pair.2.render
  styled styles dim time ++ " " ++ styled styles entry.level.color entry.level.column ++ " " ++
    styled styles dim entry.target ++ styled styles dim ":" ++ " " ++ entry.message ++
    String.join (entry.fields.map field) ++ "\n"

end LiveRoom.Log
