import LiveRoom.Log.Entry

/-!
# Traces

A run of the program is told by its trace: the list of what could be seen of it
from outside, in order.  There are four kinds of events.  A line was asked for; a
request was handed over for delivery; text was printed; a log entry was written.

Two views of a trace matter.  `Trace.withoutLog` is what is left when nobody
records the log, and `Trace.joined` puts adjacent pieces of printed text together,
since only the text itself can be seen and not the calls that printed it.
-/

namespace LiveRoom

/-- **One thing that happened.** -/
inductive Event where
  /-- A line was asked for with this prompt. -/
  | prompt (text : String)
  /-- A request was handed over, with its body if it has one. -/
  | post (path : String) (body : Option String)
  /-- Text was printed. -/
  | print (text : String)
  /-- A log entry was written. -/
  | log (entry : Log.Entry)
  deriving DecidableEq, Repr

/-- **What happened**, in order. -/
abbrev Trace := List Event

namespace Trace

def isLog : Event → Bool
  | .log _ => true
  | _ => false

def withoutLog (trace : Trace) : Trace := trace.filter fun event => !isLog event

/-- One more event in front of a joined trace: text joins text. -/
def attach : Event → Trace → Trace
  | .print first, .print second :: trace => .print (first ++ second) :: trace
  | event, trace => event :: trace

/-- The trace with adjacent pieces of printed text put together. -/
def joined (trace : Trace) : Trace := trace.foldr attach []

def entries (trace : Trace) : List Log.Entry :=
  trace.filterMap fun
    | .log entry => some entry
    | _ => none

def prompts (trace : Trace) : List String :=
  trace.filterMap fun
    | .prompt text => some text
    | _ => none

def posts (trace : Trace) : List (String × Option String) :=
  trace.filterMap fun
    | .post path body => some (path, body)
    | _ => none

/-! ## Views of longer traces -/

@[simp]
theorem withoutLog_append (first second : Trace) :
    withoutLog (first ++ second) = withoutLog first ++ withoutLog second :=
  List.filter_append ..

@[simp]
theorem prompts_append (first second : Trace) :
    prompts (first ++ second) = prompts first ++ prompts second :=
  List.filterMap_append

@[simp]
theorem posts_append (first second : Trace) :
    posts (first ++ second) = posts first ++ posts second :=
  List.filterMap_append

@[simp]
theorem prompts_cons_post (path : String) (body : Option String) (trace : Trace) :
    prompts (.post path body :: trace) = prompts trace := rfl

@[simp]
theorem posts_cons_post (path : String) (body : Option String) (trace : Trace) :
    posts (.post path body :: trace) = (path, body) :: posts trace := rfl

@[simp]
theorem withoutLog_map_log (log : List Log.Entry) : withoutLog (log.map .log) = [] := by
  induction log with
  | nil => rfl
  | cons entry log ih => exact ih

@[simp]
theorem posts_map_log (log : List Log.Entry) : posts (log.map .log) = [] := by
  induction log with
  | nil => rfl
  | cons entry log ih => exact ih

@[simp]
theorem prompts_map_log (log : List Log.Entry) : prompts (log.map .log) = [] := by
  induction log with
  | nil => rfl
  | cons entry log ih => exact ih

theorem posts_withoutLog (trace : Trace) : posts (withoutLog trace) = posts trace := by
  induction trace with
  | nil => rfl
  | cons event trace ih =>
    cases event with
    | post path body => exact congrArg ((path, body) :: ·) ih
    | prompt text => exact ih
    | print text => exact ih
    | log entry => exact ih

end Trace

end LiveRoom
