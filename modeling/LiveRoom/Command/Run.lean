import LiveRoom.Command
import LiveRoom.Dialogue

/-!
# Running a command

`Command.dialogue` turns a command's plan into a dialogue.  It asks for at most one
line and hands over at most one request, in this order.  The request is written before it is
handed over; what cannot be written is not sent.

Input that has ended is an empty answer, which no question offers.
-/

namespace LiveRoom

/-- **Why a command brought no response.** -/
inductive CommandError where
  /-- It was refused; nothing was sent. -/
  | rejected (why : Rejection)
  /-- What was to be sent could not be written; nothing was sent. -/
  | unwritable (reason : String)
  /-- The answer to its question could not be read; nothing was sent. -/
  | unreadable (reason : String)
  /-- The request failed. -/
  | link (error : LinkError)
  deriving DecidableEq, Repr

/-- A failed command and the causes behind it, in words. -/
def CommandError.chain : CommandError → List String
  | .rejected why => [why.message]
  | .unwritable reason => ["failed to encode request", reason]
  | .unreadable reason => ["failed to read input", reason]
  | .link error => error.chain

/-- The failure and its causes on one line. -/
def CommandError.message (error : CommandError) : String := ": ".intercalate error.chain

/-- What an answer says; input that has ended says nothing. -/
def Input.answer : Input → Except String String
  | .line text => .ok (Text.trimmed text)
  | .ended => .ok ""
  | .failed reason => .error reason

namespace Command

variable {σ τ : Type}

/-- The entry that a request is ready. -/
def builtEntry (command : Command) : Log.Entry :=
  ⟨.info, "ialctl::commands", "request built",
    [("command", .quoted command.description), ("path", .quoted command.path)]⟩

/-- Hands a request over and waits for what comes back. -/
def hand (command : Command) (body : Option String) : Dialogue (Except CommandError Response) :=
  .note command.builtEntry <| .post command.path body fun result =>
    .done (result.mapError .link)

/-- Writes what is to be sent, and hands it over. -/
def deliver (command : Command) : Option Payload → Dialogue (Except CommandError Response)
  | none => command.hand none
  | some payload =>
    match payload.encode with
    | .error reason => .done (.error (.unwritable reason))
    | .ok body => command.hand (some body)

/-- Every payload can be written. -/
theorem deliver_eq_hand (command : Command) (payload : Option Payload) :
    command.deliver payload = command.hand (payload.map Payload.body) := by
  cases payload <;> rfl

/-- **What a command does.** -/
def dialogue (command : Command) (config : Config) : Dialogue (Except CommandError Response) :=
  match command.plan config with
  | .send payload => command.deliver payload
  | .refuse why => .done (.error (.rejected why))
  | .ask prompt payload? => .ask prompt fun input =>
    match input.answer with
    | .error reason => .done (.error (.unreadable reason))
    | .ok answer =>
      match payload? answer with
      | none => .done (.error (.rejected (.notOffered answer)))
      | some payload => command.deliver (some payload)

/-- **Runs a command** with the states of its source of answers and its link. -/
def run (command : Command) (config : Config) (source : LineSource σ) (link : Link τ)
    (s : σ) (t : τ) : Performance σ τ (Except CommandError Response) :=
  (command.dialogue config).run source link s t

end Command

end LiveRoom
