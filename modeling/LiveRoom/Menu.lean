import LiveRoom.Command.Run
import LiveRoom.Text.Color

/-!
# The menu

The menu is shown, a line is read, the command it names is run and its outcome
printed; then the same again.  One such turn is a finite dialogue, `Menu.turn`.  A
blank line or the end of input finishes the session, a failure to read ends it with
that failure, and nothing else ends it: an unknown choice, a refusal or a failed
request is reported and the menu comes back.

Every turn that does not end the session has read a line, so `Menu.run` ends
whatever the link does.
-/

namespace LiveRoom

/-- **How a session ends.** -/
inductive Ending where
  | finished
  | failed (reason : String)
  deriving DecidableEq, Repr

namespace Menu

variable {σ τ : Type}

/-- What the top level asks. -/
def question : String := "Enter choice (or leave blank to finish)"

/-- The menu as it is shown. -/
def display : String := "\n" ++ Command.usage ++ "\n"

/-- The last words of a finished session. -/
def farewell : String := "=> exit\n"

/-- The end of a turn that finishes the session. -/
def finish : Dialogue (Option Ending) := .print farewell (.done (some .finished))

/-- The report of a choice that is not in the menu. -/
def reportUnknown (choice : String) : Dialogue (Option Ending) :=
  .note ⟨.warn, "ialctl::ui", "unknown menu choice", [("choice", .quoted choice)]⟩ <|
  .print (Text.yellow ("unknown choice " ++ Text.quoted choice ++
    ", pick a number from the menu") ++ "\n") <|
  .done none

def report (choice : String) : Except CommandError Response → Dialogue (Option Ending)
  | .ok response =>
    .note ⟨.info, "ialctl::ui", "request done",
      [("choice", .quoted choice), ("status", .whole response.status)]⟩ <|
    .print (response.url ++ " " ++ response.body ++ "\n") <|
    .done none
  | .error (.rejected why) =>
    .note ⟨.warn, "ialctl::ui", "command rejected",
      [("choice", .quoted choice), ("msg", .plain why.message)]⟩ <|
    .print (Text.yellow why.message ++ "\n") <|
    .done none
  | .error error =>
    .note ⟨.warn, "ialctl::ui", "command failed",
      [("choice", .quoted choice), ("error", .plain error.message)]⟩ <|
    .print (Text.red ("choice " ++ choice ++ " failed: " ++ error.message) ++ "\n") <|
    .done none

/-- What a line at the top level leads to. -/
def obey (config : Config) : Input → Dialogue (Option Ending)
  | .ended => finish
  | .failed reason => .done (some (.failed reason))
  | .line text =>
    let choice := Text.trimmed text
    if choice = "" then finish
    else
      match Command.find? choice with
      | none => reportUnknown choice
      | some command => (command.dialogue config).bind (report choice)

/-- **One turn of the menu.**  Its result tells how the session ended, or is `none`
if the menu comes back. -/
def turn (config : Config) : Dialogue (Option Ending) :=
  .print display <| .ask question <| obey config

/-- One turn with the states of source and link. -/
def round (config : Config) (source : LineSource σ) (link : Link τ) (s : σ) (t : τ) :
    Performance σ τ (Option Ending) :=
  (turn config).run source link s t

/-- A turn after which the menu comes back has used up a line. -/
theorem left_round_lt {config : Config} {source : LineSource σ} {link : Link τ} {s : σ} {t : τ}
    (h : (round config source link s t).result = none) :
    source.left (round config source link s t).source < source.left s := by
  have hrest := Dialogue.left_run_le source link (obey config (source.next s).1)
    (source.next s).2 t
  change source.left ((obey config (source.next s).1).run source link (source.next s).2 t).source
    < source.left s
  change ((obey config (source.next s).1).run source link (source.next s).2 t).result = none at h
  cases hread : (source.next s).1 with
  | ended =>
    rw [hread] at h
    contradiction
  | failed reason =>
    rw [hread] at h
    contradiction
  | line text =>
    rw [hread] at hrest
    exact Nat.lt_of_le_of_lt hrest (source.left_next_lt hread)

/-- **The session**: turns until one ends it. -/
def run (config : Config) (source : LineSource σ) (link : Link τ) (s : σ) (t : τ) :
    Performance σ τ Ending :=
  let first := round config source link s t
  match h : first.result with
  | some ending => ⟨first.trace, ending, first.source, first.link⟩
  | none =>
    have := left_round_lt h
    (run config source link first.source first.link).after first.trace
termination_by source.left s

end Menu

end LiveRoom
