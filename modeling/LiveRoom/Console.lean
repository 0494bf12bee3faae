import LiveRoom.Client
import LiveRoom.Config.Load
import LiveRoom.Log.Filter
import LiveRoom.Log.Line
import LiveRoom.Menu
import LiveRoom.Terminal

/-!
# The program at a console

The program is started with an environment, files, a stream of input and a network, and
with a library that speaks HTTP.  It loads the configuration, makes a client for the service
that this names, and shows the menu until the session ends.  The menu goes to the output, the
log and the reason for a failure go to the error output, and the exit code is 0 or 1.

`RUST_LOG` is the filter of the log; without one that can be read, warnings are
written.  `NO_COLOR` turns the styles of the log off.  Neither has any effect on the
output.  Other variables are about proxies, behind which the program sees the network.
-/

namespace LiveRoom

/-- The variable that holds the filter of the log. -/
def filterVariable : String := "RUST_LOG"

/-- The variable that turns the styles of the log off. -/
def plainVariable : String := "NO_COLOR"

/-- **How the log is written.** -/
structure LogSettings where
  filter : Log.Filter
  styles : Bool

/-- The settings of the log in an environment. -/
def LogSettings.ofEnvironment (environment : Environment) : LogSettings where
  filter := ((environment.text? filterVariable).bind Log.Filter.ofText?).getD Log.Filter.warnings
  styles := (environment.text? plainVariable).all (· = "")

/-- What is written about an entry: its line, or nothing. -/
def LogSettings.write (settings : LogSettings) (time : String) (entry : Log.Entry) : String :=
  if settings.filter.admits entry then entry.line settings.styles time else ""

namespace Console

/-! ## What is shown -/

/-- A cause with the lines after its first one indented. -/
def indented (indent : String) (text : String) : String :=
  String.join (text.toList.map fun c => if c = '\n' then "\n" ++ indent else c.toString)

/-- A cause with its number among several. -/
def numbered (number : Nat) (cause : String) : String :=
  let digits := toString number
  String.ofList (List.replicate (5 - digits.length) ' ') ++ digits ++ ": " ++
    indented "       " cause

def causesText : List String → String
  | [] => ""
  | [cause] => "\n\nCaused by:\n    " ++ indented "    " cause
  | causes => "\n\nCaused by:" ++
      String.join (causes.mapIdx fun number cause => "\n" ++ numbered number cause)

/-- **The text of a failure** that ends the program, given with its causes. -/
def failureText (chain : List String) : String :=
  "Error: " ++ chain.headD "" ++ causesText chain.tail ++ "\n"

/-- What an event shows on the output. -/
def shownOf : Event → String
  | .prompt text => Terminal.promptText text
  | .print text => text
  | .post .. => ""
  | .log _ => ""

/-- **What a trace shows** on the output. -/
def shown (trace : Trace) : String := String.join (trace.map shownOf)

/-! ## The program -/

/-- **The program after it has ended.** -/
structure Run (τ : Type) where
  exitCode : Nat
  shown : String
  complaints : String
  network : τ

/-- The variables that are looked at, those about proxies by the library. -/
def variableNames : List String :=
  [configVariable, serverVariable, directoryVariable, homeVariable, filterVariable,
   plainVariable] ++ Http.Proxies.variableNames

/-- The entry that the configuration is loaded. -/
def loadedEntry (config : Config) : Log.Entry :=
  ⟨.info, "ialctl", "config loaded",
    [("server_url", .plain config.serverUrl), ("room_id", .plain config.roomId)]⟩

def clientOf (config : Config) : Client := .ofBase config.serverUrl

variable {τ : Type}

/-- **The session** of a configuration with a stream of input over a network. -/
def session (library : Http.Library) (config : Config) (network : Http.Network τ)
    (input : Stream.Input) (t : τ) : Performance Stream.Input τ Ending :=
  (Menu.run config Terminal.lines ((clientOf config).link library network) input t).after
    [.log (loadedEntry config)]

/-- **Runs the program.**  All entries of the log bear the time that is given. -/
def run (library : Http.Library) (environment : Environment) (accountHome : Path)
    (files : Files) (network : Http.Network τ) (time : String) (input : Stream.Input) (t : τ) :
    Run τ :=
  match Config.ofEnvironment environment accountHome files with
  | .error error => ⟨1, "", failureText error.chain, t⟩
  | .ok config =>
    let outside := network.through (library.proxiesIn environment)
    let ran := session library config outside input t
    let settings := LogSettings.ofEnvironment environment
    let log := String.join (ran.trace.entries.map (settings.write time))
    match ran.result with
    | .finished => ⟨0, shown ran.trace, log, ran.link⟩
    | .failed reason => ⟨1, shown ran.trace, log ++ failureText [reason], ran.link⟩

end Console

end LiveRoom
