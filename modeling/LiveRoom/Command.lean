import LiveRoom.Payload
import LiveRoom.Text.Blank
import LiveRoom.Text.Numeral
import LiveRoom.Text.Quoted

/-!
# Commands

The menu offers eleven commands.  Each has a token, which is what the user types,
a description, and the path of the endpoint that its request goes to.

What a command does with a configuration is its `Plan`.  It sends a request at
once, refuses, or asks one question and turns the answer into a request.  So no
command asks more than once, none asks after it has sent, and none sends twice;
running a plan (`LiveRoom.Command.Run`) adds nothing to this.

An answer is trimmed before it is looked at.  One that the question does not offer
is quoted back, and nothing is sent.
-/

namespace LiveRoom

/-- **A command of the menu.** -/
inductive Command where
  | createRoom
  | addInput
  | addOutput
  | closeInput
  | closeOutput
  | mute
  | changeLayout
  | changeBackground
  | stop
  | queryInput
  | queryOutput
  deriving DecidableEq, Repr

namespace Command

/-- All commands, in the order of the menu. -/
def all : List Command :=
  [.createRoom, .addInput, .addOutput, .closeInput, .closeOutput, .mute, .changeLayout,
   .changeBackground, .stop, .queryInput, .queryOutput]

/-- What the user types to choose a command. -/
def token : Command → String
  | .createRoom => "1"
  | .addInput => "2"
  | .addOutput => "3"
  | .closeInput => "4"
  | .closeOutput => "5"
  | .mute => "6"
  | .changeLayout => "7"
  | .changeBackground => "8"
  | .stop => "10"
  | .queryInput => "11"
  | .queryOutput => "12"

/-- What a command does, in words. -/
def description : Command → String
  | .createRoom => "create room"
  | .addInput => "add new input"
  | .addOutput => "add new output"
  | .closeInput => "close one input"
  | .closeOutput => "close one output"
  | .mute => "mute/unmute"
  | .changeLayout => "layout change"
  | .changeBackground => "mix background update"
  | .stop => "stop"
  | .queryInput => "query input stream info"
  | .queryOutput => "query output stream info"

/-- The path of a command's endpoint. -/
def path : Command → String
  | .createRoom => "/api1/ial/create_room"
  | .addInput => "/api1/ial/add_new_input_stream"
  | .addOutput => "/api1/ial/add_new_output"
  | .closeInput => "/api1/ial/close_one_input_stream"
  | .closeOutput => "/api1/ial/close_one_output"
  | .mute => "/api1/ial/mute_unmute_stream"
  | .changeLayout => "/api1/ial/mix_layout_change"
  | .changeBackground => "/api1/ial/mix_backgroud_update"
  | .stop => "/api1/ial/stop"
  | .queryInput => "/api1/ial/input_stream_info"
  | .queryOutput => "/api1/ial/output_stream_info"

/-- The command with a token. -/
def find? (token : String) : Option Command := all.find? fun command => command.token = token

/-- The line of a command in the menu, its token in two columns. -/
def usageLine (command : Command) : String :=
  let token := command.token
  "    " ++ String.ofList (List.replicate (2 - token.length) ' ') ++ token ++ " -> " ++
    command.description ++ "\n"

/-- **The text of the menu.** -/
def usage : String := String.join (all.map usageLine)

end Command

/-! ## Plans -/

/-- **Why a command is refused** before anything is sent. -/
inductive Rejection where
  /-- The answer is not among those offered. -/
  | notOffered (answer : String)
  /-- There is no input for a new room. -/
  | noInput
  /-- There are not two inputs to mute or unmute. -/
  | tooFewInputs
  deriving DecidableEq, Repr

def Rejection.message : Rejection → String
  | .notOffered answer => "not a valid choice " ++ Text.quoted answer ++ ", nothing sent"
  | .noInput => "no input configured for the room"
  | .tooFewInputs => "mute/unmute needs at least two configured inputs, nothing sent"

/-- **What a command does** with a configuration. -/
inductive Plan where
  /-- Send a request at once; without a payload its body is empty. -/
  | send (payload : Option Payload)
  /-- Refuse. -/
  | refuse (why : Rejection)
  /-- Ask, and send what the trimmed answer stands for. -/
  | ask (prompt : String) (payload? : String → Option Payload)

namespace Plan

/-- Asks for one of the configured inputs by its number. -/
def askInput (config : Config) (verb : String) : Plan :=
  .ask ("Enter choice 1-" ++ toString config.inputs.length ++ " to " ++ verb ++ " one of " ++
      ", ".intercalate config.inputs)
    fun answer => do
      let number ← Text.numeral? answer.toList
      let url ← config.input? number
      return .input ⟨url⟩

/-- The preset with a number. -/
def preset? (presets : OutputPresets) : String → Option OutputPreset
  | "1" => some presets.hd720
  | "2" => some presets.hd1080
  | "3" => some presets.udp720
  | _ => none

/-- Asks for one of the three presets. -/
def askPreset (presets : OutputPresets) (verb : String) : Plan :=
  .ask ("Enter choice 1, 2 or 3 to " ++ verb ++ " output " ++ presets.hd720.settingId ++ ", " ++
      presets.hd1080.settingId ++ " or " ++ presets.udp720.settingId)
    fun answer => (preset? presets answer).map fun preset => .setting ⟨preset.settingId⟩

/-- A new room has the first input and the first preset. -/
def createRoom (config : Config) : Plan :=
  match config.input? 1 with
  | none => .refuse .noInput
  | some input =>
    let preset := config.outputs.hd720
    .send <| some <| .room
      { roomId := config.roomId
        inputUrls := [input]
        outputBaseUrl := config.outputBaseUrl
        outputs := [⟨preset.settingId, preset.urls⟩] }

/-- Asks for one of the two presets that can be added to a room. -/
def addOutput (presets : OutputPresets) : Plan :=
  let payload (preset : OutputPreset) : Payload := .output ⟨preset.settingId, preset.urls⟩
  .ask ("Enter choice 1 for " ++ presets.hd1080.settingId ++ " output setting, 2 for " ++
      presets.udp720.settingId ++ " setting")
    fun
    | "1" => some (payload presets.hd1080)
    | "2" => some (payload presets.udp720)
    | _ => none

/-- Asks whether the first two inputs are to be muted or unmuted. -/
def mute (inputs : List String) : Plan :=
  if inputs.length < 2 then .refuse .tooFewInputs
  else
    let targets := inputs.take 2
    .ask ("Enter choice 1 to mute, 2 to unmute " ++ " & ".intercalate targets)
      fun
      | "1" => some (.muting { mute := targets })
      | "2" => some (.muting { unmute := targets })
      | _ => none

/-- Asks for one of the three layouts. -/
def changeLayout : Plan :=
  let payload (layout : Layout) : Payload := .layout ⟨⟨layout⟩⟩
  .ask "Enter choice 1, 2 or 3 to choose eSingle_1, eEqual_4, eEqual_9"
    fun
    | "1" => some (payload .single)
    | "2" => some (payload .fourEqual)
    | "3" => some (payload .nineEqual)
    | _ => none

/-- Asks for an image: `1` is the configured one, any other text its locator. -/
def changeBackground (imageUrl : String) : Plan :=
  .ask ("Enter new background image url (1 for " ++ imageUrl ++ ")")
    fun
    | "" => none
    | "1" => some (.background ⟨imageUrl⟩)
    | answer => some (.background ⟨answer⟩)

end Plan

/-- **The plan of a command** with a configuration. -/
def Command.plan (command : Command) (config : Config) : Plan :=
  match command with
  | .createRoom => .createRoom config
  | .addInput => .askInput config "add"
  | .addOutput => .addOutput config.outputs
  | .closeInput => .askInput config "close"
  | .closeOutput => .askPreset config.outputs "close"
  | .mute => .mute config.inputs
  | .changeLayout => .changeLayout
  | .changeBackground => .changeBackground config.backgroundImageUrl
  | .stop => .send none
  | .queryInput => .askInput config "query"
  | .queryOutput => .askPreset config.outputs "query"

end LiveRoom
