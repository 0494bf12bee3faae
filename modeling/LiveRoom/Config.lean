import LiveRoom.Json.Format

/-!
# Configuration

What a command needs besides the user's answers: where the service is, the room,
the inputs that can be chosen by number, the three output presets and a
background image.  The defaults suit a service on the local machine.

A configuration is read from JSON with its defaults filled in field by field, in
the presets as well; only a preset that is given must name its setting.
-/

namespace LiveRoom

/-- **An output setting of the service**, with the place where its stream goes; the
service chooses the place when none is given. -/
structure OutputPreset where
  settingId : String
  url : Option String
  deriving DecidableEq, Repr

/-- The places to send along with a preset: its own one, if it has one. -/
def OutputPreset.urls (preset : OutputPreset) : List String := preset.url.toList

/-- **The three outputs on offer.** -/
structure OutputPresets where
  hd720 : OutputPreset := ⟨"720p_2000kb", some "output_720p.flv"⟩
  hd1080 : OutputPreset := ⟨"1080p_4000kb", none⟩
  udp720 : OutputPreset := ⟨"udp_720p", some "udp://127.0.0.1:12345"⟩
  deriving DecidableEq, Repr

/-- **The configuration.** -/
structure Config where
  /-- The address of the service, without the path of an endpoint. -/
  serverUrl : String := "http://127.0.0.1:8080"
  roomId : String := "ial_test"
  /-- The inputs, chosen by their number from one on. -/
  inputs : List String := ["bunny.avi", "soccer_adidas_ad.mp4", "nba_ad.mp4"]
  /-- Where the service places the outputs that have no place of their own. -/
  outputBaseUrl : String := "./"
  outputs : OutputPresets := {}
  backgroundImageUrl : String := "../../../asset/ffdynamic-bg2.jpg"
  deriving DecidableEq, Repr

/-- The configuration when nothing else is said. -/
def Config.default : Config := {}

/-- The input with a number, counted from one. -/
def Config.input? (config : Config) : (number : Nat) → Option String
  | 0 => none
  | index + 1 => config.inputs[index]?

/-! ## As JSON -/

open Json (Format Fields)

/-- An output preset: its setting must be given, its place need not. -/
def OutputPreset.format : Format OutputPreset :=
  .record "OutputPreset"
    (.cons "setting_id" .text none <|
      .cons "url" .optionalText (some none) .nil)
    (fun (settingId, url, ()) => ⟨settingId, url⟩)
    (fun preset => (preset.settingId, preset.url, ()))

/-- The three presets, each with its default. -/
def OutputPresets.format : Format OutputPresets :=
  let defaults : OutputPresets := {}
  .record "OutputPresets"
    (.cons "hd720" OutputPreset.format (some defaults.hd720) <|
      .cons "hd1080" OutputPreset.format (some defaults.hd1080) <|
      .cons "udp720" OutputPreset.format (some defaults.udp720) .nil)
    (fun (hd720, hd1080, udp720, ()) => ⟨hd720, hd1080, udp720⟩)
    (fun presets => (presets.hd720, presets.hd1080, presets.udp720, ()))

/-- The configuration, each field with its default. -/
def Config.format : Format Config :=
  let defaults := Config.default
  .record "Config"
    (.cons "server_url" .text (some defaults.serverUrl) <|
      .cons "room_id" .text (some defaults.roomId) <|
      .cons "inputs" (.list .text) (some defaults.inputs) <|
      .cons "output_base_url" .text (some defaults.outputBaseUrl) <|
      .cons "outputs" OutputPresets.format (some defaults.outputs) <|
      .cons "background_image_url" .text (some defaults.backgroundImageUrl) .nil)
    (fun (serverUrl, roomId, inputs, outputBaseUrl, outputs, backgroundImageUrl, ()) =>
      ⟨serverUrl, roomId, inputs, outputBaseUrl, outputs, backgroundImageUrl⟩)
    (fun config => (config.serverUrl, config.roomId, config.inputs, config.outputBaseUrl,
      config.outputs, config.backgroundImageUrl, ()))

/-- **Reads a configuration** from its JSON text. -/
def Config.ofJson (text : String) : Except Json.ParseError Config := Config.format.parse text

end LiveRoom
