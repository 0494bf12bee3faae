import LiveRoom.Config
import LiveRoom.Proofs.Json.Records

/-!
# Which texts are configurations

A text is read as a configuration exactly if it is a JSON value that describes it
(`Config.ofJson_eq_ok_iff`).  Here is what that asks of the value, field by field: the key
under which it stands in an object, its place in a list, what its value may be, and what it
is when it is not given.

The presets of a configuration are records in a record, so a default can be filled in at
every level: a configuration without presets has the default ones, and presets with only
some of the three have the default for each of the others.  A preset that is given must name
its setting.
-/

namespace LiveRoom

open Json

/-- **A term describes an output preset**: its setting must be given, its place need not. -/
structure OutputPreset.Describes (term : Term) (preset : OutputPreset) : Prop where
  record : term.IsRecord 2
  settingId : Given IsText none (term.given "setting_id" 0) preset.settingId
  url : Given IsOptionalText (some none) (term.given "url" 1) preset.url

/-- **A term describes the three presets**, each of which need not be given. -/
structure OutputPresets.Describes (term : Term) (presets : OutputPresets) : Prop where
  record : term.IsRecord 3
  hd720 : Given OutputPreset.Describes (some Config.default.outputs.hd720)
    (term.given "hd720" 0) presets.hd720
  hd1080 : Given OutputPreset.Describes (some Config.default.outputs.hd1080)
    (term.given "hd1080" 1) presets.hd1080
  udp720 : Given OutputPreset.Describes (some Config.default.outputs.udp720)
    (term.given "udp720" 2) presets.udp720

/-- **A term describes a configuration**, none of whose fields need be given. -/
structure Config.Describes (term : Term) (config : Config) : Prop where
  record : term.IsRecord 6
  serverUrl : Given IsText (some Config.default.serverUrl) (term.given "server_url" 0)
    config.serverUrl
  roomId : Given IsText (some Config.default.roomId) (term.given "room_id" 1) config.roomId
  inputs : Given (IsList IsText) (some Config.default.inputs) (term.given "inputs" 2)
    config.inputs
  outputBaseUrl : Given IsText (some Config.default.outputBaseUrl)
    (term.given "output_base_url" 3) config.outputBaseUrl
  outputs : Given OutputPresets.Describes (some Config.default.outputs)
    (term.given "outputs" 4) config.outputs
  backgroundImageUrl : Given IsText (some Config.default.backgroundImageUrl)
    (term.given "background_image_url" 5) config.backgroundImageUrl

theorem OutputPreset.format_follows : OutputPreset.format.Follows OutputPreset.Describes := by
  refine (Format.record_follows (.cons _ Format.text_follows (by decide) <|
    .cons _ Format.optionalText_follows (by decide) .nil) fun _ => rfl).congr ?_
  intro term preset
  constructor
  · rintro ⟨⟨settingId, url, ⟨⟩⟩, ⟨hshape, hsettingId, hurl, -⟩, rfl⟩
    exact ⟨hshape, hsettingId, hurl⟩
  · rintro ⟨hshape, hsettingId, hurl⟩
    exact ⟨(preset.settingId, preset.url, ()), ⟨hshape, hsettingId, hurl, trivial⟩, rfl⟩

theorem OutputPresets.format_follows : OutputPresets.format.Follows OutputPresets.Describes := by
  unfold OutputPresets.format
  refine (Format.record_follows (.cons _ OutputPreset.format_follows (by decide) <|
    .cons _ OutputPreset.format_follows (by decide) <|
    .cons _ OutputPreset.format_follows (by decide) .nil) fun _ => rfl).congr ?_
  intro term presets
  constructor
  · rintro ⟨⟨hd720, hd1080, udp720, ⟨⟩⟩, ⟨hshape, hhd720, hhd1080, hudp720, -⟩, rfl⟩
    exact ⟨hshape, hhd720, hhd1080, hudp720⟩
  · rintro ⟨hshape, hhd720, hhd1080, hudp720⟩
    exact ⟨(presets.hd720, presets.hd1080, presets.udp720, ()),
      ⟨hshape, hhd720, hhd1080, hudp720, trivial⟩, rfl⟩

theorem Config.format_follows : Config.format.Follows Config.Describes := by
  unfold Config.format
  refine (Format.record_follows (.cons _ Format.text_follows (by decide) <|
    .cons _ Format.text_follows (by decide) <|
    .cons _ (Format.list_follows Format.text_follows) (by decide) <|
    .cons _ Format.text_follows (by decide) <|
    .cons _ OutputPresets.format_follows (by decide) <|
    .cons _ Format.text_follows (by decide) .nil) fun _ => rfl).congr ?_
  intro term config
  constructor
  · rintro ⟨⟨serverUrl, roomId, inputs, outputBaseUrl, outputs, backgroundImageUrl, ⟨⟩⟩,
      ⟨hshape, hserver, hroom, hinputs, hbase, houtputs, himage, -⟩, rfl⟩
    exact ⟨hshape, hserver, hroom, hinputs, hbase, houtputs, himage⟩
  · rintro ⟨hshape, hserver, hroom, hinputs, hbase, houtputs, himage⟩
    exact ⟨(config.serverUrl, config.roomId, config.inputs, config.outputBaseUrl,
        config.outputs, config.backgroundImageUrl, ()),
      ⟨hshape, hserver, hroom, hinputs, hbase, houtputs, himage, trivial⟩, rfl⟩

/-- **A text is read as a configuration** exactly if it is a JSON value that describes it,
with nothing but blanks around. -/
theorem Config.ofJson_eq_ok_iff (text : String) (config : Config) :
    Config.ofJson text = .ok config ↔
      ∃ term, Document text.toList term ∧ Config.Describes term config :=
  Config.format_follows.parse_eq_ok_iff

end LiveRoom
