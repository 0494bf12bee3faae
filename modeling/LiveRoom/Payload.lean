import LiveRoom.Config

/-!
# What is sent to the service and what comes back

Each request that carries a body has a payload type of its own.  The keys are
those of the service's messages; a list is always written, also when it is empty,
and the service's spelling of `backgroud` is kept.

The service answers every request with a `ServiceReply`, all of whose fields may
be left out.
-/

namespace LiveRoom

open Json (Format Fields)

/-- **An output of a room**: its setting, and places for its stream. -/
structure OutputStream where
  settingId : String
  urls : List String
  deriving DecidableEq, Repr

/-- **Opening a room** with its inputs and outputs. -/
structure CreateRoom where
  roomId : String
  inputUrls : List String
  outputBaseUrl : String
  outputs : List OutputStream
  deriving DecidableEq, Repr

/-- **One input**, to be added, closed or asked about. -/
structure InputStream where
  url : String
  deriving DecidableEq, Repr

/-- **One output setting**, to be closed or asked about. -/
structure OutputSetting where
  settingId : String
  deriving DecidableEq, Repr

/-- **Inputs to mute and to unmute.** -/
structure Muting where
  mute : List String := []
  unmute : List String := []
  deriving DecidableEq, Repr

/-- **How the inputs share the picture.** -/
inductive Layout where
  | single
  | fourEqual
  | nineEqual
  deriving DecidableEq, Repr

/-- The service's name of a layout. -/
def Layout.name : Layout → String
  | .single => "eSingle_1"
  | .fourEqual => "eEqual_4"
  | .nineEqual => "eEqual_9"

/-- All layouts, in the order of their numbers. -/
def Layout.all : List Layout := [.single, .fourEqual, .nineEqual]

/-- The new layout, in the object that holds it. -/
structure LayoutUpdate where
  layout : Layout
  deriving DecidableEq, Repr

/-- **A change of layout.** -/
structure LayoutChange where
  newLayout : LayoutUpdate
  deriving DecidableEq, Repr

/-- **A change of the background image.** -/
structure BackgroundChange where
  imageUrl : String
  deriving DecidableEq, Repr

/-- **The service's answer** to any request. -/
structure ServiceReply where
  code : Int32 := 0
  msg : String := ""
  synchronous : Bool := false
  deriving DecidableEq, Repr

/-! ## As JSON -/

/-- Both fields of an output are required. -/
def OutputStream.format : Format OutputStream :=
  .record "OutputStreamInfo"
    (.cons "outputSettingId" .text none <|
      .cons "outputUrls" (.list .text) none .nil)
    (fun (settingId, urls, ()) => ⟨settingId, urls⟩)
    (fun output => (output.settingId, output.urls, ()))

/-- All fields of a new room are required. -/
def CreateRoom.format : Format CreateRoom :=
  .record "CreateRoom"
    (.cons "roomId" .text none <|
      .cons "inputUrls" (.list .text) none <|
      .cons "roomOutputBaseUrl" .text none <|
      .cons "outputStreamInfos" (.list OutputStream.format) none .nil)
    (fun (roomId, inputUrls, outputBaseUrl, outputs, ()) =>
      ⟨roomId, inputUrls, outputBaseUrl, outputs⟩)
    (fun room => (room.roomId, room.inputUrls, room.outputBaseUrl, room.outputs, ()))

/-- The locator of an input is required. -/
def InputStream.format : Format InputStream :=
  .record "InputStream" (.cons "inputUrl" .text none .nil)
    (fun (url, ()) => ⟨url⟩) (fun input => (input.url, ()))

/-- The name of an output setting is required. -/
def OutputSetting.format : Format OutputSetting :=
  .record "OutputSetting" (.cons "outputSettingId" .text none .nil)
    (fun (settingId, ()) => ⟨settingId⟩) (fun output => (output.settingId, ()))

/-- Both lists are required. -/
def Muting.format : Format Muting :=
  .record "AudioMixMuteUnMute"
    (.cons "muteInputUrls" (.list .text) none <|
      .cons "unmuteInputUrls" (.list .text) none .nil)
    (fun (mute, unmute, ()) => ⟨mute, unmute⟩)
    (fun muting => (muting.mute, muting.unmute, ()))

/-- A layout is its name. -/
def Layout.format : Format Layout := .choice Layout.name Layout.all

/-- The layout is required. -/
def LayoutUpdate.format : Format LayoutUpdate :=
  .record "LayoutUpdate" (.cons "layout" Layout.format none .nil)
    (fun (layout, ()) => ⟨layout⟩) (fun update => (update.layout, ()))

/-- The new layout is required. -/
def LayoutChange.format : Format LayoutChange :=
  .record "VideoMixChangeLayout" (.cons "newLayout" LayoutUpdate.format none .nil)
    (fun (newLayout, ()) => ⟨newLayout⟩) (fun change => (change.newLayout, ()))

/-- The locator of the image is required. -/
def BackgroundChange.format : Format BackgroundChange :=
  .record "VideoMixUpdateBackgroud" (.cons "backgroudImageUrl" .text none .nil)
    (fun (imageUrl, ()) => ⟨imageUrl⟩) (fun change => (change.imageUrl, ()))

/-- Every field of a reply has a default. -/
def ServiceReply.format : Format ServiceReply :=
  .record "CommonResponse"
    (.cons "code" .int32 (some 0) <|
      .cons "msg" .text (some "") <|
      .cons "bSyncResp" .flag (some false) .nil)
    (fun (code, msg, synchronous, ()) => ⟨code, msg, synchronous⟩)
    (fun reply => (reply.code, reply.msg, reply.synchronous, ()))

/-- The reply that a body holds, or `none` where it holds none. -/
def ServiceReply.ofBody? (body : String) : Option ServiceReply :=
  (ServiceReply.format.parse body).toOption

/-! ## Payloads -/

/-- **The payload of a request.** -/
inductive Payload where
  | room (room : CreateRoom)
  | input (input : InputStream)
  | output (output : OutputStream)
  | setting (setting : OutputSetting)
  | muting (muting : Muting)
  | layout (change : LayoutChange)
  | background (change : BackgroundChange)
  deriving DecidableEq, Repr

/-- A payload as a JSON value. -/
def Payload.toJson : Payload → Json
  | .room value => CreateRoom.format.encode value
  | .input value => InputStream.format.encode value
  | .output value => OutputStream.format.encode value
  | .setting value => OutputSetting.format.encode value
  | .muting value => Muting.format.encode value
  | .layout value => LayoutChange.format.encode value
  | .background value => BackgroundChange.format.encode value

/-- The text of a payload as it is sent. -/
def Payload.body (payload : Payload) : String := payload.toJson.pretty

/-- **Writes a payload**, or tells why it cannot be written.  Texts and lists and records of
them always can. -/
def Payload.encode (payload : Payload) : Except String String := .ok payload.body

end LiveRoom
