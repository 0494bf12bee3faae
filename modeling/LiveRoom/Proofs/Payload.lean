import LiveRoom.Payload
import LiveRoom.Proofs.Json.Tree

/-!
# The members of a payload

The formats of the payloads are built from parts.  Here each payload is one object, and
its members are written out: the keys, their order, and what stands under each of them.

No payload is nested deeper than a new room, whose outputs are objects with lists in them.
So the body of a payload is read back as that object (`Payload.decode?_body`), whatever
characters its texts are made of and however many of them there are.
-/

namespace LiveRoom

def Json.texts (values : List String) : Json := .array (values.map .string)

def OutputStream.members (output : OutputStream) : List (String × Json) :=
  [("outputSettingId", .string output.settingId), ("outputUrls", .texts output.urls)]

/-- **The members of a payload.** -/
def Payload.members : Payload → List (String × Json)
  | .room value =>
    [("roomId", .string value.roomId),
     ("inputUrls", .texts value.inputUrls),
     ("roomOutputBaseUrl", .string value.outputBaseUrl),
     ("outputStreamInfos", .array (value.outputs.map fun output => .object output.members))]
  | .input value => [("inputUrl", .string value.url)]
  | .output value => value.members
  | .setting value => [("outputSettingId", .string value.settingId)]
  | .muting value =>
    [("muteInputUrls", .texts value.mute), ("unmuteInputUrls", .texts value.unmute)]
  | .layout value => [("newLayout", .object [("layout", .string value.newLayout.layout.name)])]
  | .background value => [("backgroudImageUrl", .string value.imageUrl)]

theorem Payload.toJson_eq (payload : Payload) : payload.toJson = .object payload.members := by
  cases payload <;> rfl

/-! ## How deep they are -/

namespace Json

variable {depth : Nat}

theorem fits_string (text : String) : Fits depth (.string text) := by
  cases depth <;> trivial

theorem fits_object_nil : Fits (depth + 1) (.object []) :=
  List.forall_mem_nil _

theorem fits_object_cons {key : String} {value : Json} {members : List (String × Json)}
    (h : Fits depth value) (hmembers : Fits (depth + 1) (.object members)) :
    Fits (depth + 1) (.object ((key, value) :: members)) :=
  List.forall_mem_cons.mpr ⟨h, hmembers⟩

theorem fits_texts (values : List String) : Fits (depth + 1) (texts values) := by
  intro item hitem
  obtain ⟨text, -, rfl⟩ := List.mem_map.mp hitem
  exact fits_string text

theorem fits_outputs (outputs : List OutputStream) :
    Fits (depth + 3) (.array (outputs.map fun output => .object output.members)) := by
  intro item hitem
  obtain ⟨output, -, rfl⟩ := List.mem_map.mp hitem
  exact fits_object_cons (fits_string _) <| fits_object_cons (fits_texts _) fits_object_nil

end Json

open Json

/-- No payload has more than four levels of values in values. -/
theorem Payload.fits_toJson (depth : Nat) (payload : Payload) :
    Fits (depth + 4) payload.toJson := by
  rw [toJson_eq]
  cases payload with
  | room value =>
    apply fits_object_cons (fits_string _)
    apply fits_object_cons (fits_texts _)
    apply fits_object_cons (fits_string _)
    exact fits_object_cons (fits_outputs _) fits_object_nil
  | input value => exact fits_object_cons (fits_string _) fits_object_nil
  | output value =>
    apply fits_object_cons (fits_string _)
    exact fits_object_cons (fits_texts _) fits_object_nil
  | setting value => exact fits_object_cons (fits_string _) fits_object_nil
  | muting value =>
    apply fits_object_cons (fits_texts _)
    exact fits_object_cons (fits_texts _) fits_object_nil
  | layout value =>
    have hinner : Fits (depth + 3) (.object [("layout", .string value.newLayout.layout.name)]) :=
      fits_object_cons (fits_string _) fits_object_nil
    exact fits_object_cons hinner fits_object_nil
  | background value => exact fits_object_cons (fits_string _) fits_object_nil

/-- **The body of a payload is read as the object with its members.** -/
theorem Payload.decode?_body (payload : Payload) :
    decode? payload.body = some (.object payload.members) := by
  rw [← toJson_eq]
  exact decode?_pretty (fits_toJson 123 payload)

end LiveRoom
