import LiveRoom.Payload
import LiveRoom.Proofs.Json.Strict

/-!
# Which texts are requests

Nothing may be left out of a request.  Each of its payloads is read exactly from the texts
in which all of its fields are given (`payload_formats_are_strict`): in an object each of
their keys stands once, and in a list there are their values and no others.  This goes on
inside, for the outputs of a room and the layout of a change.

The keys are those of the service's messages, and no others stand for them: a key that is
spelled otherwise counts as unknown, and the field as missing.
-/

namespace LiveRoom

open Json

/-! ## What the fields mean -/

/-- **The fields of an output.** -/
inductive OutputStream.IsGiven : List (String × Term) → OutputStream → Prop where
  | mk {settingId urls : Term} {output : OutputStream}
      (hsettingId : IsText settingId output.settingId) (hurls : IsList IsText urls output.urls) :
      IsGiven [("outputSettingId", settingId), ("outputUrls", urls)] output

/-- **The fields of a new room**; each of its outputs is given in full. -/
inductive CreateRoom.IsGiven : List (String × Term) → CreateRoom → Prop where
  | mk {roomId inputUrls outputBaseUrl outputs : Term} {room : CreateRoom}
      (hroomId : IsText roomId room.roomId) (hinputUrls : IsList IsText inputUrls room.inputUrls)
      (houtputBaseUrl : IsText outputBaseUrl room.outputBaseUrl)
      (houtputs : IsList (InFull OutputStream.IsGiven) outputs room.outputs) :
      IsGiven [("roomId", roomId), ("inputUrls", inputUrls),
        ("roomOutputBaseUrl", outputBaseUrl), ("outputStreamInfos", outputs)] room

/-- **The field of an input.** -/
inductive InputStream.IsGiven : List (String × Term) → InputStream → Prop where
  | mk {url : Term} {input : InputStream} (hurl : IsText url input.url) :
      IsGiven [("inputUrl", url)] input

/-- **The field of an output setting.** -/
inductive OutputSetting.IsGiven : List (String × Term) → OutputSetting → Prop where
  | mk {settingId : Term} {output : OutputSetting}
      (hsettingId : IsText settingId output.settingId) :
      IsGiven [("outputSettingId", settingId)] output

/-- **The fields of a muting.** -/
inductive Muting.IsGiven : List (String × Term) → Muting → Prop where
  | mk {mute unmute : Term} {muting : Muting} (hmute : IsList IsText mute muting.mute)
      (hunmute : IsList IsText unmute muting.unmute) :
      IsGiven [("muteInputUrls", mute), ("unmuteInputUrls", unmute)] muting

/-- **A layout is named**, by a string or by the only key of an object that holds `null`. -/
inductive Layout.IsNamed : Term → Layout → Prop where
  | string {raw : RawString} {layout : Layout} (hname : raw.value? = some layout.name.toList) :
      IsNamed (.string raw) layout
  | key {raw : RawString} {layout : Layout} (hname : raw.value? = some layout.name.toList) :
      IsNamed (.object [(raw, .null)]) layout

/-- **The field of a layout's update.** -/
inductive LayoutUpdate.IsGiven : List (String × Term) → LayoutUpdate → Prop where
  | mk {layout : Term} {update : LayoutUpdate} (hlayout : Layout.IsNamed layout update.layout) :
      IsGiven [("layout", layout)] update

/-- **The field of a change of layout**, which is an update in full. -/
inductive LayoutChange.IsGiven : List (String × Term) → LayoutChange → Prop where
  | mk {newLayout : Term} {change : LayoutChange}
      (hnewLayout : InFull LayoutUpdate.IsGiven newLayout change.newLayout) :
      IsGiven [("newLayout", newLayout)] change

/-- **The field of a change of the background.** -/
inductive BackgroundChange.IsGiven : List (String × Term) → BackgroundChange → Prop where
  | mk {imageUrl : Term} {change : BackgroundChange} (himageUrl : IsText imageUrl change.imageUrl) :
      IsGiven [("backgroudImageUrl", imageUrl)] change

/-! ## Layouts -/

namespace Layout

theorem names_iff {raw : RawString} {layout : Layout} :
    Names (all.map fun layout => (layout.name, layout)) raw layout ↔
      raw.value? = some layout.name.toList := by
  constructor
  · rintro ⟨name, entry, hraw, hentry, rfl⟩
    obtain ⟨layout, -, rfl⟩ := List.mem_map.mp (List.mem_of_find?_eq_some hentry)
    have hname : layout.name.toList = name := by simpa using List.find?_some hentry
    rw [hraw, hname]
  · intro hraw
    refine ⟨_, (layout.name, layout), hraw, ?_, rfl⟩
    cases layout <;> decide

/-- **Layouts are read from their names.** -/
theorem format_follows : format.Follows IsNamed := by
  refine (Format.choice_follows (fun layout => ?_) fun layout other => ?_).congr ?_
  · cases layout <;> decide
  · cases layout <;> cases other <;> decide
  · intro term layout
    constructor
    · intro h
      cases term with
      | string raw => exact .string (names_iff.mp h)
      | object members =>
        obtain ⟨raw, rfl, hnames⟩ := IsChoice.exists_key h
        exact .key (names_iff.mp hnames)
      | _ => exact absurd h id
    · rintro (hname | hname)
      · exact names_iff.mpr hname
      · exact names_iff.mpr hname

end Layout

/-! ## The formats -/

theorem OutputStream.format_follows : format.Follows (InFull IsGiven) := by
  refine Format.record_follows_inFull (.cons _ Format.text_follows (by decide) <|
    .cons _ (Format.list_follows Format.text_follows) (by decide) .nil) ⟨rfl, rfl, trivial⟩
    (fun _ => rfl) fun given values => ⟨?_, ?_⟩
  · rintro ⟨settingId, _, rfl, hsettingId, urls, _, rfl, hurls, rfl⟩
    exact .mk hsettingId hurls
  · rintro ⟨hsettingId, hurls⟩
    exact ⟨_, _, rfl, hsettingId, _, _, rfl, hurls, rfl⟩

theorem CreateRoom.format_follows : format.Follows (InFull IsGiven) := by
  refine Format.record_follows_inFull (.cons _ Format.text_follows (by decide) <|
    .cons _ (Format.list_follows Format.text_follows) (by decide) <|
    .cons _ Format.text_follows (by decide) <|
    .cons _ (Format.list_follows OutputStream.format_follows) (by decide) .nil)
    ⟨rfl, rfl, rfl, rfl, trivial⟩ (fun _ => rfl) fun given values => ⟨?_, ?_⟩
  · rintro ⟨_, _, rfl, hroomId, _, _, rfl, hinputUrls, _, _, rfl, hbaseUrl, _, _, rfl, houtputs,
      rfl⟩
    exact .mk hroomId hinputUrls hbaseUrl houtputs
  · rintro ⟨hroomId, hinputUrls, hbaseUrl, houtputs⟩
    exact ⟨_, _, rfl, hroomId, _, _, rfl, hinputUrls, _, _, rfl, hbaseUrl, _, _, rfl, houtputs,
      rfl⟩

theorem InputStream.format_follows : format.Follows (InFull IsGiven) := by
  refine Format.record_follows_inFull (.cons _ Format.text_follows (by decide) .nil)
    ⟨rfl, trivial⟩ (fun _ => rfl) fun given values => ⟨?_, ?_⟩
  · rintro ⟨_, _, rfl, hurl, rfl⟩
    exact .mk hurl
  · rintro ⟨hurl⟩
    exact ⟨_, _, rfl, hurl, rfl⟩

theorem OutputSetting.format_follows : format.Follows (InFull IsGiven) := by
  refine Format.record_follows_inFull (.cons _ Format.text_follows (by decide) .nil)
    ⟨rfl, trivial⟩ (fun _ => rfl) fun given values => ⟨?_, ?_⟩
  · rintro ⟨_, _, rfl, hsettingId, rfl⟩
    exact .mk hsettingId
  · rintro ⟨hsettingId⟩
    exact ⟨_, _, rfl, hsettingId, rfl⟩

theorem Muting.format_follows : format.Follows (InFull IsGiven) := by
  refine Format.record_follows_inFull
    (.cons _ (Format.list_follows Format.text_follows) (by decide) <|
    .cons _ (Format.list_follows Format.text_follows) (by decide) .nil) ⟨rfl, rfl, trivial⟩
    (fun _ => rfl) fun given values => ⟨?_, ?_⟩
  · rintro ⟨_, _, rfl, hmute, _, _, rfl, hunmute, rfl⟩
    exact .mk hmute hunmute
  · rintro ⟨hmute, hunmute⟩
    exact ⟨_, _, rfl, hmute, _, _, rfl, hunmute, rfl⟩

theorem LayoutUpdate.format_follows : format.Follows (InFull IsGiven) := by
  refine Format.record_follows_inFull (.cons _ Layout.format_follows (by decide) .nil)
    ⟨rfl, trivial⟩ (fun _ => rfl) fun given values => ⟨?_, ?_⟩
  · rintro ⟨_, _, rfl, hlayout, rfl⟩
    exact .mk hlayout
  · rintro ⟨hlayout⟩
    exact ⟨_, _, rfl, hlayout, rfl⟩

theorem LayoutChange.format_follows : format.Follows (InFull IsGiven) := by
  refine Format.record_follows_inFull (.cons _ LayoutUpdate.format_follows (by decide) .nil)
    ⟨rfl, trivial⟩ (fun _ => rfl) fun given values => ⟨?_, ?_⟩
  · rintro ⟨_, _, rfl, hnewLayout, rfl⟩
    exact .mk hnewLayout
  · rintro ⟨hnewLayout⟩
    exact ⟨_, _, rfl, hnewLayout, rfl⟩

theorem BackgroundChange.format_follows : format.Follows (InFull IsGiven) := by
  refine Format.record_follows_inFull (.cons _ Format.text_follows (by decide) .nil)
    ⟨rfl, trivial⟩ (fun _ => rfl) fun given values => ⟨?_, ?_⟩
  · rintro ⟨_, _, rfl, himageUrl, rfl⟩
    exact .mk himageUrl
  · rintro ⟨himageUrl⟩
    exact ⟨_, _, rfl, himageUrl, rfl⟩

/-! ## Requests -/

/-- **The payloads of requests are read strictly.**  A text is read exactly if it is an object
in which every one of the keys below stands once and with a value of its kind, or the list of
these values; the order of an object's members does not matter. -/
theorem payload_formats_are_strict :
    CreateRoom.format.IsStrict ["roomId", "inputUrls", "roomOutputBaseUrl", "outputStreamInfos"]
      CreateRoom.IsGiven ∧
    OutputStream.format.IsStrict ["outputSettingId", "outputUrls"] OutputStream.IsGiven ∧
    InputStream.format.IsStrict ["inputUrl"] InputStream.IsGiven ∧
    OutputSetting.format.IsStrict ["outputSettingId"] OutputSetting.IsGiven ∧
    Muting.format.IsStrict ["muteInputUrls", "unmuteInputUrls"] Muting.IsGiven ∧
    LayoutChange.format.IsStrict ["newLayout"] LayoutChange.IsGiven ∧
    BackgroundChange.format.IsStrict ["backgroudImageUrl"] BackgroundChange.IsGiven := by
  refine ⟨CreateRoom.format_follows.isStrict ?_, OutputStream.format_follows.isStrict ?_,
    InputStream.format_follows.isStrict ?_, OutputSetting.format_follows.isStrict ?_,
    Muting.format_follows.isStrict ?_, LayoutChange.format_follows.isStrict ?_,
    BackgroundChange.format_follows.isStrict ?_⟩
  · rintro _ _ ⟨hroomId, hinputUrls, houtputBaseUrl, houtputs⟩
    exact ⟨rfl, by simp [hroomId.ne_null, hinputUrls.ne_null, houtputBaseUrl.ne_null,
      houtputs.ne_null]⟩
  · rintro _ _ ⟨hsettingId, hurls⟩
    exact ⟨rfl, by simp [hsettingId.ne_null, hurls.ne_null]⟩
  · rintro _ _ ⟨hurl⟩
    exact ⟨rfl, by simp [hurl.ne_null]⟩
  · rintro _ _ ⟨hsettingId⟩
    exact ⟨rfl, by simp [hsettingId.ne_null]⟩
  · rintro _ _ ⟨hmute, hunmute⟩
    exact ⟨rfl, by simp [hmute.ne_null, hunmute.ne_null]⟩
  · rintro _ _ ⟨hnewLayout⟩
    exact ⟨rfl, by simp [hnewLayout.ne_null]⟩
  · rintro _ _ ⟨himageUrl⟩
    exact ⟨rfl, by simp [himageUrl.ne_null]⟩

end LiveRoom
