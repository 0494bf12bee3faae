import LiveRoom.Proofs.Command.Course
import LiveRoom.Proofs.Payload

/-!
# What a command offers

A prompt offers requests: it says what can be typed and what that stands for.  `Offers` is
the table of these, one line for each kind of offer.  It gives a command, the question that
it asks, with the answer to it, and the members of the object that is sent; two commands
ask nothing, and one of these sends nothing either.

The table is written from the prompts, without plans and payloads.  Note that the presets
are numbered twice: among the outputs that can be added the first is the large one, while
closing and querying count from the small one.

A run of a command sends just what is offered (`Command.sends_what_it_offers`).  For this
the table is compared with the plans, in both directions, and a plan is carried out as
`Command.course` says.
-/

namespace LiveRoom

/-- **A question**, and the answer to it without the blanks around it. -/
structure Question where
  prompt : String
  answer : String
  deriving DecidableEq, Repr

namespace Command

/-! ## The table -/

/-- The commands that ask for an input, and their words for what happens to it. -/
def inputVerbs : List (Command × String) :=
  [(.addInput, "add"), (.closeInput, "close"), (.queryInput, "query")]

/-- The commands that ask for one of three outputs, and their words for it. -/
def outputVerbs : List (Command × String) := [(.closeOutput, "close"), (.queryOutput, "query")]

/-- The members of an output with the setting of a preset, and the place of it if it has
one. -/
def presetMembers (preset : OutputPreset) : List (String × Json) :=
  [("outputSettingId", .string preset.settingId),
   ("outputUrls", match preset.url with
     | none => .array []
     | some url => .array [.string url])]

/-- **What a command offers**: its question, if it asks one, and the members that it sends
for the answer. -/
inductive Offers (config : Config) :
    Command → Option Question → Option (List (String × Json)) → Prop
  /-- A new room has the first input, and the small output. -/
  | room {input : String} {others : List String} (inputs : config.inputs = input :: others) :
    Offers config .createRoom none <| some
      [("roomId", .string config.roomId),
       ("inputUrls", .array [.string input]),
       ("roomOutputBaseUrl", .string config.outputBaseUrl),
       ("outputStreamInfos", .array [.object (presetMembers config.outputs.hd720)])]
  /-- An input is one of those that the prompt shows, by its number. -/
  | input {command : Command} {verb answer url : String} {index : Nat}
    (asks : (command, verb) ∈ inputVerbs)
    (number : Text.numeral? answer.toList = some (index + 1))
    (chosen : config.inputs[index]? = some url) :
    Offers config command
      (some ⟨"Enter choice 1-" ++ toString config.inputs.length ++ " to " ++ verb ++ " one of " ++
        ", ".intercalate config.inputs, answer⟩)
      (some [("inputUrl", .string url)])
  /-- An output can be added with one of two presets. -/
  | output {answer : String} {preset : OutputPreset}
    (chosen : (answer, preset) ∈ [("1", config.outputs.hd1080), ("2", config.outputs.udp720)]) :
    Offers config .addOutput
      (some ⟨"Enter choice 1 for " ++ config.outputs.hd1080.settingId ++
        " output setting, 2 for " ++ config.outputs.udp720.settingId ++ " setting", answer⟩)
      (some (presetMembers preset))
  /-- An output is one of three, by its setting. -/
  | setting {command : Command} {verb answer : String} {preset : OutputPreset}
    (asks : (command, verb) ∈ outputVerbs)
    (chosen : (answer, preset) ∈ [("1", config.outputs.hd720), ("2", config.outputs.hd1080),
      ("3", config.outputs.udp720)]) :
    Offers config command
      (some ⟨"Enter choice 1, 2 or 3 to " ++ verb ++ " output " ++
        config.outputs.hd720.settingId ++ ", " ++ config.outputs.hd1080.settingId ++ " or " ++
        config.outputs.udp720.settingId, answer⟩)
      (some [("outputSettingId", .string preset.settingId)])
  /-- The first two inputs are muted or unmuted together, and both lists are sent. -/
  | muting {first second answer : String} {others : List String} {mute unmute : Json}
    (inputs : config.inputs = first :: second :: others)
    (chosen : (answer, mute, unmute) ∈
      [("1", .array [.string first, .string second], .array []),
       ("2", .array [], .array [.string first, .string second])]) :
    Offers config .mute
      (some ⟨"Enter choice 1 to mute, 2 to unmute " ++ first ++ " & " ++ second, answer⟩)
      (some [("muteInputUrls", mute), ("unmuteInputUrls", unmute)])
  /-- A layout is one of three. -/
  | layout {answer name : String}
    (chosen : (answer, name) ∈ [("1", "eSingle_1"), ("2", "eEqual_4"), ("3", "eEqual_9")]) :
    Offers config .changeLayout
      (some ⟨"Enter choice 1, 2 or 3 to choose eSingle_1, eEqual_4, eEqual_9", answer⟩)
      (some [("newLayout", .object [("layout", .string name)])])
  /-- The image can be the configured one. -/
  | configuredImage :
    Offers config .changeBackground
      (some ⟨"Enter new background image url (1 for " ++ config.backgroundImageUrl ++ ")", "1"⟩)
      (some [("backgroudImageUrl", .string config.backgroundImageUrl)])
  /-- Or it is what was typed, if anything was. -/
  | typedImage {answer : String} (typed : answer ≠ "") (other : answer ≠ "1") :
    Offers config .changeBackground
      (some ⟨"Enter new background image url (1 for " ++ config.backgroundImageUrl ++ ")", answer⟩)
      (some [("backgroudImageUrl", .string answer)])
  /-- Stopping takes nothing. -/
  | stop : Offers config .stop none none

/-! ## The table and the plans -/

theorem members_output (preset : OutputPreset) :
    OutputStream.members ⟨preset.settingId, preset.urls⟩ = presetMembers preset := by
  obtain ⟨settingId, url⟩ := preset
  cases url with
  | none => rfl
  | some url => rfl

theorem input?_eq_some_iff {config : Config} {number : Nat} {url : String} :
    config.input? number = some url ↔
      ∃ index, number = index + 1 ∧ config.inputs[index]? = some url := by
  cases number with
  | zero => simp [Config.input?]
  | succ index => simp [Config.input?]

theorem preset?_eq_some_iff {presets : OutputPresets} {answer : String} {preset : OutputPreset} :
    Plan.preset? presets answer = some preset ↔
      (answer, preset) ∈ [("1", presets.hd720), ("2", presets.hd1080), ("3", presets.udp720)] := by
  constructor
  · intro h
    unfold Plan.preset? at h
    split at h
    · simp [Option.some.inj h]
    · simp [Option.some.inj h]
    · simp [Option.some.inj h]
    · cases h
  · intro h
    simp only [List.mem_cons, List.not_mem_nil, Prod.mk.injEq, or_false] at h
    rcases h with ⟨rfl, rfl⟩ | ⟨rfl, rfl⟩ | ⟨rfl, rfl⟩ <;> rfl

/-- The commands that ask for an input do so in the same way. -/
theorem plan_of_mem_inputVerbs {command : Command} {verb : String} (config : Config)
    (asks : (command, verb) ∈ inputVerbs) : command.plan config = .askInput config verb := by
  simp only [inputVerbs, List.mem_cons, List.not_mem_nil, Prod.mk.injEq, or_false] at asks
  rcases asks with ⟨rfl, rfl⟩ | ⟨rfl, rfl⟩ | ⟨rfl, rfl⟩ <;> rfl

/-- The commands that ask for one of three outputs do so in the same way. -/
theorem plan_of_mem_outputVerbs {command : Command} {verb : String} (config : Config)
    (asks : (command, verb) ∈ outputVerbs) :
    command.plan config = .askPreset config.outputs verb := by
  simp only [outputVerbs, List.mem_cons, List.not_mem_nil, Prod.mk.injEq, or_false] at asks
  rcases asks with ⟨rfl, rfl⟩ | ⟨rfl, rfl⟩ <;> rfl

/-- Without inputs there is no new room. -/
theorem plan_createRoom_cases (config : Config) :
    createRoom.plan config = .refuse .noInput ∨
      ∃ input others, config.inputs = input :: others := by
  cases hinputs : config.inputs with
  | nil =>
    have hinput : config.input? 1 = none := by simp [Config.input?, hinputs]
    refine .inl ?_
    simp only [plan, Plan.createRoom, hinput]
  | cons input others => exact .inr ⟨input, others, rfl⟩

/-- With inputs there is one, with the first of them. -/
theorem plan_createRoom_cons {config : Config} {input : String} {others : List String}
    (inputs : config.inputs = input :: others) :
    createRoom.plan config = .send (some (.room
      { roomId := config.roomId
        inputUrls := [input]
        outputBaseUrl := config.outputBaseUrl
        outputs := [⟨config.outputs.hd720.settingId, config.outputs.hd720.urls⟩] })) := by
  have hinput : config.input? 1 = some input := by simp [Config.input?, inputs]
  simp only [plan, Plan.createRoom, hinput]

/-- One input is too few to mute. -/
theorem plan_mute_cases (config : Config) :
    mute.plan config = .refuse .tooFewInputs ∨
      ∃ first second others, config.inputs = first :: second :: others := by
  by_cases hfew : config.inputs.length < 2
  · refine .inl ?_
    simp only [plan, Plan.mute, if_pos hfew]
  · rcases hinputs : config.inputs with _ | ⟨first, _ | ⟨second, others⟩⟩
    · simp [hinputs] at hfew
    · simp [hinputs] at hfew
    · exact .inr ⟨first, second, others, rfl⟩

/-- The first two inputs are muted and unmuted. -/
theorem plan_mute_cons {config : Config} {first second : String} {others : List String}
    (inputs : config.inputs = first :: second :: others) :
    mute.plan config = .ask ("Enter choice 1 to mute, 2 to unmute " ++ first ++ " & " ++ second)
      fun
      | "1" => some (.muting { mute := [first, second] })
      | "2" => some (.muting { unmute := [first, second] })
      | _ => none := by
  have hnames : " & ".intercalate [first, second] = first ++ " & " ++ second := rfl
  have hprompt : "Enter choice 1 to mute, 2 to unmute " ++ " & ".intercalate [first, second] =
      "Enter choice 1 to mute, 2 to unmute " ++ first ++ " & " ++ second := by
    simp only [hnames, String.append_assoc]
  -- With two inputs or more the guard is passed and the first two are taken.
  rw [← hprompt]
  show Plan.mute config.inputs = _
  rw [inputs]
  rfl

section Planned
variable {config : Config} {command : Command} {prompt verb answer : String}
  {payload? : String → Option Payload} {payload : Payload}

theorem offers_of_askInput (asks : (command, verb) ∈ inputVerbs)
    (plan : Plan.askInput config verb = .ask prompt payload?)
    (offer : payload? answer = some payload) :
    Offers config command (some ⟨prompt, answer⟩) (some payload.members) := by
  obtain ⟨rfl, rfl⟩ := Plan.ask.inj plan
  obtain ⟨number, hnumber, hnumbered⟩ := Option.bind_eq_some_iff.mp offer
  obtain ⟨url, hurl, hpayload⟩ := Option.bind_eq_some_iff.mp hnumbered
  obtain ⟨index, rfl, hchosen⟩ := input?_eq_some_iff.mp hurl
  obtain rfl := Option.some.inj hpayload
  exact .input asks hnumber hchosen

theorem offers_of_askPreset (asks : (command, verb) ∈ outputVerbs)
    (plan : Plan.askPreset config.outputs verb = .ask prompt payload?)
    (offer : payload? answer = some payload) :
    Offers config command (some ⟨prompt, answer⟩) (some payload.members) := by
  obtain ⟨rfl, rfl⟩ := Plan.ask.inj plan
  obtain ⟨preset, hpreset, rfl⟩ := Option.map_eq_some_iff.mp offer
  exact .setting asks (preset?_eq_some_iff.mp hpreset)

theorem offers_of_addOutput (plan : Plan.addOutput config.outputs = .ask prompt payload?)
    (offer : payload? answer = some payload) :
    Offers config .addOutput (some ⟨prompt, answer⟩) (some payload.members) := by
  obtain ⟨rfl, rfl⟩ := Plan.ask.inj plan
  dsimp only at offer
  split at offer
  · obtain rfl := Option.some.inj offer
    rw [Payload.members, members_output]
    exact .output (by simp)
  · obtain rfl := Option.some.inj offer
    rw [Payload.members, members_output]
    exact .output (by simp)
  · cases offer

theorem offers_of_mute (plan : mute.plan config = .ask prompt payload?)
    (offer : payload? answer = some payload) :
    Offers config .mute (some ⟨prompt, answer⟩) (some payload.members) := by
  rcases plan_mute_cases config with hrefuse | ⟨first, second, others, hinputs⟩
  · rw [hrefuse] at plan
    cases plan
  · rw [plan_mute_cons hinputs] at plan
    obtain ⟨rfl, rfl⟩ := Plan.ask.inj plan
    dsimp only at offer
    split at offer
    · obtain rfl := Option.some.inj offer
      exact .muting hinputs (by simp [Json.texts])
    · obtain rfl := Option.some.inj offer
      exact .muting hinputs (by simp [Json.texts])
    · cases offer

theorem offers_of_changeLayout (plan : Plan.changeLayout = .ask prompt payload?)
    (offer : payload? answer = some payload) :
    Offers config .changeLayout (some ⟨prompt, answer⟩) (some payload.members) := by
  obtain ⟨rfl, rfl⟩ := Plan.ask.inj plan
  dsimp only at offer
  split at offer
  · obtain rfl := Option.some.inj offer
    exact .layout (by simp [Layout.name])
  · obtain rfl := Option.some.inj offer
    exact .layout (by simp [Layout.name])
  · obtain rfl := Option.some.inj offer
    exact .layout (by simp [Layout.name])
  · cases offer

theorem offers_of_changeBackground
    (plan : Plan.changeBackground config.backgroundImageUrl = .ask prompt payload?)
    (offer : payload? answer = some payload) :
    Offers config .changeBackground (some ⟨prompt, answer⟩) (some payload.members) := by
  obtain ⟨rfl, rfl⟩ := Plan.ask.inj plan
  dsimp only at offer
  split at offer
  · cases offer
  · obtain rfl := Option.some.inj offer
    exact .configuredImage
  · rename_i htyped hother
    obtain rfl := Option.some.inj offer
    exact .typedImage htyped hother

/-- **What a plan asks for and sends is offered.** -/
theorem offers_of_ask (plan : command.plan config = .ask prompt payload?)
    (offer : payload? answer = some payload) :
    Offers config command (some ⟨prompt, answer⟩) (some payload.members) := by
  cases command with
  | createRoom =>
    rcases plan_createRoom_cases config with hrefuse | ⟨input, others, hinputs⟩
    · rw [hrefuse] at plan
      cases plan
    · rw [plan_createRoom_cons hinputs] at plan
      cases plan
  | addInput => exact offers_of_askInput (by simp [inputVerbs]) plan offer
  | addOutput => exact offers_of_addOutput plan offer
  | closeInput => exact offers_of_askInput (by simp [inputVerbs]) plan offer
  | closeOutput => exact offers_of_askPreset (by simp [outputVerbs]) plan offer
  | mute => exact offers_of_mute plan offer
  | changeLayout => exact offers_of_changeLayout plan offer
  | changeBackground => exact offers_of_changeBackground plan offer
  | stop => cases plan
  | queryInput => exact offers_of_askInput (by simp [inputVerbs]) plan offer
  | queryOutput => exact offers_of_askPreset (by simp [outputVerbs]) plan offer

/-- **What a plan sends without asking is offered.** -/
theorem offers_of_send {payload : Option Payload} (plan : command.plan config = .send payload) :
    Offers config command none (payload.map Payload.members) := by
  cases command with
  | createRoom =>
    rcases plan_createRoom_cases config with hrefuse | ⟨input, others, hinputs⟩
    · rw [hrefuse] at plan
      cases plan
    · rw [plan_createRoom_cons hinputs] at plan
      obtain rfl := Plan.send.inj plan
      simp only [Option.map_some, Payload.members, List.map_cons, members_output]
      exact .room hinputs
  | stop =>
    obtain rfl := Plan.send.inj plan
    exact .stop
  | mute =>
    rcases plan_mute_cases config with hrefuse | ⟨first, second, others, hinputs⟩
    · rw [hrefuse] at plan
      cases plan
    · rw [plan_mute_cons hinputs] at plan
      cases plan
  | addInput | addOutput | closeInput | closeOutput | changeLayout | changeBackground
  | queryInput | queryOutput => cases plan

end Planned

/-- **What is offered without a question is sent at once.** -/
theorem Offers.exists_send {config : Config} {command : Command}
    {members : Option (List (String × Json))} (h : Offers config command none members) :
    ∃ payload : Option Payload, command.plan config = .send payload ∧
      payload.map Payload.members = members := by
  cases h with
  | room inputs =>
    refine ⟨_, plan_createRoom_cons inputs, ?_⟩
    simp only [Option.map_some, Payload.members, List.map_cons, members_output]
    rfl
  | stop => exact ⟨none, rfl, rfl⟩

/-- **What is offered for an answer is what the plan sends for it.** -/
theorem Offers.exists_ask {config : Config} {command : Command} {question : Question}
    {members : Option (List (String × Json))} (h : Offers config command (some question) members) :
    ∃ payload? payload, command.plan config = .ask question.prompt payload? ∧
      payload? question.answer = some payload ∧ members = some payload.members := by
  cases h with
  | input asks number chosen =>
    refine ⟨_, .input ⟨_⟩, plan_of_mem_inputVerbs config asks, ?_, rfl⟩
    simp [number, Config.input?, chosen]
  | @output answer preset chosen =>
    rw [← members_output]
    simp only [List.mem_cons, List.not_mem_nil, Prod.mk.injEq, or_false] at chosen
    rcases chosen with ⟨rfl, rfl⟩ | ⟨rfl, rfl⟩
    · exact ⟨_, _, rfl, rfl, rfl⟩
    · exact ⟨_, _, rfl, rfl, rfl⟩
  | setting asks chosen =>
    refine ⟨_, .setting ⟨_⟩, plan_of_mem_outputVerbs config asks, ?_, rfl⟩
    rw [preset?_eq_some_iff.mpr chosen]
    rfl
  | muting inputs chosen =>
    simp only [List.mem_cons, List.not_mem_nil, Prod.mk.injEq, or_false] at chosen
    rcases chosen with ⟨rfl, rfl, rfl⟩ | ⟨rfl, rfl, rfl⟩
    · exact ⟨_, _, plan_mute_cons inputs, rfl, rfl⟩
    · exact ⟨_, _, plan_mute_cons inputs, rfl, rfl⟩
  | layout chosen =>
    simp only [List.mem_cons, List.not_mem_nil, Prod.mk.injEq, or_false] at chosen
    rcases chosen with ⟨rfl, rfl⟩ | ⟨rfl, rfl⟩ | ⟨rfl, rfl⟩
    · exact ⟨_, _, rfl, rfl, rfl⟩
    · exact ⟨_, _, rfl, rfl, rfl⟩
    · exact ⟨_, _, rfl, rfl, rfl⟩
  | configuredImage => exact ⟨_, _, rfl, rfl, rfl⟩
  | typedImage typed other =>
    -- The two answers that have a line of their own are not this one.
    refine ⟨_, .background ⟨_⟩, rfl, ?_, rfl⟩
    dsimp only
    split
    · contradiction
    · contradiction
    · rfl

/-- No question offers anything for an empty answer. -/
theorem Offers.answer_ne {config : Config} {command : Command} {question : Question}
    {members : Option (List (String × Json))} (h : Offers config command (some question) members) :
    question.answer ≠ "" := by
  rintro hempty
  cases h with
  | input asks number chosen =>
    dsimp only at hempty
    rw [hempty] at number
    cases number
  | output chosen | setting _ chosen | muting _ chosen | layout chosen =>
    dsimp only at hempty
    simp [hempty] at chosen
  | configuredImage => simp at hempty
  | typedImage typed other => exact typed hempty

/-! ## Runs -/

section Run
variable {σ τ : Type} {command : Command} {config : Config} {question : Option Question}
  {members : Option (List (String × Json))} (source : LineSource σ) (link : Link τ) (s : σ) (t : τ)

/-- **The answer was heard**, if there was a question: it is what the next line says without
the blanks around it. -/
def Heard (question : Option Question) : Prop :=
  ∀ asked ∈ question, ∃ line, (source.next s).1 = .line line ∧ Text.trimmed line = asked.answer

/-- **An offer was kept**: the question was asked if there is one, and one request was handed
over, to the command's own path.  Its body is read as an object with just these members, or
it has none. -/
structure Kept (command : Command) (question : Option Question)
    (members : Option (List (String × Json))) (trace : Trace) : Prop where
  prompts : trace.prompts = (question.map Question.prompt).toList
  posts : ∃ body, trace.posts = [(command.path, body)] ∧
    body.map Json.decode? = members.map fun members => some (.object members)

@[simp]
theorem posts_delivered (body : Option String) :
    (command.delivered body link s t).trace.posts = [(command.path, body)] := by
  rw [← Trace.posts_withoutLog, withoutLog_delivered]
  rfl

@[simp]
theorem prompts_delivered (body : Option String) :
    (command.delivered body link s t).trace.prompts = [] := by
  show Trace.prompts (List.map Event.log _) = []
  exact Trace.prompts_map_log _

/-- An answer that says something was typed. -/
theorem exists_line_of_answer {input : Input} {text : String} (h : input.answer = .ok text)
    (hne : text ≠ "") : ∃ line, input = .line line ∧ Text.trimmed line = text := by
  cases input with
  | line line => exact ⟨line, rfl, Except.ok.inj h⟩
  | ended => exact absurd (Except.ok.inj h).symm hne
  | failed reason => cases h

/-- The bodies of payloads are read as their members. -/
theorem map_decode?_body (payload : Option Payload) :
    (payload.map Payload.body).map Json.decode? =
      (payload.map Payload.members).map fun members => some (.object members) := by
  cases payload with
  | none => rfl
  | some payload => exact congrArg some payload.decode?_body

/-- **Every offer is kept** once its answer was heard. -/
theorem Offers.kept (h : Offers config command question members)
    (hheard : Heard source s question) :
    Kept command question members (command.run config source link s t).trace := by
  cases question with
  | none =>
    obtain ⟨payload, hplan, rfl⟩ := h.exists_send
    rw [run_of_send source link s t hplan]
    exact ⟨prompts_delivered .., _, posts_delivered .., map_decode?_body payload⟩
  | some question =>
    obtain ⟨payload?, payload, hplan, hoffer, rfl⟩ := h.exists_ask
    obtain ⟨line, hline, hanswer⟩ := hheard question rfl
    have hsaid : (source.next s).1.answer = .ok question.answer := by
      rw [hline, ← hanswer]
      rfl
    rw [run_of_accepts source link s t hplan hsaid hoffer]
    refine ⟨?_, some payload.body, ?_, map_decode?_body (some payload)⟩
    · rw [Performance.after, Trace.prompts_append, prompts_delivered]
      rfl
    · rw [Performance.after, Trace.posts_append, posts_delivered]
      rfl

/-- **Nothing is sent that was not offered.** -/
theorem exists_offer (h : (command.run config source link s t).trace.posts ≠ []) :
    ∃ question members, Offers config command question members ∧ Heard source s question := by
  -- Of the five courses only the first and the last send anything.
  cases command.course config (source.next s).1 with
  | sends payload plan =>
    refine ⟨none, _, offers_of_send plan, ?_⟩
    rintro asked hasked
    cases hasked
  | refuses why plan =>
    rw [run_of_refuse source link s t plan] at h
    exact absurd rfl h
  | unreadable prompt payload? reason plan answer =>
    rw [run_of_unreadable source link s t plan answer] at h
    exact absurd rfl h
  | declines prompt payload? text plan answer offer =>
    rw [run_of_declines source link s t plan answer offer] at h
    exact absurd rfl h
  | accepts prompt payload? text payload plan answer offer =>
    have hoffers := offers_of_ask plan offer
    refine ⟨some ⟨prompt, text⟩, _, hoffers, ?_⟩
    rintro asked hasked
    obtain rfl := Option.some.inj hasked
    exact exists_line_of_answer answer hoffers.answer_ne

end Run

/-- **A command sends just what its prompt offers.**  Whatever the configuration, the next
line and the service are: an offer whose answer is heard is kept, by one request whose body
has just the members of the offer; and no request is sent unless its answer was heard to
something on offer. -/
theorem sends_what_it_offers {σ τ : Type} (command : Command) (config : Config)
    (source : LineSource σ) (link : Link τ) (s : σ) (t : τ) :
    let trace := (command.run config source link s t).trace
    (∀ question members, Offers config command question members → Heard source s question →
      Kept command question members trace) ∧
    (trace.posts ≠ [] → ∃ question members, Offers config command question members ∧
      Heard source s question ∧ Kept command question members trace) := by
  constructor
  · intro question members hoffers hheard
    exact hoffers.kept source link s t hheard
  · intro hposts
    obtain ⟨question, members, hoffers, hheard⟩ := exists_offer source link s t hposts
    exact ⟨question, members, hoffers, hheard, hoffers.kept source link s t hheard⟩

end Command

end LiveRoom
