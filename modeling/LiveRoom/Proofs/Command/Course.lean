import LiveRoom.Command.Run
import LiveRoom.Proofs.Dialogue

/-!
# The course of a command

A command takes one of five courses.  It sends its request at once, or it refuses at
once; or it asks, and then its answer cannot be read, is not among those offered, or
is accepted and becomes a request.  `Command.Course` names the five, and for each of
them one equation says all that running the command does: its trace, its result, and
the states of source and link afterwards.

What they have in common is read off these equations: at most one question, then at most
one request, and a request exactly if the result is the link's (`Command.exists_conduct`).
-/

namespace LiveRoom.Command

variable {σ τ : Type}

/-! ## Tokens -/

/-- **A token names one command**, and every token names the command it belongs to. -/
theorem find?_eq_some_iff {token : String} {command : Command} :
    find? token = some command ↔ command.token = token := by
  constructor
  · intro h
    simpa using List.find?_some h
  · rintro rfl
    cases command <;> decide

theorem find?_eq_none_iff {token : String} :
    find? token = none ↔ ∀ command : Command, command.token ≠ token := by
  constructor
  · intro h command htoken
    rw [find?_eq_some_iff.mpr htoken] at h
    cases h
  · intro h
    cases hfound : find? token with
    | none => rfl
    | some command => exact absurd (find?_eq_some_iff.mp hfound) (h command)

/-! ## The five courses -/

/-- **The course of a command** when the next input is the given one. -/
inductive Course (command : Command) (config : Config) (input : Input) : Prop where
  /-- It sends at once. -/
  | sends (payload : Option Payload) (plan : command.plan config = .send payload)
  /-- It refuses at once. -/
  | refuses (why : Rejection) (plan : command.plan config = .refuse why)
  /-- It asks, and the answer cannot be read. -/
  | unreadable (prompt : String) (payload? : String → Option Payload) (reason : String)
      (plan : command.plan config = .ask prompt payload?) (answer : input.answer = .error reason)
  /-- It asks, and the answer is not among those offered. -/
  | declines (prompt : String) (payload? : String → Option Payload) (text : String)
      (plan : command.plan config = .ask prompt payload?) (answer : input.answer = .ok text)
      (offer : payload? text = none)
  /-- It asks, and the answer stands for a request. -/
  | accepts (prompt : String) (payload? : String → Option Payload) (text : String)
      (payload : Payload) (plan : command.plan config = .ask prompt payload?)
      (answer : input.answer = .ok text) (offer : payload? text = some payload)

/-- Every command takes one of the courses. -/
theorem course (command : Command) (config : Config) (input : Input) :
    command.Course config input := by
  cases hplan : command.plan config with
  | send payload => exact .sends payload hplan
  | refuse why => exact .refuses why hplan
  | ask prompt payload? =>
    cases hanswer : input.answer with
    | error reason => exact .unreadable prompt payload? reason hplan hanswer
    | ok text =>
      cases hoffer : payload? text with
      | none => exact .declines prompt payload? text hplan hanswer hoffer
      | some payload => exact .accepts prompt payload? text payload hplan hanswer hoffer

/-! ## What each of them does -/

/-- A request of the command, handed over. -/
def delivered (command : Command) (body : Option String) (link : Link τ) (s : σ) (t : τ) :
    Performance σ τ (Except CommandError Response) :=
  let sent := link.post command.path body t
  ⟨.log command.builtEntry :: .post command.path body :: sent.1.log.map .log,
    sent.1.result.mapError .link, s, sent.2⟩

section Run
variable {command : Command} {config : Config} (source : LineSource σ) (link : Link τ)
  (s : σ) (t : τ)

theorem run_deliver (payload : Option Payload) :
    (command.deliver payload).run source link s t =
      command.delivered (payload.map Payload.body) link s t := by
  simp [deliver_eq_hand, hand, Dialogue.run, Performance.after, delivered]

theorem run_of_send {payload : Option Payload} (plan : command.plan config = .send payload) :
    command.run config source link s t =
      command.delivered (payload.map Payload.body) link s t := by
  rw [run, dialogue, plan]
  exact run_deliver source link s t payload

theorem run_of_refuse {why : Rejection} (plan : command.plan config = .refuse why) :
    command.run config source link s t = ⟨[], .error (.rejected why), s, t⟩ := by
  rw [run, dialogue, plan]
  rfl

variable {prompt : String} {payload? : String → Option Payload}

theorem run_of_unreadable {reason : String} (plan : command.plan config = .ask prompt payload?)
    (answer : (source.next s).1.answer = .error reason) :
    command.run config source link s t =
      ⟨[.prompt prompt], .error (.unreadable reason), (source.next s).2, t⟩ := by
  simp [run, dialogue, plan, Dialogue.run, answer, Performance.after]

theorem run_of_declines {text : String} (plan : command.plan config = .ask prompt payload?)
    (answer : (source.next s).1.answer = .ok text) (offer : payload? text = none) :
    command.run config source link s t =
      ⟨[.prompt prompt], .error (.rejected (.notOffered text)), (source.next s).2, t⟩ := by
  simp [run, dialogue, plan, Dialogue.run, answer, offer, Performance.after]

theorem run_of_accepts {text : String} {payload : Payload}
    (plan : command.plan config = .ask prompt payload?)
    (answer : (source.next s).1.answer = .ok text) (offer : payload? text = some payload) :
    command.run config source link s t =
      (command.delivered (some payload.body) link (source.next s).2 t).after
        [.prompt prompt] := by
  simp [run, dialogue, plan, Dialogue.run, answer, offer, run_deliver]

end Run

/-! ## What all of them have in common -/

/-- A failure that is not the link's is no answer of the link. -/
theorem not_exists_mapError {error : CommandError} (h : ∀ cause, error ≠ .link cause) :
    ¬ ∃ result : Except LinkError Response,
      (.error error : Except CommandError Response) = result.mapError .link := by
  rintro ⟨result, hresult⟩
  cases result with
  | error cause => exact h cause (Except.error.inj hresult)
  | ok response => cases hresult

/-- The events of a question, if there was one. -/
def askedEvents (asked : Option (String × Input)) : Trace :=
  (asked.map fun asked => Event.prompt asked.1).toList

/-- The inputs that answered a question, if there was one. -/
def askedInputs (asked : Option (String × Input)) : List Input :=
  (asked.map fun asked => asked.2).toList

/-- The events of a request, if there was one. -/
def postedEvents (posted : Option (String × Option String)) : Trace :=
  (posted.map fun posted => Event.post posted.1 posted.2).toList

@[simp]
theorem withoutLog_delivered (command : Command) (body : Option String) (link : Link τ) (s : σ)
    (t : τ) : (command.delivered body link s t).trace.withoutLog = [.post command.path body] := by
  show Trace.withoutLog ([.log _] ++ [.post command.path body] ++ List.map .log _) = _
  rw [Trace.withoutLog_append, Trace.withoutLog_map_log]
  rfl

/-- **A command asks at most once and then posts at most once**, to its own path, and it
posts exactly if its result is what the link answered.  If it was answered and does not post, it
has declined the answer. -/
theorem exists_conduct (command : Command) (config : Config) (source : LineSource σ)
    (link : Link τ) (s : σ) (t : τ) :
    let ran := command.run config source link s t
    ∃ (asked : Option (String × Input)) (posted : Option (String × Option String)),
      ran.trace.withoutLog = askedEvents asked ++ postedEvents posted ∧
      source.Gives s (askedInputs asked) ran.source ∧
      (∀ post ∈ posted, post.1 = command.path) ∧
      (posted.isSome ↔ ∃ result : Except LinkError Response,
        ran.result = result.mapError .link) ∧
      ∀ prompt input answer, asked = some (prompt, input) → input.answer = .ok answer →
        posted = none → ran.result = .error (.rejected (.notOffered answer)) := by
  cases command.course config (source.next s).1 with
  | sends payload plan =>
    rw [run_of_send source link s t plan]
    exact ⟨none, some (command.path, payload.map Payload.body), withoutLog_delivered ..,
      .nil s, by simp, iff_of_true rfl ⟨_, rfl⟩, by simp⟩
  | refuses why plan =>
    rw [run_of_refuse source link s t plan]
    exact ⟨none, none, rfl, .nil s, by simp, by simp [not_exists_mapError], by simp⟩
  | unreadable prompt payload? reason plan answer =>
    rw [run_of_unreadable source link s t plan answer]
    refine ⟨some (prompt, (source.next s).1), none, rfl, .one source s, by simp,
      by simp [not_exists_mapError], ?_⟩
    rintro _ _ said ⟨⟩ hsaid -
    cases hsaid.symm.trans answer
  | declines prompt payload? text plan answer offer =>
    rw [run_of_declines source link s t plan answer offer]
    refine ⟨some (prompt, (source.next s).1), none, rfl, .one source s, by simp,
      by simp [not_exists_mapError], ?_⟩
    rintro _ _ said ⟨⟩ hsaid -
    rw [Except.ok.inj (answer.symm.trans hsaid)]
  | accepts prompt payload? text payload plan answer offer =>
    rw [run_of_accepts source link s t plan answer offer]
    refine ⟨some (prompt, (source.next s).1), some (command.path, some payload.body), ?_,
      .one source s, by simp, iff_of_true rfl ⟨_, rfl⟩, by simp⟩
    rw [Performance.after, Trace.withoutLog_append, withoutLog_delivered]
    rfl

end LiveRoom.Command
