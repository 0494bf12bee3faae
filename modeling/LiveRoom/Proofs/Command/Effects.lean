import LiveRoom.Proofs.Command.Offers

/-!
# Effects and outcome of a command

What a command has done can be read off its result.  A reply, or a failure of the link, is
what came of one request, which went to the command's own path; a rejection, or an answer
that could not be read, means that there was no request and that the link was left alone.
There is no other result.

Which commands ask is a matter of the command and the number of inputs
(`Command.asks`), and one that asks reads one answer, before anything else.  The end of input
is an answer like any other, namely a blank one, and no question offers anything for it.
-/

namespace LiveRoom.Command

variable {σ τ : Type}

/-- **Whether a command asks.**  A new room and a stop need no answer, and where there are
not two inputs to mute it is no use to ask which way. -/
def asks (config : Config) : Command → Bool
  | .createRoom | .stop => false
  | .mute => 2 ≤ config.inputs.length
  | _ => true

theorem asks_eq_true_iff {command : Command} {config : Config} :
    command.asks config = true ↔ ∃ prompt payload?, command.plan config = .ask prompt payload? := by
  cases command with
  | createRoom =>
    rcases plan_createRoom_cases config with hrefuse | ⟨input, others, hinputs⟩
    · simp [asks, hrefuse]
    · simp [asks, plan_createRoom_cons hinputs]
  | stop => simp [asks, plan]
  | mute =>
    rcases plan_mute_cases config with hrefuse | ⟨first, second, others, hinputs⟩
    · have hfew : ¬ 2 ≤ config.inputs.length := by
        intro henough
        rw [plan, Plan.mute, if_neg (Nat.not_lt.mpr henough)] at hrefuse
        cases hrefuse
      simp [asks, hrefuse, hfew]
    · simp [asks, plan_mute_cons hinputs, hinputs]
  | addInput | addOutput | closeInput | closeOutput | changeLayout | changeBackground
  | queryInput | queryOutput => exact iff_of_true rfl ⟨_, _, rfl⟩

/-- No question offers anything for an empty answer. -/
theorem offer_empty {command : Command} {config : Config} {prompt : String}
    {payload? : String → Option Payload} (plan : command.plan config = .ask prompt payload?) :
    payload? "" = none := by
  cases hoffer : payload? "" with
  | none => rfl
  | some payload => exact absurd rfl (offers_of_ask plan hoffer).answer_ne

section Run
variable (command : Command) (config : Config) (source : LineSource σ) (link : Link τ) (s : σ)
  (t : τ)

/-! ## What is read -/

/-- **A command that asks reads one answer**, and reads it before it posts; any other command
reads none. -/
theorem reads_run :
    let ran := command.run config source link s t
    ran.trace.prompts.length = (if command.asks config then 1 else 0) ∧
    ran.source = (if command.asks config then (source.next s).2 else s) ∧
    ran.trace.withoutLog =
      ran.trace.prompts.map .prompt ++ ran.trace.posts.map fun post => .post post.1 post.2 := by
  have hasks : ∀ {prompt : String} {payload? : String → Option Payload},
      command.plan config = .ask prompt payload? → command.asks config = true :=
    fun plan => asks_eq_true_iff.mpr ⟨_, _, plan⟩
  have hsilent : (∀ prompt payload?, command.plan config ≠ .ask prompt payload?) →
      command.asks config = false := by
    intro plan
    rw [← Bool.not_eq_true, asks_eq_true_iff]
    rintro ⟨prompt, payload?, hplan⟩
    exact plan prompt payload? hplan
  cases command.course config (source.next s).1 with
  | sends payload plan =>
    rw [run_of_send source link s t plan, hsilent (by simp [plan])]
    exact ⟨by simp, rfl, by simp⟩
  | refuses why plan =>
    rw [run_of_refuse source link s t plan, hsilent (by simp [plan])]
    exact ⟨rfl, rfl, rfl⟩
  | unreadable prompt payload? reason plan answer =>
    rw [run_of_unreadable source link s t plan answer, hasks plan]
    exact ⟨rfl, rfl, rfl⟩
  | declines prompt payload? text plan answer offer =>
    rw [run_of_declines source link s t plan answer offer, hasks plan]
    exact ⟨rfl, rfl, rfl⟩
  | accepts prompt payload? text payload plan answer offer =>
    rw [run_of_accepts source link s t plan answer offer, hasks plan]
    simp only [Performance.after, Trace.prompts_append, Trace.posts_append,
      Trace.withoutLog_append, prompts_delivered, posts_delivered, withoutLog_delivered]
    exact ⟨rfl, rfl, rfl⟩

/-- The result says that the answer could not be read exactly if there was an answer to be
read, and reading it failed. -/
theorem result_eq_unreadable_iff {reason : String} :
    (command.run config source link s t).result = .error (.unreadable reason) ↔
      command.asks config = true ∧ (source.next s).1 = .failed reason := by
  have hanswer : ∀ {input : Input} {reason : String}, input.answer = .error reason ↔
      input = .failed reason := by
    rintro (_ | _ | _) <;> simp [Input.answer]
  have hlink : ∀ result : Except LinkError Response,
      (result.mapError CommandError.link) ≠ .error (.unreadable reason) :=
    fun result h => not_exists_mapError (by rintro _ ⟨⟩) ⟨result, h.symm⟩
  rw [asks_eq_true_iff]
  cases command.course config (source.next s).1 with
  | sends payload plan => simp [run_of_send source link s t plan, plan, delivered, hlink]
  | refuses why plan => simp [run_of_refuse source link s t plan, plan]
  | unreadable prompt payload? why plan answer =>
    rw [run_of_unreadable source link s t plan answer, hanswer.mp answer]
    simp [plan]
  | declines prompt payload? text plan answer offer =>
    rw [run_of_declines source link s t plan answer offer, ← hanswer, answer]
    simp
  | accepts prompt payload? text payload plan answer offer =>
    rw [run_of_accepts source link s t plan answer offer, ← hanswer, answer]
    simp [Performance.after, delivered, hlink]

/-- **A command hears of its next input only what that says as an answer.**  The state of the
source apart, nothing else makes a difference. -/
theorem run_congr_answer {ρ : Type} (other : LineSource ρ) (r : ρ)
    (h : (source.next s).1.answer = (other.next r).1.answer) :
    let ran := command.run config source link s t
    let run' := command.run config other link r t
    ran.trace = run'.trace ∧ ran.result = run'.result ∧ ran.link = run'.link := by
  cases command.course config (source.next s).1 with
  | sends payload plan =>
    rw [run_of_send source link s t plan, run_of_send other link r t plan]
    exact ⟨rfl, rfl, rfl⟩
  | refuses why plan =>
    rw [run_of_refuse source link s t plan, run_of_refuse other link r t plan]
    exact ⟨rfl, rfl, rfl⟩
  | unreadable prompt payload? reason plan answer =>
    rw [run_of_unreadable source link s t plan answer,
      run_of_unreadable other link r t plan (h.symm.trans answer)]
    exact ⟨rfl, rfl, rfl⟩
  | declines prompt payload? text plan answer offer =>
    rw [run_of_declines source link s t plan answer offer,
      run_of_declines other link r t plan (h.symm.trans answer) offer]
    exact ⟨rfl, rfl, rfl⟩
  | accepts prompt payload? text payload plan answer offer =>
    rw [run_of_accepts source link s t plan answer offer,
      run_of_accepts other link r t plan (h.symm.trans answer) offer]
    exact ⟨rfl, rfl, rfl⟩

/-- **The end of input is declined**, by every command that asks. -/
theorem result_of_ended (hasks : command.asks config = true) (read : (source.next s).1 = .ended) :
    (command.run config source link s t).result = .error (.rejected (.notOffered "")) := by
  obtain ⟨prompt, payload?, plan⟩ := asks_eq_true_iff.mp hasks
  have hempty : (source.next s).1.answer = .ok "" := by
    rw [read]
    rfl
  rw [run_of_declines source link s t plan hempty (offer_empty plan)]

/-! ## What is posted -/

/-- **A run posts once, a payload or none, and hands on what comes back, or it does not touch
the link** and says why. -/
theorem delivers_or_refuses :
    let ran := command.run config source link s t
    (∃ payload : Option Payload, let body := payload.map Payload.body
      ran.trace.posts = [(command.path, body)] ∧
      ran.result = (link.post command.path body t).1.result.mapError .link ∧
      ran.link = (link.post command.path body t).2) ∨
    (ran.trace.posts = [] ∧ ran.link = t ∧
      ((∃ why, ran.result = .error (.rejected why)) ∨
        ∃ reason, ran.result = .error (.unreadable reason))) := by
  cases command.course config (source.next s).1 with
  | sends payload plan =>
    rw [run_of_send source link s t plan]
    exact .inl ⟨payload, posts_delivered link s t _, rfl, rfl⟩
  | refuses why plan =>
    rw [run_of_refuse source link s t plan]
    exact .inr ⟨rfl, rfl, .inl ⟨why, rfl⟩⟩
  | unreadable prompt payload? reason plan answer =>
    rw [run_of_unreadable source link s t plan answer]
    exact .inr ⟨rfl, rfl, .inr ⟨reason, rfl⟩⟩
  | declines prompt payload? text plan answer offer =>
    rw [run_of_declines source link s t plan answer offer]
    exact .inr ⟨rfl, rfl, .inl ⟨_, rfl⟩⟩
  | accepts prompt payload? text payload plan answer offer =>
    rw [run_of_accepts source link s t plan answer offer]
    refine .inl ⟨some payload, ?_, rfl, rfl⟩
    rw [Performance.after, Trace.posts_append, posts_delivered]
    rfl

/-- **What there is to send can be written**, by every command. -/
theorem result_ne_unwritable (reason : String) :
    (command.run config source link s t).result ≠ .error (.unwritable reason) := by
  intro hunwritable
  rcases delivers_or_refuses command config source link s t with
    ⟨payload, -, hresult, -⟩ | ⟨-, -, ⟨why, hresult⟩ | ⟨reason, hresult⟩⟩
  · exact not_exists_mapError (by rintro _ ⟨⟩) ⟨_, hunwritable.symm.trans hresult⟩
  · cases hunwritable.symm.trans hresult
  · cases hunwritable.symm.trans hresult

/-- **There was one request** exactly if the result is a reply or a failure of the link. -/
theorem length_posts_eq_one_iff :
    let ran := command.run config source link s t
    ran.trace.posts.length = 1 ↔
      (∃ response, ran.result = .ok response) ∨ ∃ error, ran.result = .error (.link error) := by
  rcases delivers_or_refuses command config source link s t with
    ⟨payload, hposts, hresult, -⟩ | ⟨hposts, -, ⟨why, hresult⟩ | ⟨reason, hresult⟩⟩
  · refine iff_of_true (congrArg List.length hposts) ?_
    cases hsent : (link.post command.path (payload.map Payload.body) t).1.result with
    | ok response => exact .inl ⟨response, hresult.trans (congrArg _ hsent)⟩
    | error error => exact .inr ⟨error, hresult.trans (congrArg _ hsent)⟩
  · simp [hposts, hresult]
  · simp [hposts, hresult]

/-- **There was no request** exactly if the result is a rejection or an unreadable answer. -/
theorem posts_eq_nil_iff :
    let ran := command.run config source link s t
    ran.trace.posts = [] ↔
      (∃ why, ran.result = .error (.rejected why)) ∨
        ∃ reason, ran.result = .error (.unreadable reason) := by
  rcases delivers_or_refuses command config source link s t with
    ⟨payload, hposts, hresult, -⟩ | ⟨hposts, -, hresult⟩
  · simp only [hposts, hresult]
    refine iff_of_false (List.cons_ne_nil _ _) ?_
    rintro (⟨why, h⟩ | ⟨reason, h⟩)
    · exact not_exists_mapError (by rintro _ ⟨⟩) ⟨_, h.symm⟩
    · exact not_exists_mapError (by rintro _ ⟨⟩) ⟨_, h.symm⟩
  · exact iff_of_true hposts hresult

end Run

/-- **What a command has done can be read off its result.**

* It reads one answer if it asks and none otherwise, and it reads before it posts.
* It has posted, and just once, exactly if its result is a reply or a failure of the link.
  The request went to the command's own path, and what came back is the result as it was.
* What there is to send can always be written: the result is never that it cannot, and a body
  that is sent is read as an object.
* It has posted nothing exactly if its result is a rejection or an unreadable answer, and
  then the link is as before.
* The answer was unreadable exactly if the one read that it made failed.
* The end of input is rejected by every command that asks, and it makes no difference
  whether the input has ended or a blank line was typed. -/
theorem effects_follow_outcome {σ τ : Type} (command : Command) (config : Config)
    (source : LineSource σ) (link : Link τ) (s : σ) (t : τ) :
    let ran := command.run config source link s t
    (ran.trace.prompts.length = (if command.asks config then 1 else 0) ∧
      ran.source = (if command.asks config then (source.next s).2 else s) ∧
      ran.trace.withoutLog =
        ran.trace.prompts.map .prompt ++ ran.trace.posts.map fun post => .post post.1 post.2) ∧
    ((ran.trace.posts.length = 1 ↔
        (∃ response, ran.result = .ok response) ∨ ∃ error, ran.result = .error (.link error)) ∧
      (∀ reason, ran.result ≠ .error (.unwritable reason)) ∧
      ∀ post ∈ ran.trace.posts, post.1 = command.path ∧
        (∀ body ∈ post.2, ∃ members, Json.decode? body = some (.object members)) ∧
        ran.result = (link.post post.1 post.2 t).1.result.mapError .link ∧
        ran.link = (link.post post.1 post.2 t).2) ∧
    ((ran.trace.posts = [] ↔
        (∃ why, ran.result = .error (.rejected why)) ∨
          ∃ reason, ran.result = .error (.unreadable reason)) ∧
      (ran.trace.posts = [] → ran.link = t)) ∧
    (∀ reason, ran.result = .error (.unreadable reason) ↔
      command.asks config = true ∧ (source.next s).1 = .failed reason) ∧
    ((source.next s).1 = .ended →
      (command.asks config = true → ran.result = .error (.rejected (.notOffered ""))) ∧
      ∀ {ρ : Type} (other : LineSource ρ) (r : ρ) (text : String),
        (other.next r).1 = .line text → Text.trimmed text = "" →
          let run' := command.run config other link r t
          ran.trace = run'.trace ∧ ran.result = run'.result ∧ ran.link = run'.link) := by
  intro ran
  have hdelivers := delivers_or_refuses command config source link s t
  refine ⟨reads_run command config source link s t,
    ⟨length_posts_eq_one_iff command config source link s t,
      result_ne_unwritable command config source link s t, ?_⟩,
    ⟨posts_eq_nil_iff command config source link s t, ?_⟩,
    fun reason => result_eq_unreadable_iff command config source link s t, fun read => ⟨?_, ?_⟩⟩
  · intro post hpost
    rcases hdelivers with ⟨payload, hposts, hresult, hlink⟩ | ⟨hposts, -⟩
    · rw [hposts, List.mem_singleton] at hpost
      subst hpost
      refine ⟨rfl, fun body hbody => ?_, hresult, hlink⟩
      obtain ⟨payload, -, rfl⟩ := Option.map_eq_some_iff.mp hbody
      exact ⟨_, payload.decode?_body⟩
    · rw [hposts] at hpost
      cases hpost
  · intro hnone
    rcases hdelivers with ⟨payload, hposts, -⟩ | ⟨-, hlink, -⟩
    · rw [hposts] at hnone
      cases hnone
    · exact hlink
  · exact fun hasks => result_of_ended command config source link s t hasks read
  · intro ρ other r text hline hblank
    refine run_congr_answer command config source link s t other r ?_
    rw [read, hline, Input.answer, Input.answer, hblank]

end LiveRoom.Command
