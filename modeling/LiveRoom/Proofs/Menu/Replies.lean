import LiveRoom.Proofs.Menu.Turn

/-!
# Replies do not steer the session

Whatever the service answers, a session asks the same questions, makes the same
requests, uses up the same inputs and ends in the same way.  Two sessions over one
source of lines but over any two links differ at most in what follows each request: what
the link logs, and what is told about the outcome.

`Trace.AgreeButAnswers` says this of two traces.  It allows a difference only in what
follows a request that both make, so that prompts and requests are the same
(`AgreeButAnswers.prompts_eq`, `AgreeButAnswers.posts_eq`).  One command keeps two
performances alike, hence one turn does, hence by induction on the turns a whole session.
-/

namespace LiveRoom

variable {σ τ υ α : Type}

/-! ## Traces that agree but for the answers -/

namespace Trace

/-- What follows a request: the entries of the link, and what is told about the outcome. -/
def answer (log : List Log.Entry) (choice : String) (outcome : Except CommandError Response) :
    Trace := log.map .log ++ Menu.told choice outcome

@[simp]
theorem prompts_answer (log : List Log.Entry) (choice : String)
    (outcome : Except CommandError Response) : prompts (answer log choice outcome) = [] := by
  rw [answer, prompts_append, prompts_map_log]
  rfl

@[simp]
theorem posts_answer (log : List Log.Entry) (choice : String)
    (outcome : Except CommandError Response) : posts (answer log choice outcome) = [] := by
  rw [answer, posts_append, posts_map_log]
  rfl

/-- **Two traces agree but for the answers**: they differ at most in what the link logs
during a request and in what is told about its outcome. -/
inductive AgreeButAnswers : Trace → Trace → Prop where
  | nil : AgreeButAnswers [] []
  | same {first second : Trace} (event : Event) (others : AgreeButAnswers first second) :
      AgreeButAnswers (event :: first) (event :: second)
  | answered {first second : Trace} (path : String) (body : Option String) (choice : String)
      (log log' : List Log.Entry) (outcome outcome' : Except CommandError Response)
      (others : AgreeButAnswers first second) :
      AgreeButAnswers (.post path body :: (answer log choice outcome ++ first))
        (.post path body :: (answer log' choice outcome' ++ second))

namespace AgreeButAnswers

variable {first first' second second' : Trace}

theorem refl (trace : Trace) : AgreeButAnswers trace trace := by
  induction trace with
  | nil => exact .nil
  | cons event trace ih => exact .same event ih

theorem append (h : AgreeButAnswers first second) (h' : AgreeButAnswers first' second') :
    AgreeButAnswers (first ++ first') (second ++ second') := by
  induction h with
  | nil => exact h'
  | same event _ ih => exact .same event ih
  | answered path body choice log log' outcome outcome' _ ih =>
    rw [List.cons_append, List.cons_append, List.append_assoc, List.append_assoc]
    exact .answered path body choice log log' outcome outcome' ih

theorem prompts_eq (h : AgreeButAnswers first second) : first.prompts = second.prompts := by
  induction h with
  | nil => rfl
  | same event _ ih =>
    rw [← List.singleton_append, prompts_append, ih, ← prompts_append, List.singleton_append]
  | answered path body choice log log' outcome outcome' _ ih =>
    rw [prompts_cons_post, prompts_cons_post, prompts_append, prompts_append, prompts_answer,
      prompts_answer, ih]

theorem posts_eq (h : AgreeButAnswers first second) : first.posts = second.posts := by
  induction h with
  | nil => rfl
  | same event _ ih =>
    rw [← List.singleton_append, posts_append, ih, ← posts_append, List.singleton_append]
  | answered path body choice log log' outcome outcome' _ ih =>
    rw [posts_cons_post, posts_cons_post, posts_append, posts_append, posts_answer,
      posts_answer, ih]

end AgreeButAnswers

end Trace

/-- **Two performances agree but for the answers**: their traces do, and they have the
same result and leave their source in the same state. -/
structure Performance.AgreeButAnswers (first : Performance σ τ α) (second : Performance σ υ α) :
    Prop where
  trace : Trace.AgreeButAnswers first.trace second.trace
  result : first.result = second.result
  source : first.source = second.source

/-! ## One command, one turn, one session -/

/-- A request and what is told about its outcome, over two links. -/
theorem Command.agree_delivered (command : Command) (choice : String) (body : Option String)
    (link : Link τ) (other : Link υ) (s : σ) (t : τ) (u : υ) :
    let first := command.delivered body link s t
    let second := command.delivered body other s u
    Trace.AgreeButAnswers (first.trace ++ Menu.told choice first.result)
      (second.trace ++ Menu.told choice second.result) := by
  intro first second
  have h := Trace.AgreeButAnswers.same (.log command.builtEntry) <| .answered command.path body
    choice (link.post command.path body t).1.log (other.post command.path body u).1.log
    first.result second.result .nil
  rw [List.append_nil, List.append_nil] at h
  exact h

namespace Menu

section Alike
variable (config : Config) (source : LineSource σ) (link : Link τ) (other : Link υ) (s : σ)
  (t : τ) (u : υ)

/-- What a command does and what is told about it, over two links. -/
theorem agree_command (choice : String) (command : Command) :
    let first := command.run config source link s t
    let second := command.run config source other s u
    Trace.AgreeButAnswers (first.trace ++ told choice first.result)
        (second.trace ++ told choice second.result) ∧
      first.source = second.source := by
  cases command.course config (source.next s).1 with
  | sends payload plan =>
    rw [Command.run_of_send source link s t plan, Command.run_of_send source other s u plan]
    exact ⟨command.agree_delivered choice _ link other s t u, rfl⟩
  | refuses why plan =>
    rw [Command.run_of_refuse source link s t plan, Command.run_of_refuse source other s u plan]
    exact ⟨.refl _, rfl⟩
  | unreadable prompt payload? reason plan answer =>
    rw [Command.run_of_unreadable source link s t plan answer,
      Command.run_of_unreadable source other s u plan answer]
    exact ⟨.refl _, rfl⟩
  | declines prompt payload? text plan answer offer =>
    rw [Command.run_of_declines source link s t plan answer offer,
      Command.run_of_declines source other s u plan answer offer]
    exact ⟨.refl _, rfl⟩
  | accepts prompt payload? text payload plan answer offer =>
    rw [Command.run_of_accepts source link s t plan answer offer,
      Command.run_of_accepts source other s u plan answer offer]
    exact ⟨.same _ (command.agree_delivered choice _ link other _ t u), rfl⟩

/-- **One turn over two links.** -/
theorem agree_round :
    (round config source link s t).AgreeButAnswers (round config source other s u) := by
  generalize hread : (source.next s).1 = input
  cases choice input with
  | ended =>
    rw [round_of_ended config link t hread, round_of_ended config other u hread]
    exact ⟨.refl _, rfl, rfl⟩
  | failed reason =>
    rw [round_of_failed config link t hread, round_of_failed config other u hread]
    exact ⟨.refl _, rfl, rfl⟩
  | blank text blank =>
    rw [round_of_blank config link t hread blank, round_of_blank config other u hread blank]
    exact ⟨.refl _, rfl, rfl⟩
  | unknown text filled unknown =>
    rw [round_of_unknown config link t hread filled unknown,
      round_of_unknown config other u hread filled unknown]
    exact ⟨.refl _, rfl, rfl⟩
  | known text command filled known =>
    rw [round_of_known config link t hread filled known,
      round_of_known config other u hread filled known]
    obtain ⟨htrace, hsource⟩ := agree_command config source link other (source.next s).2 t u
      (Text.trimmed text) command
    refine ⟨?_, rfl, hsource⟩
    simp only [List.append_assoc]
    exact (Trace.AgreeButAnswers.refl opening).append htrace

/-- **A session over two links.** -/
theorem agree_run :
    (run config source link s t).AgreeButAnswers (run config source other s u) := by
  induction s, t using run_induction config source link generalizing u with
  | last s t ending hlast =>
    obtain ⟨htrace, hresult, hsource⟩ := agree_round config source link other s t u
    rw [run_of_some hlast, run_of_some (hresult.symm.trans hlast)]
    exact ⟨htrace, rfl, hsource⟩
  | more s t hmore ih =>
    obtain ⟨htrace, hresult, hsource⟩ := agree_round config source link other s t u
    obtain ⟨htraces, hresults, hsources⟩ := ih (round config source other s u).link
    rw [run_of_none hmore, run_of_none (hresult.symm.trans hmore)]
    dsimp only
    rw [← hsource]
    exact ⟨htrace.append htraces, hresults, hsources⟩

end Alike

/-- **What the service answers never steers the session.**  Over any two links a session
asks the same questions, hands over the same requests, leaves the same inputs unread and
ends in the same way; the traces differ at most in what is told right after each
request. -/
theorem replies_do_not_steer (config : Config) (source : LineSource σ) (link : Link τ)
    (other : Link υ) (s : σ) (t : τ) (u : υ) :
    let first := run config source link s t
    let second := run config source other s u
    first.trace.prompts = second.trace.prompts ∧ first.trace.posts = second.trace.posts ∧
      first.source = second.source ∧ first.result = second.result ∧
      Trace.AgreeButAnswers first.trace second.trace := by
  obtain ⟨htrace, hresult, hsource⟩ := agree_run config source link other s t u
  exact ⟨htrace.prompts_eq, htrace.posts_eq, hsource, hresult, htrace⟩

end Menu

end LiveRoom
