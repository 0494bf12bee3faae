import LiveRoom.Proofs.Dialogue
import LiveRoom.Proofs.Menu.Turn

/-!
# A session is a sequence of rounds

Without its log, the trace of a session falls into rounds.  Each **round** opens with
the menu and one read at the top level.  In a round after which the menu comes back
(`Menu.Round`) at most one question and at most one request follow, in this order, and
then one text that tells what came of it.  Which of these there are depends on the line
alone: `Round.Lawful`.  The last round ends the session by what it read
(`Menu.Ends`).

One turn is such a round (`exists_round`, `ends_of_some`), and so, by induction on the
turns, a whole session is a sequence of them (`exists_rounds`).  The rounds use up the
inputs of the source one after another, so reading them side by side with a script tells
which item was read where.
-/

namespace LiveRoom.Menu

variable {σ τ : Type}

/-- **A round after which the menu comes back.** -/
structure Round where
  /-- What was read at the top level. -/
  line : String
  /-- The question that followed, if one did, and what was read then. -/
  asked : Option (String × Input)
  /-- The path and the body of the request, if one was made. -/
  posted : Option (String × Option String)
  /-- The one text that was printed. -/
  told : String

namespace Round

def choice (round : Round) : String := Text.trimmed round.line

/-- **The events of a round**: the menu, the read at the top level, at most one further
read, at most one request, and one text. -/
def events (round : Round) : Trace :=
  opening ++ Command.askedEvents round.asked ++ Command.postedEvents round.posted ++
    [.print round.told]

def inputs (round : Round) : List Input :=
  .line round.line :: Command.askedInputs round.asked

/-- **What a round may do.**  Without a command it only says so.  With one it tells one
outcome, and it makes a request, to the path of that command, exactly if the outcome
comes from the link. -/
structure Lawful (round : Round) : Prop where
  filled : round.choice ≠ ""
  unknown : (∀ command : Command, command.token ≠ round.choice) →
    round.asked = none ∧ round.posted = none ∧ round.told = unknownText round.choice
  known : ∀ command : Command, command.token = round.choice →
    ∃ outcome, round.told = outcomeText round.choice outcome ∧
      (∀ posted ∈ round.posted, posted.1 = command.path) ∧
      (round.posted.isSome ↔ ∃ result : Except LinkError Response,
        outcome = result.mapError .link)

end Round

/-- **What was typed is rejected in a round**, where it was asked for, and nothing is sent for it:
at the top level if no command has it as its token, and at the question of a command if that was
answered and yet no request follows.  It counts without the blanks around it. -/
inductive Round.Rejects (round : Round) : (prompt answer : String) → Prop where
  | unknown (unknown : ∀ command : Command, command.token ≠ round.choice) :
      Rejects round question round.choice
  | declined {prompt answer : String} {input : Input} (asked : round.asked = some (prompt, input))
      (answered : input.answer = .ok answer) (unsent : round.posted = none) :
      Rejects round prompt answer

/-- The texts about something that was typed and rejected. -/
def rejectionTexts (answer : String) : List String :=
  [unknownText answer, Text.yellow (Rejection.notOffered answer).message ++ "\n"]

/-- **How the last read ends the session.** -/
inductive Ends : Input → Ending → Prop where
  | blank (text : String) (blank : Text.trimmed text = "") : Ends (.line text) .finished
  | ended : Ends .ended .finished
  | failed (reason : String) : Ends (.failed reason) (.failed reason)

/-- What follows the last read. -/
def closing : Input → Trace
  | .failed _ => []
  | _ => [.print farewell]

/-! ## One turn -/

section Turn
variable (config : Config) (source : LineSource σ) (link : Link τ) (s : σ) (t : τ)

/-- **A turn after which the menu comes back is a round.**  If it rejects what was typed, it
says so. -/
theorem exists_round (h : (round config source link s t).result = none) :
    let turn := round config source link s t
    ∃ round : Round, (round.Lawful ∧
        ∀ prompt answer, round.Rejects prompt answer → round.told ∈ rejectionTexts answer) ∧
      turn.trace.withoutLog = round.events ∧ source.Gives s round.inputs turn.source := by
  have hfirst := LineSource.Gives.one source s
  generalize hread : (source.next s).1 = input at hfirst
  cases choice input with
  | ended =>
    rw [round_of_ended config link t hread] at h
    cases h
  | failed reason =>
    rw [round_of_failed config link t hread] at h
    cases h
  | blank text blank =>
    rw [round_of_blank config link t hread blank] at h
    cases h
  | unknown text filled unknown =>
    rw [round_of_unknown config link t hread filled unknown]
    have hno := Command.find?_eq_none_iff.mp unknown
    refine ⟨⟨text, none, none, unknownText (Text.trimmed text)⟩, ⟨?_, ?_⟩, rfl, hfirst⟩
    · exact ⟨filled, fun _ => ⟨rfl, rfl, rfl⟩,
        fun command hcommand => absurd hcommand (hno command)⟩
    · rintro _ _ (_ | asked)
      · exact List.mem_cons_self
      · cases asked
  | known text command filled known =>
    rw [round_of_known config link t hread filled known]
    obtain ⟨asked, posted, htrace, hgives, hpath, hposted, hdeclined⟩ :=
      command.exists_conduct config source link (source.next s).2 t
    have htoken := Command.find?_eq_some_iff.mp known
    refine ⟨⟨text, asked, posted, outcomeText (Text.trimmed text)
      (command.run config source link (source.next s).2 t).result⟩, ⟨?_, ?_⟩, ?_, ?_⟩
    · refine ⟨filled, fun hno => absurd htoken (hno command), fun other hother => ?_⟩
      obtain rfl : command = other :=
        Option.some.inj (known.symm.trans (Command.find?_eq_some_iff.mpr hother))
      exact ⟨_, rfl, hpath, hposted⟩
    · rintro prompt answer (hno | ⟨asked, answered, unsent⟩)
      · exact absurd htoken (hno command)
      · rw [hdeclined prompt _ answer asked answered unsent]
        exact List.mem_cons_of_mem _ List.mem_cons_self
    · show Trace.withoutLog (opening ++ _ ++ told _ _) = _
      rw [Trace.withoutLog_append, Trace.withoutLog_append, htrace, Round.events,
        List.append_assoc opening]
      rfl
    · exact hfirst.append hgives

/-- **A turn that ends the session** does so by what it read. -/
theorem ends_of_some {ending : Ending}
    (h : (round config source link s t).result = some ending) :
    let turn := round config source link s t
    Ends (source.next s).1 ending ∧
      turn.trace.withoutLog = opening ++ closing (source.next s).1 ∧
      turn.source = (source.next s).2 := by
  generalize hread : (source.next s).1 = input
  cases choice input with
  | ended =>
    rw [round_of_ended config link t hread] at h ⊢
    cases h
    exact ⟨.ended, rfl, rfl⟩
  | failed reason =>
    rw [round_of_failed config link t hread] at h ⊢
    cases h
    exact ⟨.failed reason, rfl, rfl⟩
  | blank text blank =>
    rw [round_of_blank config link t hread blank] at h ⊢
    cases h
    exact ⟨.blank text blank, rfl, rfl⟩
  | unknown text filled unknown =>
    rw [round_of_unknown config link t hread filled unknown] at h
    cases h
  | known text command filled known =>
    rw [round_of_known config link t hread filled known] at h
    cases h

end Turn

/-! ## The whole session -/

/-- **A session is a sequence of rounds and a last read that ends it.**  There are no
more rounds than lines to come.  What is rejected in a round is told there. -/
theorem exists_rounds_telling (config : Config) (source : LineSource σ) (link : Link τ) (s : σ)
    (t : τ) :
    let ran := run config source link s t
    ∃ (rounds : List Round) (last : Input),
      ran.trace.withoutLog = rounds.flatMap Round.events ++ (opening ++ closing last) ∧
      (∀ round ∈ rounds, round.Lawful ∧
        ∀ prompt answer, round.Rejects prompt answer → round.told ∈ rejectionTexts answer) ∧
      source.Gives s (rounds.flatMap Round.inputs ++ [last]) ran.source ∧
      Ends last ran.result ∧ rounds.length ≤ source.left s := by
  induction s, t using run_induction config source link with
  | last s t ending hresult =>
    obtain ⟨hends, htrace, hsource⟩ := ends_of_some config source link s t hresult
    rw [run_of_some hresult]
    refine ⟨[], (source.next s).1, htrace, by simp, ?_, hends, Nat.zero_le _⟩
    rw [hsource]
    exact .one source s
  | more s t hresult ih =>
    obtain ⟨first, hfirst, htrace, hgives⟩ := exists_round config source link s t hresult
    obtain ⟨rounds, last, htraces, hall, hgivess, hends, hlength⟩ := ih
    rw [run_of_none hresult]
    refine ⟨first :: rounds, last, ?_, ?_, ?_, hends, ?_⟩
    · show Trace.withoutLog (_ ++ _) = _
      rw [Trace.withoutLog_append, htrace, htraces, List.flatMap_cons, List.append_assoc]
    · intro round hround
      rcases List.mem_cons.mp hround with rfl | hround
      · exact hfirst
      · exact hall round hround
    · rw [List.flatMap_cons, List.append_assoc]
      exact hgives.append hgivess
    · rw [List.length_cons]
      exact Nat.lt_of_le_of_lt hlength (left_round_lt hresult)

/-- The rounds of a session are lawful. -/
theorem exists_rounds (config : Config) (source : LineSource σ) (link : Link τ) (s : σ) (t : τ) :
    let ran := run config source link s t
    ∃ (rounds : List Round) (last : Input),
      ran.trace.withoutLog = rounds.flatMap Round.events ++ (opening ++ closing last) ∧
      (∀ round ∈ rounds, round.Lawful) ∧
      source.Gives s (rounds.flatMap Round.inputs ++ [last]) ran.source ∧
      Ends last ran.result ∧ rounds.length ≤ source.left s := by
  obtain ⟨rounds, last, htrace, hall, others⟩ := exists_rounds_telling config source link s t
  exact ⟨rounds, last, htrace, fun round hround => (hall round hround).1, others⟩

/-- A request goes to the path of the command whose token was chosen. -/
theorem Round.Lawful.exists_command {round : Round} (h : round.Lawful)
    {posted : String × Option String} (hposted : posted ∈ round.posted) :
    ∃ command : Command, command.token = round.choice ∧ posted.1 = command.path := by
  by_cases hknown : ∃ command : Command, command.token = round.choice
  · obtain ⟨command, htoken⟩ := hknown
    obtain ⟨_, _, hpath, _⟩ := h.known command htoken
    exact ⟨command, htoken, hpath posted hposted⟩
  · have hnone := (h.unknown fun command htoken => hknown ⟨command, htoken⟩).2.1
    rw [hnone] at hposted
    cases hposted

/-- **Every request of a session goes to the path of a command.** -/
theorem exists_command_of_mem_posts (config : Config) (source : LineSource σ) (link : Link τ)
    (s : σ) (t : τ) {posted : String × Option String}
    (hposted : posted ∈ (run config source link s t).trace.posts) :
    ∃ command : Command, posted.1 = command.path := by
  obtain ⟨rounds, last, htrace, hlawful, -⟩ := exists_rounds config source link s t
  have hclosing : Trace.posts (opening ++ closing last) = [] := by cases last <;> rfl
  have hmem : ∃ round ∈ rounds, posted ∈ round.posted := by
    rw [← Trace.posts_withoutLog, htrace, Trace.posts_append, hclosing, List.append_nil] at hposted
    obtain ⟨event, hevent, hposts⟩ := List.mem_filterMap.mp hposted
    obtain ⟨round, hround, hin⟩ := List.mem_flatMap.mp hevent
    refine ⟨round, hround, ?_⟩
    cases event with
    | post path body =>
      obtain rfl : (path, body) = posted := Option.some.inj hposts
      obtain ⟨line, asked, sent, told⟩ := round
      cases asked <;> cases sent <;>
        simp_all [Round.events, opening, Command.askedEvents, Command.postedEvents]
    | prompt text => cases hposts
    | print text => cases hposts
    | log entry => cases hposts
  obtain ⟨round, hround, hin⟩ := hmem
  obtain ⟨command, -, hpath⟩ := (hlawful round hround).exists_command hin
  exact ⟨command, hpath⟩

/-- **A session over a script** ends, and without its log its trace is a sequence of lawful
rounds and a last read.  The reads are the items of the script in their order, and the end
of input after them; what no read reached is left.  The last read alone ends the session:
a blank line or the end of input with the farewell as the last output, a failure as that
failure and without it. -/
theorem session_is_rounds (config : Config) (link : Link τ) (script : Script) (t : τ) :
    let ran := run config .script link script t
    ∃ (rounds : List Round) (last : Input),
      let reads := rounds.flatMap Round.inputs ++ [last]
      ran.trace.withoutLog = rounds.flatMap Round.events ++ (opening ++ closing last) ∧
      (∀ round ∈ rounds, round.Lawful) ∧
      reads = script.take reads.length ++
        List.replicate (reads.length - script.length) Input.ended ∧
      ran.source = script.drop reads.length ∧
      Ends last ran.result ∧ rounds.length ≤ script.length := by
  obtain ⟨rounds, last, htrace, hlawful, hgives, hends, hlength⟩ :=
    exists_rounds config .script link script t
  obtain ⟨hreads, hrest⟩ := hgives.script_eq
  exact ⟨rounds, last, htrace, hlawful, hreads, hrest, hends, hlength⟩

end LiveRoom.Menu
