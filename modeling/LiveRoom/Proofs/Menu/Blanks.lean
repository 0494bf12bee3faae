import LiveRoom.Proofs.Menu.Session
import LiveRoom.Proofs.Text.Blank
import Mathlib.Data.List.Forall2

/-!
# Blanks around what is typed

Whoever reads a line trims it first, at the top level and behind every question.  So a session
**hears** of an input only what is left of it without the blanks around it (`Input.heard`), and
a blank line is no more to it than the end of input.

`Dialogue.Hears` says this of a dialogue: after any input it goes on as after what is heard of
that.  Then it cannot tell its source from one that gives only what is heard
(`Dialogue.Hears.run_heard`).  Every command is such a dialogue, hence one turn of the menu is,
hence by induction on the turns a whole session cannot tell them apart either
(`Menu.run_heard`).  Two scripts that differ in blanks are heard alike.
-/

namespace LiveRoom

variable {σ τ α β : Type}

/-! ## What is heard -/

/-- **What is heard of an input**: a line without the blanks around it, if there is anything
else in it. -/
def Input.heard : Input → Input
  | .line text => if Text.trimmed text = "" then .ended else .line (Text.trimmed text)
  | .ended => .ended
  | .failed reason => .failed reason

namespace Input

theorem heard_of_blank {text : String} (h : Text.trimmed text = "") :
    (line text).heard = .ended := if_pos h

theorem heard_of_filled {text : String} (h : Text.trimmed text ≠ "") :
    (line text).heard = .line (Text.trimmed text) := if_neg h

/-- What is heard of an input answers as that does. -/
theorem answer_heard (input : Input) : input.heard.answer = input.answer := by
  cases input with
  | ended => rfl
  | failed reason => rfl
  | line text =>
    by_cases hblank : Text.trimmed text = ""
    · rw [heard_of_blank hblank, answer, answer, hblank]
    · rw [heard_of_filled hblank, answer, answer, Text.trimmed_trimmed]

/-- **Two inputs that are the same but for blanks**: there may be more of them around a line,
and a blank line may stand for the end of input. -/
inductive SameButBlanks : Input → Input → Prop where
  | same (input : Input) : SameButBlanks input input
  | padded (lead text tail : String) (leads : ∀ c ∈ lead.toList, Text.isBlank c)
      (trails : ∀ c ∈ tail.toList, Text.isBlank c) :
      SameButBlanks (.line text) (.line (lead ++ text ++ tail))
  | blank (text : String) (blank : ∀ c ∈ text.toList, Text.isBlank c) :
      SameButBlanks .ended (.line text)

theorem SameButBlanks.heard_eq {input other : Input} (h : SameButBlanks input other) :
    input.heard = other.heard := by
  cases h with
  | same => rfl
  | padded lead text tail leads trails =>
    simp only [heard, Text.trimmed_padded leads trails]
  | blank text blank => exact (heard_of_blank (Text.trimmed_eq_empty_iff.mpr blank)).symm

end Input

/-- **The source that gives what is heard** of the inputs of another one. -/
def LineSource.heard (source : LineSource σ) : LineSource σ where
  next s := ((source.next s).1.heard, (source.next s).2)
  left := source.left
  left_next_le := source.left_next_le
  left_next_lt := by
    intro s text h
    -- Only of a line another line is heard.
    cases hread : (source.next s).1 with
    | line typed => exact source.left_next_lt hread
    | ended =>
      rw [hread] at h
      cases h
    | failed reason =>
      rw [hread] at h
      cases h

/-! ## Dialogues that hear -/

namespace Dialogue

/-- **A dialogue hears**: it goes on after any input as after what is heard of it. -/
inductive Hears : Dialogue α → Prop where
  | done (result : α) : Hears (.done result)
  | print {next : Dialogue α} (text : String) (others : Hears next) : Hears (.print text next)
  | note {next : Dialogue α} (entry : Log.Entry) (others : Hears next) : Hears (.note entry next)
  | ask {next : Input → Dialogue α} (prompt : String)
      (alike : ∀ input, next input.heard = next input) (others : ∀ input, Hears (next input)) :
      Hears (.ask prompt next)
  | post {next : Except LinkError Response → Dialogue α} (path : String) (body : Option String)
      (others : ∀ result, Hears (next result)) : Hears (.post path body next)

namespace Hears

variable {dialogue : Dialogue α}

theorem bind (h : dialogue.Hears) {next : α → Dialogue β} (hnext : ∀ result, (next result).Hears) :
    (dialogue.bind next).Hears := by
  induction h with
  | done result => exact hnext result
  | print text _ ih => exact .print text ih
  | note entry _ ih => exact .note entry ih
  | ask prompt alike _ ih =>
    exact .ask prompt (fun input => congrArg (Dialogue.bind · next) (alike input)) ih
  | post path body _ ih => exact .post path body ih

/-- **A dialogue that hears** does the same over a source that gives only what is heard. -/
theorem run_heard (h : dialogue.Hears) (source : LineSource σ) (link : Link τ) (s : σ) (t : τ) :
    dialogue.run source.heard link s t = dialogue.run source link s t := by
  induction h generalizing s t with
  | done result => rfl
  | print text _ ih => exact congrArg (Performance.after _) (ih s t)
  | note entry _ ih => exact congrArg (Performance.after _) (ih s t)
  | ask prompt alike _ ih =>
    simp only [run, LineSource.heard, alike]
    exact congrArg (Performance.after _) (ih _ _ t)
  | post path body _ ih => exact congrArg (Performance.after _) (ih _ s _)

end Hears

end Dialogue

/-! ## Commands, turns and sessions -/

namespace Command

theorem hears_deliver (command : Command) (payload : Option Payload) :
    (command.deliver payload).Hears := by
  rw [deliver_eq_hand]
  exact .note _ (.post _ _ fun _ => .done _)

/-- **Every command hears.** -/
theorem hears_dialogue (command : Command) (config : Config) : (command.dialogue config).Hears := by
  rw [dialogue]
  split
  · exact command.hears_deliver _
  · exact .done _
  · rename_i prompt payload? _
    refine .ask prompt (fun input => by rw [input.answer_heard]) fun input => ?_
    split
    · exact .done _
    · split
      · exact .done _
      · exact command.hears_deliver _

end Command

namespace Menu

theorem hears_report (choice : String) (outcome : Except CommandError Response) :
    (report choice outcome).Hears := by
  rcases outcome with (why | reason | reason | error) | response <;>
    exact .note _ (.print _ (.done none))

/-- **Every turn hears.** -/
theorem hears_turn (config : Config) : (turn config).Hears := by
  refine .print display (.ask question (fun input => ?_) fun input => ?_)
  · cases input with
    | ended => rfl
    | failed reason => rfl
    | line text =>
      by_cases hblank : Text.trimmed text = ""
      · rw [Input.heard_of_blank hblank, obey, obey, if_pos hblank]
      · rw [Input.heard_of_filled hblank, obey, obey, Text.trimmed_trimmed]
  · cases choice input with
    | ended => exact .print _ (.done _)
    | failed reason => exact .done _
    | blank text blank =>
      rw [obey, if_pos blank]
      exact .print _ (.done _)
    | unknown text filled unknown =>
      simp only [obey, if_neg filled, unknown]
      exact .note _ (.print _ (.done none))
    | known text command filled known =>
      simp only [obey, if_neg filled, known]
      exact (command.hears_dialogue config).bind (hears_report _)

/-- **A session hears**: over a source that gives only what is heard it is the same. -/
theorem run_heard (config : Config) (source : LineSource σ) (link : Link τ) (s : σ) (t : τ) :
    run config source.heard link s t = run config source link s t := by
  have hround : ∀ s t, round config source.heard link s t = round config source link s t :=
    fun s t => (hears_turn config).run_heard source link s t
  induction s, t using run_induction config source link with
  | last s t ending hlast =>
    rw [run_of_some hlast, run_of_some ((congrArg Performance.result (hround s t)).trans hlast),
      hround]
  | more s t hmore ih =>
    rw [run_of_none hmore, run_of_none ((congrArg Performance.result (hround s t)).trans hmore),
      hround]
    dsimp only
    rw [ih]

/-- Scripts that are the same but for blanks are heard alike, item by item. -/
theorem simulates_of_sameButBlanks :
    LineSource.script.heard.Simulates LineSource.script.heard
      (List.Forall₂ Input.SameButBlanks) where
  same h := by
    cases h with
    | nil => rfl
    | cons hinput _ => exact hinput.heard_eq
  step h := by
    cases h with
    | nil => exact .nil
    | cons _ hothers => exact hothers

/-- **Blanks around what is typed make no difference.**  If some lines of a script have more of
them, or a blank line stands where input had ended, then the session asks, posts, prints and logs
the same, it ends in the same way, and it leaves as many items unread. -/
theorem blanks_make_no_difference (config : Config) (link : Link τ) {script padded : Script}
    (h : List.Forall₂ Input.SameButBlanks script padded) (t : τ) :
    let ran := run config .script link script t
    let ran' := run config .script link padded t
    ran.trace = ran'.trace ∧ ran.result = ran'.result ∧ ran.link = ran'.link ∧
      ran.source.length = ran'.source.length := by
  intro ran ran'
  have hmatches := run_matches simulates_of_sameButBlanks config link h t
  rw [run_heard, run_heard] at hmatches
  exact ⟨hmatches.trace, hmatches.result, hmatches.link, hmatches.source.length_eq⟩

/-- Blanks of many kinds around a token and around answers, and a blank line in place of an end
of input, which is an answer too. -/
theorem blanks_make_no_difference_of_any_kind :
    let script : Script :=
      [.line "2", .line "1", .line "8", .ended, .line "no such", .line "7", .failed "broken"]
    let padded : Script :=
      [.line "\u30002\u2028", .line "\t1\u0085", .line "8\u00A0", .line " \u2003\r",
        .line "  no such\n", .line "7", .failed "broken"]
    let link := Link.canned fun path => .ok ⟨path, 200, "ok"⟩
    let ran := run Config.default .script link script []
    let ran' := run Config.default .script link padded []
    List.Forall₂ Input.SameButBlanks script padded ∧
      ran.trace = ran'.trace ∧ ran.result = ran'.result ∧ ran.link = ran'.link ∧
      ran.source.length = ran'.source.length := by
  intro script padded link ran ran'
  have hpadded : List.Forall₂ Input.SameButBlanks script padded := by
    refine .cons (.padded "\u3000" "2" "\u2028" ?_ ?_) <| .cons (.padded "\t" "1" "\u0085" ?_ ?_) <|
      .cons (.padded "" "8" "\u00A0" ?_ ?_) <| .cons (.blank " \u2003\r" ?_) <|
      .cons (.padded "  " "no such" "\n" ?_ ?_) <| .cons (.same _) <| .cons (.same _) .nil
    all_goals exact List.all_eq_true.mp (by decide)
  exact ⟨hpadded, blanks_make_no_difference Config.default link hpadded []⟩

end Menu

end LiveRoom
