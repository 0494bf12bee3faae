import LiveRoom.Menu
import LiveRoom.Proofs.Command.Course

/-!
# One turn of the menu

What is read at the top level is one of five things (`Menu.Choice`): nothing any more,
a failure, a blank line, a line that names no command, or one that names a command.
For each of them an equation says all that one turn does.  The first three end the
session; after the other two the menu comes back.

A session is a chain of such turns (`Menu.run_of_some`, `Menu.run_of_none`), so what holds
of all sessions is proved along this chain (`Menu.run_induction`).
-/

namespace LiveRoom.Menu

variable {σ τ : Type}

/-! ## What a turn tells -/

/-- **The start of every turn**: the menu is shown and a line is asked for. -/
def opening : Trace := [.print display, .prompt question]

def unknownText (choice : String) : String :=
  Text.yellow ("unknown choice " ++ Text.quoted choice ++ ", pick a number from the menu") ++ "\n"

/-- **The text about a command's outcome**: the reply, the rejection or the failure. -/
def outcomeText (choice : String) : Except CommandError Response → String
  | .ok response => response.url ++ " " ++ response.body ++ "\n"
  | .error (.rejected why) => Text.yellow why.message ++ "\n"
  | .error error => Text.red ("choice " ++ choice ++ " failed: " ++ error.message) ++ "\n"

def unknownEntry (choice : String) : Log.Entry :=
  ⟨.warn, "ialctl::ui", "unknown menu choice", [("choice", .quoted choice)]⟩

/-- The log entry about a command's outcome. -/
def outcomeEntry (choice : String) : Except CommandError Response → Log.Entry
  | .ok response => ⟨.info, "ialctl::ui", "request done",
      [("choice", .quoted choice), ("status", .whole response.status)]⟩
  | .error (.rejected why) => ⟨.warn, "ialctl::ui", "command rejected",
      [("choice", .quoted choice), ("msg", .plain why.message)]⟩
  | .error error => ⟨.warn, "ialctl::ui", "command failed",
      [("choice", .quoted choice), ("error", .plain error.message)]⟩

/-- What is told about a command's outcome. -/
def told (choice : String) (outcome : Except CommandError Response) : Trace :=
  [.log (outcomeEntry choice outcome), .print (outcomeText choice outcome)]

theorem run_report (source : LineSource σ) (link : Link τ) (s : σ) (t : τ) (choice : String)
    (outcome : Except CommandError Response) :
    (report choice outcome).run source link s t = ⟨told choice outcome, none, s, t⟩ := by
  rcases outcome with (why | reason | reason | error) | response <;> rfl

/-! ## The five turns -/

/-- **What is read at the top level.** -/
inductive Choice : Input → Prop where
  | ended : Choice .ended
  | failed (reason : String) : Choice (.failed reason)
  | blank (text : String) (blank : Text.trimmed text = "") : Choice (.line text)
  | unknown (text : String) (filled : Text.trimmed text ≠ "")
      (unknown : Command.find? (Text.trimmed text) = none) : Choice (.line text)
  | known (text : String) (command : Command) (filled : Text.trimmed text ≠ "")
      (known : Command.find? (Text.trimmed text) = some command) : Choice (.line text)

theorem choice (input : Input) : Choice input := by
  cases input with
  | ended => exact .ended
  | failed reason => exact .failed reason
  | line text =>
    by_cases hblank : Text.trimmed text = ""
    · exact .blank text hblank
    · cases hfind : Command.find? (Text.trimmed text) with
      | none => exact .unknown text hblank hfind
      | some command => exact .known text command hblank hfind

section Round
variable (config : Config) {source : LineSource σ} (link : Link τ) {s : σ} (t : τ)
  {text : String}

theorem round_eq : round config source link s t =
    ((obey config (source.next s).1).run source link (source.next s).2 t).after opening := rfl

theorem round_of_ended (read : (source.next s).1 = .ended) : round config source link s t =
    ⟨opening ++ [.print farewell], some .finished, (source.next s).2, t⟩ := by
  rw [round_eq, read]
  rfl

theorem round_of_failed {reason : String} (read : (source.next s).1 = .failed reason) :
    round config source link s t =
      ⟨opening, some (.failed reason), (source.next s).2, t⟩ := by
  rw [round_eq, read]
  rfl

theorem round_of_blank (read : (source.next s).1 = .line text)
    (blank : Text.trimmed text = "") : round config source link s t =
      ⟨opening ++ [.print farewell], some .finished, (source.next s).2, t⟩ := by
  rw [round_eq, read, obey, if_pos blank]
  rfl

theorem round_of_unknown (read : (source.next s).1 = .line text)
    (filled : Text.trimmed text ≠ "") (unknown : Command.find? (Text.trimmed text) = none) :
    round config source link s t =
      ⟨opening ++ [.log (unknownEntry (Text.trimmed text)),
        .print (unknownText (Text.trimmed text))], none, (source.next s).2, t⟩ := by
  simp only [round_eq, read, obey, if_neg filled, unknown]
  rfl

theorem round_of_known {command : Command} (read : (source.next s).1 = .line text)
    (filled : Text.trimmed text ≠ "") (known : Command.find? (Text.trimmed text) = some command) :
    round config source link s t =
      let ran := command.run config source link (source.next s).2 t
      ⟨opening ++ ran.trace ++ told (Text.trimmed text) ran.result, none, ran.source,
        ran.link⟩ := by
  simp only [round_eq, read, obey, if_neg filled, known, Dialogue.run_bind, run_report]
  simp only [Performance.after, ← List.append_assoc]
  rfl

end Round

/-! ## The chain of turns -/

section Run
variable {config : Config} {source : LineSource σ} {link : Link τ} {s : σ} {t : τ}

theorem run_of_some {ending : Ending}
    (h : (round config source link s t).result = some ending) :
    run config source link s t =
      let last := round config source link s t
      ⟨last.trace, ending, last.source, last.link⟩ := by
  rw [run]
  split
  · rename_i found hfound
    obtain rfl : found = ending := Option.some.inj (hfound.symm.trans h)
    rfl
  · rename_i hnone
    rw [h] at hnone
    cases hnone

theorem run_of_none (h : (round config source link s t).result = none) :
    run config source link s t =
      let first := round config source link s t
      (run config source link first.source first.link).after first.trace := by
  rw [run]
  split
  · rename_i found hfound
    rw [h] at hfound
    cases hfound
  · rfl

/-- **Induction on the turns of a session.**  Either a turn ends it, or what is left of it
after a turn is a session of its own. -/
theorem run_induction {motive : σ → τ → Prop} (config : Config) (source : LineSource σ)
    (link : Link τ)
    (last : ∀ s t ending, (round config source link s t).result = some ending → motive s t)
    (more : ∀ s t, (round config source link s t).result = none →
      motive (round config source link s t).source (round config source link s t).link →
        motive s t)
    (s : σ) (t : τ) : motive s t := by
  -- The lines that are still to come get fewer with every turn after which the menu is back.
  induction hleft : source.left s using Nat.strongRecOn generalizing s t with | ind left ih
  subst hleft
  cases hresult : (round config source link s t).result with
  | some ending => exact last s t ending hresult
  | none => exact more s t hresult (ih _ (left_round_lt hresult) _ _ rfl)

end Run

end LiveRoom.Menu
