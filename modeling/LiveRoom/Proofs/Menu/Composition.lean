import LiveRoom.Proofs.Menu.Rounds
import LiveRoom.Proofs.Menu.Session

/-!
# Sessions one after another

A session keeps nothing from one round to the next but what is left of its script and the
state of its link.  So a script that is typed in two parts can be played as two sessions,
if the cut falls between two rounds.

The cut falls there if the session over the first part **uses it up** (`Menu.UsesUp`): it
reads every item, never asks a command's question when the script has run out, and stops
since the read at the top level finds nothing more.  It then asks exactly once more than
there are items, and that is how the definition says it: every question takes one item
(`Dialogue.source_run_script`) and the last one of a session is that at the top level.
Without this the statement fails: a question that meets the end of input takes it for an
empty answer, and a longer script would have answered it.

A dialogue that never asks beyond its script does not notice what stands behind it
(`Dialogue.run_script_append`).  By induction on the turns a session does not either, up to
its last turn, where the rest of the script is read in place of the end
(`Menu.run_append`).
-/

namespace LiveRoom

variable {σ τ α : Type}

/-! ## What a script leaves -/

/-- A request and the entries of its delivery hold no prompts. -/
theorem Trace.prompts_posted (path : String) (body : Option String) (log : List Log.Entry)
    (trace : Trace) :
    Trace.prompts (.post path body :: log.map .log ++ trace) = trace.prompts := by
  rw [List.cons_append, prompts_cons_post, prompts_append, prompts_map_log]
  rfl

theorem Trace.prompts_withoutLog (trace : Trace) : trace.withoutLog.prompts = trace.prompts := by
  induction trace with
  | nil => rfl
  | cons event trace ih =>
    cases event with
    | prompt text => exact congrArg (text :: ·) ih
    | post path body => exact ih
    | print text => exact ih
    | log entry => exact ih

namespace Dialogue

/-- **Every question takes one item** off the script. -/
theorem source_run_script (link : Link τ) (dialogue : Dialogue α) (script : Script) (t : τ) :
    let ran := dialogue.run .script link script t
    ran.source = script.drop ran.trace.prompts.length := by
  induction dialogue generalizing script t with
  | done result => rfl
  | print text next ih => exact ih script t
  | note entry next ih => exact ih script t
  | ask prompt next ih =>
    refine (ih (Script.next script).1 (Script.next script).2 t).trans ?_
    cases script with
    | nil => exact List.drop_nil.trans List.drop_nil.symm
    | cons input script => rfl
  | post path body next ih =>
    refine (ih _ script _).trans ?_
    exact congrArg (fun prompts => script.drop (List.length prompts))
      (Trace.prompts_posted path body _ _).symm

/-- **What stands in a script behind the items that are asked for** makes no difference. -/
theorem run_script_congr (link : Link τ) (dialogue : Dialogue α) (rest others : Script)
    {script : Script} {t : τ}
    (h : (dialogue.run .script link (script ++ rest) t).trace.prompts.length ≤ script.length) :
    let ran := dialogue.run .script link (script ++ rest) t
    dialogue.run .script link (script ++ others) t =
      { ran with source := script.drop ran.trace.prompts.length ++ others } := by
  induction dialogue generalizing script t with
  | done result => rfl
  | print text next ih => exact congrArg (Performance.after [.print text]) (ih h)
  | note entry next ih => exact congrArg (Performance.after [.log entry]) (ih h)
  | ask prompt next ih =>
    cases script with
    | nil => exact absurd h (Nat.not_succ_le_zero _)
    | cons input script =>
      exact congrArg (Performance.after [.prompt prompt]) (ih input (Nat.le_of_succ_le_succ h))
  | post path body next ih =>
    have hprompts := Trace.prompts_posted path body (link.post path body t).1.log
      ((next (link.post path body t).1.result).run .script link (script ++ rest)
        (link.post path body t).2).trace
    have hothers := ih (link.post path body t).1.result (hprompts ▸ h)
    dsimp only at hothers
    rw [← hprompts] at hothers
    exact congrArg (Performance.after _) hothers

/-- **A dialogue that does not ask beyond its script** does not notice what follows it. -/
theorem run_script_append (link : Link τ) (dialogue : Dialogue α) (others : Script)
    {script : Script} {t : τ}
    (h : (dialogue.run .script link script t).trace.prompts.length ≤ script.length) :
    let alone := dialogue.run .script link script t
    dialogue.run .script link (script ++ others) t =
      { alone with source := alone.source ++ others } := by
  intro alone
  have hsource : alone.source = script.drop alone.trace.prompts.length :=
    source_run_script link dialogue script t
  have hasked : (dialogue.run .script link (script ++ []) t).trace.prompts.length ≤
      script.length := by
    rwa [List.append_nil]
  have hcongr := run_script_congr link dialogue [] others hasked
  rw [List.append_nil] at hcongr
  rw [hsource]
  exact hcongr

end Dialogue

namespace Menu

/-- **A session uses up its script**: it asks once more than the script has items. -/
def UsesUp (config : Config) (link : Link τ) (script : Script) (t : τ) : Prop :=
  (run config .script link script t).trace.prompts.length = script.length + 1

/-! ## The whole script -/

section Append
variable {config : Config} {link : Link τ}

theorem prompts_round_pos (source : LineSource σ) (s : σ) (t : τ) :
    0 < (round config source link s t).trace.prompts.length := by
  rw [round_eq, Performance.after, Trace.prompts_append, List.length_append]
  exact Nat.lt_of_lt_of_le Nat.zero_lt_one (Nat.le_add_right _ _)

theorem prompts_run_pos (script : Script) (t : τ) :
    0 < (run config .script link script t).trace.prompts.length := by
  have hround : 0 < (round config .script link script t).trace.prompts.length :=
    prompts_round_pos .script script t
  cases hresult : (round config .script link script t).result with
  | some ending => rwa [run_of_some hresult]
  | none =>
    rw [run_of_none hresult, Performance.after, Trace.prompts_append, List.length_append]
    exact Nat.lt_of_lt_of_le hround (Nat.le_add_right _ _)

/-- **One turn of a session that uses up its script**: it does not ask beyond the script, and
the session after it uses up what is left. -/
theorem usesUp_iff_of_none {script : Script} {t : τ}
    (h : (round config .script link script t).result = none) :
    let first := round config .script link script t
    UsesUp config link script t ↔
      first.trace.prompts.length ≤ script.length ∧ UsesUp config link first.source first.link := by
  intro first
  have hpos : 0 < (run config .script link first.source first.link).trace.prompts.length :=
    prompts_run_pos first.source first.link
  have hleft : first.source.length = script.length - first.trace.prompts.length := by
    rw [← List.length_drop]
    exact congrArg List.length (Dialogue.source_run_script link (turn config) script t)
  have hprompts : (run config .script link script t).trace.prompts.length =
      first.trace.prompts.length +
        (run config .script link first.source first.link).trace.prompts.length := by
    rw [run_of_none h, Performance.after, Trace.prompts_append, List.length_append]
  rw [UsesUp, UsesUp, hprompts, hleft]
  omega

/-- **A script after one that is used up**: the session goes on as a session over the
second script, from the state in which the first has left the link. -/
theorem run_append (others : Script) {script : Script} {t : τ}
    (h : UsesUp config link script t) :
    let first := run config .script link script t
    let second := run config .script link others first.link
    ∃ before : Trace, first.trace = before ++ (opening ++ [.print farewell]) ∧
      run config .script link (script ++ others) t = second.after before := by
  induction script, t using run_induction config .script link with
  | last script t ending hlast =>
    -- The one read of the session is its last, so there is nothing before the end.
    obtain ⟨-, htrace, -⟩ := ends_of_some config .script link script t hlast
    have hone : (round config .script link script t).trace.prompts.length = 1 := by
      rw [← Trace.prompts_withoutLog, htrace]
      cases (LineSource.script.next script).1 <;> rfl
    rw [UsesUp, run_of_some hlast] at h
    have hlength : script.length = 0 := Nat.succ.inj (h.symm.trans hone)
    obtain rfl : script = [] := List.length_eq_zero_iff.mp hlength
    have hround : round config .script link [] t =
        ⟨opening ++ [.print farewell], some .finished, [], t⟩ := rfl
    rw [run_of_some (congrArg Performance.result hround), hround]
    exact ⟨[], rfl, rfl⟩
  | more script t hmore ih =>
    obtain ⟨hasked, hrest⟩ := (usesUp_iff_of_none hmore).mp h
    obtain ⟨before, htrace, hrun⟩ := ih hrest
    have hround : round config .script link (script ++ others) t =
        { round config .script link script t with
          source := (round config .script link script t).source ++ others } :=
      Dialogue.run_script_append link (turn config) others hasked
    have hwhole : (round config .script link (script ++ others) t).result = none := by
      rw [hround]
      exact hmore
    refine ⟨(round config .script link script t).trace ++ before, ?_, ?_⟩
    · rw [run_of_none hmore, Performance.after, htrace, List.append_assoc]
    · rw [run_of_none hwhole, run_of_none hmore, hround]
      dsimp only
      rw [hrun]
      simp only [Performance.after, List.append_assoc]

end Append

/-! ## Answers given in advance -/

/-- Every request takes one answer off the list. -/
theorem afterPosts_canned (otherwise : CannedAnswer) (answers : List CannedAnswer)
    (posts : List (String × Option String)) :
    (Link.canned otherwise).afterPosts answers posts = answers.drop posts.length := by
  induction posts generalizing answers with
  | nil => rfl
  | cons post posts ih =>
    show (Link.canned otherwise).afterPosts answers.tail posts = _
    rw [ih, List.drop_tail, List.length_cons]

/-- **Sessions compose.**  If a session uses up its script, then with more behind that
script it prompts, posts and prints what it did before its last round, whose menu, read and
farewell are gone; after that it is the session over what stands behind, with the answers
that are left, up to its result and to what it leaves unread. -/
theorem sessions_compose (config : Config) (otherwise : CannedAnswer)
    (answers : List CannedAnswer) (script others : Script)
    (h : UsesUp config (.canned otherwise) script answers) :
    let link := Link.canned otherwise
    let first := run config .script link script answers
    let second := run config .script link others (answers.drop first.trace.posts.length)
    let whole := run config .script link (script ++ others) answers
    ∃ before : Trace, first.trace = before ++ (opening ++ [.print farewell]) ∧
      whole.trace = before ++ second.trace ∧ whole.result = second.result ∧
      whole.source = second.source ∧ whole.link = second.link := by
  intro link first second whole
  obtain ⟨before, htrace, hwhole⟩ := run_append others h
  have hlink : first.link = answers.drop first.trace.posts.length := by
    rw [← afterPosts_canned otherwise]
    exact link_run config .script link script answers
  rw [hlink] at hwhole
  refine ⟨before, htrace, ?_⟩
  rw [show whole = second.after before from hwhole]
  exact ⟨rfl, rfl, rfl, rfl⟩

/-- A script of three rounds (a muting with its answer, an unknown choice, a stop), and a
second one that ends with a blank line. -/
theorem sessions_compose_after_stop :
    let otherwise : CannedAnswer := fun path => .ok ⟨path, 200, "ok"⟩
    let link := Link.canned otherwise
    let answers : List CannedAnswer := [fun _ => .error (.client []), otherwise, otherwise]
    let script : Script := [.line "6", .line " 1", .line "nine", .line "10"]
    let others : Script := [.line "2", .ended, .line "10", .line " ", .line "1"]
    let first := run Config.default .script link script answers
    let second := run Config.default .script link others
      (answers.drop first.trace.posts.length)
    let whole := run Config.default .script link (script ++ others) answers
    UsesUp Config.default link script answers ∧
      ∃ before : Trace, first.trace = before ++ (opening ++ [.print farewell]) ∧
        whole.trace = before ++ second.trace ∧ whole.result = second.result ∧
        whole.source = second.source ∧ whole.link = second.link := by
  intro otherwise link answers script others first second whole
  have hnothing : UsesUp Config.default link [] [otherwise] := by
    have hrun := run_of_some (show (round Config.default .script link ([] : Script)
      [otherwise]).result = some .finished from rfl)
    rw [UsesUp, hrun]
    rfl
  have hstop : UsesUp Config.default link [.line "10"] [otherwise, otherwise] :=
    (usesUp_iff_of_none rfl).mpr ⟨by decide, hnothing⟩
  have hunknown : UsesUp Config.default link [.line "nine", .line "10"] [otherwise, otherwise] :=
    (usesUp_iff_of_none rfl).mpr ⟨by decide, hstop⟩
  have hscript : UsesUp Config.default link script answers :=
    (usesUp_iff_of_none rfl).mpr ⟨by decide, hunknown⟩
  exact ⟨hscript, sessions_compose Config.default otherwise answers script others hscript⟩

end Menu

end LiveRoom
