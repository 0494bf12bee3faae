import LiveRoom.Proofs.Menu.Composition

/-!
# The reads at the top level

A session comes to the top level again and again: it shows the menu and reads a line there.
`Menu.Reaches` tells with which states of source and link it does.

What follows such a read is a session of its own, and the whole session is what went before
and then that one (`Reaches.run_eq`).  The last of these reads decides how the session ends
(`Reaches.exists_last`); in particular the session fails exactly if one of them fails
(`result_eq_failed_iff`).

Over a script, a read at the top level that finds an item cuts the script in two: what was
read before, and what begins with this item.  What stands behind the cut has no effect on
what came before it (`Reaches.exists_read`).
-/

namespace LiveRoom

variable {σ ρ τ α : Type}

theorem LineSource.Simulates.and {source : LineSource σ} {other : LineSource ρ} {R : σ → ρ → Prop}
    {P : σ → Prop} (h : source.Simulates other R) (keeps : ∀ s, P s → P (source.next s).2) :
    source.Simulates other fun s r => R s r ∧ P s where
  same related := h.same related.1
  step related := ⟨h.step related.1, keeps _ related.2⟩

/-- **A dialogue that leaves items of its script unread** has read those in front of them,
and does the same whatever stands behind these. -/
theorem Dialogue.exists_read (link : Link τ) (dialogue : Dialogue α) {script : Script} {t : τ}
    (h : (dialogue.run .script link script t).source ≠ []) :
    let ran := dialogue.run .script link script t
    ∃ read : Script, script = read ++ ran.source ∧
      ∀ others : Script,
        dialogue.run .script link (read ++ others) t = { ran with source := others } := by
  intro ran
  have hsource : ran.source = script.drop ran.trace.prompts.length :=
    source_run_script link dialogue script t
  have hscript : script.take ran.trace.prompts.length ++ ran.source = script := by
    rw [hsource, List.take_append_drop]
  have hlength : (script.take ran.trace.prompts.length).length = ran.trace.prompts.length := by
    rw [show (dialogue.run .script link script t).source = _ from hsource] at h
    exact List.length_take_of_le (Nat.le_of_not_le fun hle => h (List.drop_of_length_le hle))
  refine ⟨_, hscript.symm, fun others => ?_⟩
  have hasked : (dialogue.run .script link
      (script.take ran.trace.prompts.length ++ ran.source) t).trace.prompts.length ≤
        (script.take ran.trace.prompts.length).length := by
    rw [hscript]
    exact Nat.le_of_eq hlength.symm
  have hcongr := run_script_congr link dialogue ran.source others hasked
  rw [hscript] at hcongr
  refine hcongr.trans ?_
  rw [List.drop_of_length_le (Nat.le_of_eq hlength), List.nil_append]

theorem Command.plan_withAddress (command : Command) (config : Config) (url : String) :
    command.plan { config with serverUrl := url } = command.plan config := by
  cases command <;> rfl

namespace Menu

/-- **The session comes to the top level** with other states of source and link: at its
start, and again after every turn after which the menu comes back. -/
inductive Reaches (config : Config) (source : LineSource σ) (link : Link τ) :
    σ → τ → σ → τ → Prop where
  | here (s : σ) (t : τ) : Reaches config source link s t s t
  | turn {s s' : σ} {t t' : τ} (back : (round config source link s t).result = none)
      (others : Reaches config source link (round config source link s t).source
        (round config source link s t).link s' t') :
      Reaches config source link s t s' t'

section Reaches
variable {config : Config} {source : LineSource σ} {link : Link τ} {s s' : σ} {t t' : τ}

/-- One turn more. -/
theorem Reaches.and_turn (h : Reaches config source link s t s' t')
    (back : (round config source link s' t').result = none) :
    Reaches config source link s t (round config source link s' t').source
      (round config source link s' t').link := by
  induction h with
  | here s t => exact .turn back (.here _ _)
  | turn first _ ih => exact .turn first (ih back)

/-- **A session and the sessions in it** differ in what went before and in nothing else. -/
theorem Reaches.run_eq (h : Reaches config source link s t s' t') :
    ∃ before : Trace,
      run config source link s t = (run config source link s' t').after before := by
  induction h with
  | here s t => exact ⟨[], rfl⟩
  | @turn s s' t t' back _ ih =>
    obtain ⟨before, hrun⟩ := ih
    refine ⟨(round config source link s t).trace ++ before, ?_⟩
    rw [run_of_none back]
    dsimp only
    rw [hrun]
    simp only [Performance.after, List.append_assoc]

/-- **A read at the top level that fails** ends the session, right after the question. -/
theorem Reaches.run_of_failed (h : Reaches config source link s t s' t') {reason : String}
    (read : (source.next s').1 = .failed reason) :
    ∃ before : Trace, run config source link s t =
      ⟨before ++ opening, .failed reason, (source.next s').2, t'⟩ := by
  obtain ⟨before, hrun⟩ := h.run_eq
  have hround := round_of_failed config link t' read
  rw [run_of_some (congrArg Performance.result hround), hround] at hrun
  exact ⟨before, hrun⟩

/-- **A read at the top level that finds the end** finishes the session. -/
theorem Reaches.run_of_ended (h : Reaches config source link s t s' t')
    (read : (source.next s').1 = .ended) :
    ∃ before : Trace, run config source link s t =
      ⟨before ++ (opening ++ [.print farewell]), .finished, (source.next s').2, t'⟩ := by
  obtain ⟨before, hrun⟩ := h.run_eq
  have hround := round_of_ended config link t' read
  rw [run_of_some (congrArg Performance.result hround), hround] at hrun
  exact ⟨before, hrun⟩

/-- **A choice brings the menu back**, whether it is in the menu or not and whatever comes of
the command. -/
theorem result_round_of_filled {text : String} (read : (source.next s).1 = .line text)
    (filled : Text.trimmed text ≠ "") : (round config source link s t).result = none := by
  cases hfind : Command.find? (Text.trimmed text) with
  | none => rw [round_of_unknown config link t read filled hfind]
  | some command => rw [round_of_known config link t read filled hfind]

/-- **Every session has a last read at the top level**, and the turn that begins with it
ends the session. -/
theorem exists_last (config : Config) (source : LineSource σ) (link : Link τ) (s : σ) (t : τ) :
    ∃ s' t', Reaches config source link s t s' t' ∧
      (round config source link s' t').result = some (run config source link s t).result := by
  induction s, t using run_induction config source link with
  | last s t ending hlast =>
    refine ⟨s, t, .here s t, ?_⟩
    rw [run_of_some hlast]
    exact hlast
  | more s t hmore ih =>
    obtain ⟨s', t', hreaches, hresult⟩ := ih
    refine ⟨s', t', .turn hmore hreaches, ?_⟩
    rw [run_of_none hmore]
    exact hresult

/-- **A session fails** exactly if a read at the top level does, whatever happens at any
other read. -/
theorem result_eq_failed_iff {reason : String} :
    (run config source link s t).result = .failed reason ↔
      ∃ s' t', Reaches config source link s t s' t' ∧
        (source.next s').1 = .failed reason := by
  constructor
  · intro h
    obtain ⟨s', t', hreaches, hresult⟩ := exists_last config source link s t
    obtain ⟨hends, -, -⟩ := ends_of_some config source link s' t' hresult
    rw [h] at hends
    generalize hread : (source.next s').1 = input at hends
    cases hends with
    | failed reason => exact ⟨s', t', hreaches, hread⟩
  · rintro ⟨s', t', hreaches, hread⟩
    obtain ⟨before, hrun⟩ := hreaches.run_of_failed hread
    rw [hrun]

/-- The answer to a command's question may fail to be read; the menu comes back. -/
example (reason : String) :
    (run Config.default .script link [.line "2", .failed reason] t).result = .finished := by
  rw [run_of_none rfl]
  exact congrArg Performance.result (run_of_some rfl)

/-- **Sources that a simulation relates** lead to the top level in related states. -/
theorem Reaches.simulates {other : LineSource ρ} {R : σ → ρ → Prop}
    (hsim : source.Simulates other R) (h : Reaches config source link s t s' t') {r : ρ}
    (hrelated : R s r) : ∃ r', R s' r' ∧ Reaches config other link r t r' t' := by
  induction h generalizing r with
  | here s t => exact ⟨r, hrelated, .here r t⟩
  | @turn s s' t t' back _ ih =>
    have hround : (round config source link s t).Matches R (round config other link r t) :=
      Dialogue.run_simulates hsim link (Menu.turn config) hrelated t
    obtain ⟨r', hrelated', hreaches⟩ := ih hround.source
    rw [hround.link] at hreaches
    exact ⟨r', hrelated', .turn (hround.result.symm.trans back) hreaches⟩

end Reaches

/-- **Coming to the top level in front of an item of the script**: what was read until then
stands in front of it in the script, and leads there whatever stands behind. -/
theorem Reaches.exists_read {config : Config} {link : Link τ} {script rest : Script} {t t' : τ}
    (h : Reaches config .script link script t rest t') (hrest : rest ≠ []) :
    ∃ read : Script, script = read ++ rest ∧
      ∀ others : Script, Reaches config .script link (read ++ others) t others t' := by
  induction h with
  | here script t => exact ⟨[], rfl, fun others => .here others t⟩
  | @turn script rest t t' back _ ih =>
    obtain ⟨second, hsecond, hreaches⟩ := ih hrest
    have hleft : (round config .script link script t).source ≠ [] := by
      rw [hsecond]
      exact List.append_ne_nil_of_right_ne_nil second hrest
    obtain ⟨first, hfirst, hround⟩ := Dialogue.exists_read link (Menu.turn config) hleft
    refine ⟨first ++ second, ?_, fun others => ?_⟩
    · rw [List.append_assoc, ← hsecond]
      exact hfirst
    · have hturn : round config .script link (first ++ (second ++ others)) t =
          { round config .script link script t with source := second ++ others } := hround _
      rw [List.append_assoc]
      refine .turn (by rw [hturn]; exact back) ?_
      rw [hturn]
      exact hreaches others

/-! ## The address of the service -/

theorem turn_withAddress (config : Config) (url : String) :
    turn { config with serverUrl := url } = turn config := by
  have hdialogue : ∀ command : Command,
      command.dialogue { config with serverUrl := url } = command.dialogue config := by
    intro command
    rw [Command.dialogue, command.plan_withAddress, Command.dialogue]
  have hobey : obey { config with serverUrl := url } = obey config := by
    funext input
    cases input with
    | line text => simp only [obey, hdialogue]
    | ended => rfl
    | failed reason => rfl
  rw [turn, hobey, turn]

/-- **The address of the service is the link's concern**: over one link a session is the same
whatever the address. -/
theorem run_withAddress (config : Config) (url : String) (source : LineSource σ) (link : Link τ)
    (s : σ) (t : τ) :
    run { config with serverUrl := url } source link s t = run config source link s t := by
  have hround : ∀ s t, round { config with serverUrl := url } source link s t =
      round config source link s t := by
    intro s t
    rw [round, turn_withAddress, round]
  induction s, t using run_induction config source link with
  | last s t ending hlast =>
    rw [run_of_some hlast, run_of_some ((congrArg Performance.result (hround s t)).trans hlast),
      hround]
  | more s t hmore ih =>
    rw [run_of_none hmore, run_of_none ((congrArg Performance.result (hround s t)).trans hmore),
      hround]
    dsimp only
    rw [ih]

end Menu

end LiveRoom
