import LiveRoom.Proofs.Config.Precedence
import LiveRoom.Proofs.Console.Refinement
import LiveRoom.Proofs.Menu.Reach

/-!
# How the program ends

The exit code is 0 or 1, and what is shown tells which: the farewell stands at its end
exactly if the code is 0.  There are two ways to a 1.  The configuration cannot be loaded;
then nothing is shown and nobody hears of it.  Or a line at the top level is no text; then the
question at the top level is the last that is shown, and what has reached the network is what
reaches it if the input stops in front of that line.

A line that answers a command's question has no such power, nor has anything else that
happens in a turn: a choice brings the menu back (`Menu.result_round_of_filled`), and only
a read at the top level ends a session (`Menu.result_eq_failed_iff`).  So the code depends
neither on the network nor on the address of the service.
-/

namespace LiveRoom

/-! ## Lines that are no text -/

namespace Terminal

/-- **The next line of a stream is no text.** -/
def Garbled (stream : Stream.Input) : Prop := Utf8.decode? stream.takeLine.1 = none

theorem Garbled.takeLine_ne_nil {stream : Stream.Input} (h : Garbled stream) :
    stream.takeLine.1 ≠ [] := by
  intro hnil
  rw [Garbled, hnil, Utf8.decode?] at h
  cases h

theorem Garbled.unread_ne_nil {stream : Stream.Input} (h : Garbled stream) :
    stream.unread ≠ [] :=
  fun hnil => h.takeLine_ne_nil (Stream.Input.takeLine_of_unread_eq_nil hnil).1

/-- A line that is no text cannot be read. -/
theorem Garbled.next_lines {stream : Stream.Input} (h : Garbled stream) :
    (lines.next stream).1 = .failed notUtf8 := by
  have hne : stream.takeLine.1 ≠ [] := h.takeLine_ne_nil
  show readingOf stream.takeLine.1 = _
  rw [readingOf_eq_item hne, item, h]

/-- A read fails only over such a line. -/
theorem garbled_of_next_lines {stream : Stream.Input} {reason : String}
    (h : (lines.next stream).1 = .failed reason) : Garbled stream := by
  change readingOf stream.takeLine.1 = _ at h
  unfold readingOf at h
  split at h
  · cases h
  · cases hdecode : Utf8.decode? stream.takeLine.1 with
    | none => exact hdecode
    | some text =>
      rw [hdecode] at h
      cases h

end Terminal

/-! ## The address in the environment -/

namespace Config

/-- An address laid over a configuration leaves the rest of it. -/
theorem exists_withServer (config : Config) (value : Option String) :
    ∃ url : String, config.withServer value = { config with serverUrl := url } := by
  cases value with
  | none => exact ⟨config.serverUrl, rfl⟩
  | some url =>
    rw [withServer]
    split
    · exact ⟨config.serverUrl, rfl⟩
    · exact ⟨url, rfl⟩

/-- **Another value of `IALCTL_SERVER_URL`** makes no difference to the configuration but for
the address, nor to whether it can be loaded. -/
theorem exists_ofEnvironment_cons (environment : Environment) (accountHome : Path)
    (files : Files) (value : List UInt8) :
    ∃ url : String, ofEnvironment ((serverVariable, value) :: environment) accountHome files =
      (ofEnvironment environment accountHome files).map
        fun config => { config with serverUrl := url } := by
  have hbase : ∀ directory : Option Path,
      base (Environment.text? ((serverVariable, value) :: environment)) directory files =
        base environment.text? directory files := fun _ => rfl
  have hdirectory : Environment.configDirectory ((serverVariable, value) :: environment)
      accountHome = environment.configDirectory accountHome := rfl
  unfold ofEnvironment load
  rw [hdirectory, hbase]
  cases base environment.text? (some (environment.configDirectory accountHome)) files with
  | error error => exact ⟨"", rfl⟩
  | ok config =>
    obtain ⟨old, hold⟩ := config.exists_withServer (environment.text? serverVariable)
    obtain ⟨new, hnew⟩ := config.exists_withServer
      (Environment.text? ((serverVariable, value) :: environment) serverVariable)
    refine ⟨new, ?_⟩
    simp only [Except.map, hold, hnew]

end Config

namespace Console

variable {τ υ : Type}

/-! ## The end of what is shown -/

theorem shown_nil : shown [] = "" := rfl

theorem shown_cons (event : Event) (trace : Trace) :
    shown (event :: trace) = shownOf event ++ shown trace := by
  rw [shown, List.map_cons, String.join_cons]
  rfl

theorem shown_append (first second : Trace) :
    shown (first ++ second) = shown first ++ shown second := by
  rw [shown, List.map_append, String.join_append]
  rfl

theorem shown_withoutLog (trace : Trace) : shown trace.withoutLog = shown trace := by
  induction trace with
  | nil => rfl
  | cons event trace ih =>
    rw [shown_cons, ← ih]
    cases event with
    | log entry => exact String.empty_append.symm
    | _ => exact shown_cons _ _

/-- What is shown last before a line is read at the top level. -/
theorem exists_shown_opening (trace : Trace) :
    ∃ before : String,
      shown (trace ++ Menu.opening) = before ++ Terminal.promptText Menu.question := by
  refine ⟨shown trace ++ Menu.display, ?_⟩
  rw [shown_append, Menu.opening, shown_cons, shown_cons, shown_nil, String.append_empty,
    String.append_assoc]
  rfl

/-- What is shown last in a finished session. -/
theorem exists_shown_farewell (trace : Trace) :
    ∃ before : String, shown (trace ++ [.print Menu.farewell]) = before ++ Menu.farewell := by
  refine ⟨shown trace, ?_⟩
  rw [shown_append, shown_cons, shown_nil, String.append_empty]
  rfl

theorem append_farewell_ne (first second : String) :
    first ++ Menu.farewell ≠ second ++ Terminal.promptText Menu.question := by
  intro h
  have hlast := congrArg (fun text => text.toList.getLast?) h
  simp only [String.toList_append, List.getLast?_append] at hlast
  have hfarewell : Menu.farewell.toList.getLast? = some '\n' := by decide
  have hquestion : (Terminal.promptText Menu.question).toList.getLast? = some ' ' := by decide
  rw [hfarewell, hquestion] at hlast
  exact absurd (Option.some.inj hlast) (by decide)

/-- **What a session shows ends with the farewell** exactly if the session is finished. -/
theorem result_eq_finished_iff (config : Config) (link : Link τ) (input : Stream.Input) (t : τ) :
    (Menu.run config Terminal.lines link input t).result = .finished ↔
      ∃ before : String, shown (Menu.run config Terminal.lines link input t).trace =
        before ++ Menu.farewell := by
  obtain ⟨rounds, last, htrace, -, -, hends, -⟩ :=
    Menu.exists_rounds config Terminal.lines link input t
  rw [← shown_withoutLog, htrace, ← List.append_assoc]
  generalize (Menu.run config Terminal.lines link input t).result = ending at hends
  cases hends with
  | blank text blank => exact iff_of_true rfl (exists_shown_farewell _)
  | ended => exact iff_of_true rfl (exists_shown_farewell _)
  | failed reason =>
    obtain ⟨question, hquestion⟩ := exists_shown_opening (rounds.flatMap Menu.Round.events)
    refine iff_of_false Ending.noConfusion ?_
    rintro ⟨before, hbefore⟩
    rw [Menu.closing, List.append_nil, hquestion] at hbefore
    exact append_farewell_ne before question hbefore.symm

/-! ## A line that is no text -/

/-- **The program has come to the top level**, where the next line of a stream is read, and
the network is in some state. -/
abbrev AtTopLevel (library : Http.Library) (config : Config) (network : Http.Network τ) :
    Stream.Input → τ → Stream.Input → τ → Prop :=
  Menu.Reaches config Terminal.lines ((clientOf config).link library network)

/-- **If the input stops in front of a line at the top level**, the session is finished there,
and has done with its link what the longer session had done up to that line. -/
theorem exists_shorter {config : Config} {link : Link τ} {start input : Stream.Input} {t t' : τ}
    (h : Menu.Reaches config Terminal.lines link start t input t') (hleft : input.unread ≠ []) :
    ∃ before : List UInt8, start.unread = before ++ input.unread ∧
      ∀ shorter : Stream.Input, shorter.unread = before →
        let ran := Menu.run config Terminal.lines link shorter t
        ran.result = .finished ∧ ran.link = t' := by
  have hsim := Terminal.simulates_script.and (P := (Stream.Input.AtLine start.unread ·))
    fun _ hline => hline.takeLine
  -- The script has been read up to the item of that line, and this is where the bytes are cut.
  obtain ⟨_, ⟨rfl, hline⟩, hscript⟩ := h.simulates hsim ⟨rfl, [], rfl, fun _ => by simp⟩
  obtain ⟨before, hbytes, hcut⟩ := Terminal.exists_script_append hline hleft
  have hitem : Terminal.script input.unread ≠ [] := by
    rw [Terminal.script, Stream.Input.cutAfter_unread hleft]
    exact List.cons_ne_nil _ _
  obtain ⟨read, hread, hreaches⟩ := hscript.exists_read hitem
  obtain rfl : Terminal.script before = read := List.append_cancel_right (hcut.symm.trans hread)
  refine ⟨before, hbytes, fun shorter hshorter => ?_⟩
  have hend := hreaches []
  rw [List.append_nil] at hend
  obtain ⟨trace, hrun⟩ := hend.run_of_ended rfl
  have hmatches := Menu.run_matches Terminal.simulates_script config link (s := shorter)
    (r := Terminal.script before) (by rw [hshorter]) t
  exact ⟨hmatches.result.trans (congrArg Performance.result hrun),
    hmatches.link.trans (congrArg Performance.link hrun)⟩

/-! ## What the end does not depend on -/

/-- **The end of a session depends on the input and the configuration**, but neither on the
link nor on the address of the service. -/
theorem result_congr (config : Config) (url : String) (link : Link τ) (link' : Link υ)
    {input input' : Stream.Input} (h : input'.unread = input.unread) (t : τ) (u : υ) :
    (Menu.run { config with serverUrl := url } Terminal.lines link' input' u).result =
      (Menu.run config Terminal.lines link input t).result := by
  have hmatches := Menu.run_matches Terminal.simulates_script config link (s := input)
    (r := Terminal.script input.unread) rfl t
  have hmatches' := Menu.run_matches Terminal.simulates_script config link' (s := input')
    (r := Terminal.script input.unread) (by rw [h]) u
  rw [Menu.run_withAddress]
  calc (Menu.run config Terminal.lines link' input' u).result
      = (Menu.run config .script link' (Terminal.script input.unread) u).result :=
        hmatches'.result
    _ = (Menu.run config .script link (Terminal.script input.unread) t).result :=
        (Menu.agree_run config .script link' link _ u t).result
    _ = (Menu.run config Terminal.lines link input t).result := hmatches.result.symm

/-! ## The exit code -/

/-- The exit code of an ending. -/
def codeOf : Ending → Nat
  | .finished => 0
  | .failed _ => 1

theorem codeOf_eq_zero_iff {ending : Ending} : codeOf ending = 0 ↔ ending = .finished := by
  cases ending <;> simp [codeOf]

theorem codeOf_eq_one_iff {ending : Ending} :
    codeOf ending = 1 ↔ ∃ reason, ending = .failed reason := by
  cases ending <;> simp [codeOf]

section Code
variable {library : Http.Library} {environment : Environment} {accountHome : Path}
  {files : Files} {config : Config} (network : Http.Network τ) (time : String)
  (start : Stream.Input) (t : τ)

/-- **Without a configuration nothing happens.** -/
theorem run_of_error {error : LoadError}
    (h : Config.ofEnvironment environment accountHome files = .error error) :
    run library environment accountHome files network time start t =
      ⟨1, "", failureText error.chain, t⟩ := by
  rw [run, h]

/-- With one, the exit code is that of the session. -/
theorem exitCode_of_ok (h : Config.ofEnvironment environment accountHome files = .ok config) :
    let outside := network.through (library.proxiesIn environment)
    (run library environment accountHome files network time start t).exitCode = codeOf
      (Menu.run config Terminal.lines ((clientOf config).link library outside) start t).result := by
  intro outside
  simp only [run, h, session]
  cases hresult : (Menu.run config Terminal.lines ((clientOf config).link library outside) start
    t).result <;> simp only [outside, Performance.after, hresult, codeOf]

theorem exitCode_eq_zero_or_one (environment : Environment) (accountHome : Path)
    (files : Files) :
    let ran := run library environment accountHome files network time start t
    ran.exitCode = 0 ∨ ran.exitCode = 1 := by
  intro ran
  cases hloaded : Config.ofEnvironment environment accountHome files with
  | error error => exact .inr (congrArg Run.exitCode (run_of_error network time start t hloaded))
  | ok config =>
    have hcode : ran.exitCode = codeOf _ := exitCode_of_ok network time start t hloaded
    rw [hcode]
    cases (Menu.run config Terminal.lines _ start t).result with
    | finished => exact .inl rfl
    | failed reason => exact .inr rfl

/-- **The exit code is 0** exactly if the farewell is shown last. -/
theorem exitCode_eq_zero_iff (environment : Environment) (accountHome : Path) (files : Files) :
    let ran := run library environment accountHome files network time start t
    ran.exitCode = 0 ↔ ∃ before : String, ran.shown = before ++ Menu.farewell := by
  intro ran
  cases hloaded : Config.ofEnvironment environment accountHome files with
  | error error =>
    have hran : ran = _ := run_of_error network time start t hloaded
    rw [hran]
    refine iff_of_false Nat.one_ne_zero ?_
    rintro ⟨before, hshown⟩
    exact absurd (String.append_eq_empty_iff.mp hshown.symm).2 (by decide)
  | ok config =>
    rw [exitCode_of_ok network time start t hloaded, codeOf_eq_zero_iff, result_eq_finished_iff,
      (run_eq_session hloaded library network time start t).1]

/-- **The exit code is 1** exactly if there is no configuration or a line at the top level is
no text. -/
theorem exitCode_eq_one_iff (environment : Environment) (accountHome : Path) (files : Files) :
    let outside := network.through (library.proxiesIn environment)
    (run library environment accountHome files network time start t).exitCode = 1 ↔
      (∃ error, Config.ofEnvironment environment accountHome files = .error error) ∨
        ∃ config input t', Config.ofEnvironment environment accountHome files = .ok config ∧
          AtTopLevel library config outside start t input t' ∧ Terminal.Garbled input := by
  intro outside
  cases hloaded : Config.ofEnvironment environment accountHome files with
  | error error =>
    exact iff_of_true (congrArg Run.exitCode (run_of_error network time start t hloaded))
      (.inl ⟨error, rfl⟩)
  | ok config =>
    rw [exitCode_of_ok network time start t hloaded, codeOf_eq_one_iff]
    simp only [Menu.result_eq_failed_iff]
    constructor
    · rintro ⟨reason, input, t', hreaches, hread⟩
      exact .inr ⟨config, input, t', rfl, hreaches, Terminal.garbled_of_next_lines hread⟩
    · rintro (⟨error, herror⟩ | ⟨config, input, t', hconfig, hreaches, hgarbled⟩)
      · cases herror
      · obtain rfl := Except.ok.inj hconfig
        exact ⟨Terminal.notUtf8, input, t', hreaches, hgarbled.next_lines⟩

/-- **A line at the top level that is no text** is where the program stops: the question is
shown last, and the network is left as if the input had ended there. -/
theorem run_of_garbled {input : Stream.Input} {t' : τ}
    (hloaded : Config.ofEnvironment environment accountHome files = .ok config)
    (hreaches : AtTopLevel library config (network.through (library.proxiesIn environment))
      start t input t') (hgarbled : Terminal.Garbled input) :
    let ran := run library environment accountHome files network time start t
    (∃ before : String, ran.shown = before ++ Terminal.promptText Menu.question) ∧
    ∃ before : List UInt8, start.unread = before ++ input.unread ∧
      ∀ shorter : Stream.Input, shorter.unread = before →
        let upToThere := run library environment accountHome files network time shorter t
        upToThere.exitCode = 0 ∧ upToThere.network = ran.network := by
  intro ran
  obtain ⟨hshown, hnetwork⟩ := run_eq_session hloaded library network time start t
  obtain ⟨trace, hrun⟩ := hreaches.run_of_failed hgarbled.next_lines
  rw [hrun] at hshown hnetwork
  obtain ⟨before, hbytes, hshorter⟩ := exists_shorter hreaches hgarbled.unread_ne_nil
  constructor
  · obtain ⟨shownBefore, hquestion⟩ := exists_shown_opening trace
    exact ⟨shownBefore, hshown.trans hquestion⟩
  · refine ⟨before, hbytes, fun shorter hunread => ?_⟩
    obtain ⟨hfinished, hlink⟩ := hshorter shorter hunread
    obtain ⟨-, hnetwork'⟩ := run_eq_session hloaded library network time shorter t
    have hcode : (run library environment accountHome files network time shorter t).exitCode = _ :=
      exitCode_of_ok network time shorter t hloaded
    exact ⟨hcode.trans (codeOf_eq_zero_iff.mpr hfinished),
      hnetwork'.trans (hlink.trans hnetwork.symm)⟩

/-- **Two runs over the same input** with configurations that differ at most in the address,
however these were come by, have the same exit code. -/
theorem exitCode_congr {environment' : Environment} {accountHome' : Path} {files' : Files}
    {url : String} (h : Config.ofEnvironment environment' accountHome' files' =
      (Config.ofEnvironment environment accountHome files).map
        fun config => { config with serverUrl := url })
    (network' : Http.Network υ) (time' : String) (u : υ) :
    (run library environment' accountHome' files' network' time' start u).exitCode =
      (run library environment accountHome files network time start t).exitCode := by
  cases hloaded : Config.ofEnvironment environment accountHome files with
  | error error =>
    rw [hloaded] at h
    rw [run_of_error network time start t hloaded, run_of_error network' time' start u h]
  | ok config =>
    rw [hloaded] at h
    rw [exitCode_of_ok network time start t hloaded, exitCode_of_ok network' time' start u h]
    exact congrArg codeOf (result_congr config url _ _ rfl t u)

end Code

/-- **The exit code** is 0 or 1, and 0 exactly if the farewell stands at the end of what is
shown.  It is 1 exactly if there is no configuration or a line at the top level is no text.
In the one case nothing is shown and the network is left alone; in the other the question at
the top level is shown last, and the network is left as if the input had stopped in front of
that line.  A choice, whatever comes of it, brings the program back to the top level, and
neither the network nor the address of the service, wherever it is from, has a part in the
code. -/
theorem exit_code_decided (library : Http.Library) (environment : Environment)
    (accountHome : Path) (files : Files) (network : Http.Network τ) (time : String)
    (start : Stream.Input) (t : τ) :
    let loaded := Config.ofEnvironment environment accountHome files
    let outside := network.through (library.proxiesIn environment)
    let ran := run library environment accountHome files network time start t
    (ran.exitCode = 0 ∨ ran.exitCode = 1) ∧
    (ran.exitCode = 0 ↔ ∃ before : String, ran.shown = before ++ Menu.farewell) ∧
    (ran.exitCode = 1 ↔ (∃ error, loaded = .error error) ∨
      ∃ config input t', loaded = .ok config ∧
        AtTopLevel library config outside start t input t' ∧ Terminal.Garbled input) ∧
    (∀ error, loaded = .error error → ran.shown = "" ∧ ran.network = t) ∧
    (∀ config input t', loaded = .ok config →
      AtTopLevel library config outside start t input t' → Terminal.Garbled input →
        (∃ before : String, ran.shown = before ++ Terminal.promptText Menu.question) ∧
        ∃ before : List UInt8, start.unread = before ++ input.unread ∧
          ∀ shorter : Stream.Input, shorter.unread = before →
            let upToThere := run library environment accountHome files network time shorter t
            upToThere.exitCode = 0 ∧ upToThere.network = ran.network) ∧
    (∀ config input t' text, loaded = .ok config →
      AtTopLevel library config outside start t input t' →
        (Terminal.readLine input).1 = .line text → Text.trimmed text ≠ "" →
          let turn := Menu.round config Terminal.lines ((clientOf config).link library outside)
            input t'
          turn.result = none ∧
            AtTopLevel library config outside start t turn.source turn.link) ∧
    (∀ (value : List UInt8) {υ : Type} (network' : Http.Network υ) (time' : String) (u : υ),
      (run library ((serverVariable, value) :: environment) accountHome files network' time' start
        u).exitCode = ran.exitCode) ∧
    ∀ (environment' : Environment) (accountHome' : Path) (files' : Files) (url : String)
      {υ : Type} (network' : Http.Network υ) (time' : String) (u : υ),
      Config.ofEnvironment environment' accountHome' files' =
          loaded.map (fun config => { config with serverUrl := url }) →
        (run library environment' accountHome' files' network' time' start u).exitCode =
          ran.exitCode := by
  intro loaded outside ran
  refine ⟨exitCode_eq_zero_or_one network time start t environment accountHome files,
    exitCode_eq_zero_iff network time start t environment accountHome files,
    exitCode_eq_one_iff network time start t environment accountHome files, ?_, ?_, ?_, ?_, ?_⟩
  · intro error hloaded
    have hran : ran = _ := run_of_error network time start t hloaded
    rw [hran]
    exact ⟨rfl, rfl⟩
  · intro config input t' hloaded hreaches hgarbled
    exact run_of_garbled network time start t hloaded hreaches hgarbled
  · intro config input t' text hloaded hreaches hread hfilled
    have hback : (Menu.round config Terminal.lines ((clientOf config).link library outside) input
        t').result = none := Menu.result_round_of_filled hread hfilled
    exact ⟨hback, hreaches.and_turn hback⟩
  · intro value υ network' time' u
    obtain ⟨url, hurl⟩ := Config.exists_ofEnvironment_cons environment accountHome files value
    exact exitCode_congr network time start t hurl network' time' u
  · intro environment' accountHome' files' url υ network' time' u hloaded
    exact exitCode_congr network time start t hloaded network' time' u

end Console

end LiveRoom
