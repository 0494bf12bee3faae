import LiveRoom.Proofs.Config.Environment
import LiveRoom.Proofs.Console.Outcome
import LiveRoom.Proofs.Menu.Recording

/-!
# Diagnostics change nothing

Two variables of the environment are about the log.  `RUST_LOG` says which of its entries are
written and `NO_COLOR` how they look.  Whatever they are set to, the exit code is the same, and
so is what is shown and what has reached the network (`diagnostics_change_nothing`).

The program looks at them before its session begins.  While it goes on, each entry is filtered
where it arises, so the session is one of a recorder (`Console.live`), and two settings of the
variables make two recorders.  They have different recordings, but without the log these are
the same.
-/

namespace LiveRoom

/-! ## The configuration -/

/-- The configuration hangs on none of the variables that are about the log. -/
theorem Config.ofEnvironment_congr {environment environment' : Environment}
    (same : ∀ name, name ≠ filterVariable → name ≠ plainVariable →
      environment'.bytes? name = environment.bytes? name)
    (accountHome : Path) (files : Files) :
    ofEnvironment environment' accountHome files = ofEnvironment environment accountHome files := by
  have hconfig : environment'.text? configVariable = environment.text? configVariable :=
    Environment.text?_congr (same _ (by decide) (by decide))
  have hserver : environment'.text? serverVariable = environment.text? serverVariable :=
    Environment.text?_congr (same _ (by decide) (by decide))
  have hdirectory : environment'.configDirectory accountHome =
      environment.configDirectory accountHome :=
    Environment.configDirectory_congr (same _ (by decide) (by decide))
      (same _ (by decide) (by decide)) accountHome
  simp only [ofEnvironment, load, base, hconfig, hserver, hdirectory]

/-- Nor do the proxies. -/
theorem Http.Library.proxiesIn_congr (library : Library) {environment environment' : Environment}
    (same : ∀ name, name ≠ filterVariable → name ≠ plainVariable →
      environment'.bytes? name = environment.bytes? name) :
    library.proxiesIn environment' = library.proxiesIn environment := by
  have hnames : ∀ name ∈ Proxies.variableNames, name ≠ filterVariable ∧ name ≠ plainVariable := by
    decide
  have honly : environment'.only Proxies.variableNames =
      environment.only Proxies.variableNames :=
    Environment.only_congr fun name hname => same name (hnames name hname).1 (hnames name hname).2
  rw [proxiesIn, honly, proxiesIn]

/-! ## The session as it goes on -/

namespace LogSettings

/-- The entries that are written are those that were recorded by the filter. -/
theorem join_write (settings : LogSettings) (time : String) (trace : Trace) :
    String.join ((Trace.entries trace).map (settings.write time)) =
      String.join ((Trace.recordedBy settings.filter.admits trace).entries.map fun entry =>
        entry.line settings.styles time) := by
  induction trace with
  | nil => rfl
  | cons event trace ih =>
    cases event with
    | log entry =>
      show String.join (settings.write time entry :: (Trace.entries trace).map _) = _
      rw [String.join_cons, ih, write]
      by_cases hadmits : settings.filter.admits entry = true
      · have hrecorded : Trace.recordedBy settings.filter.admits (.log entry :: trace) =
            .log entry :: Trace.recordedBy settings.filter.admits trace :=
          List.filter_cons_of_pos hadmits
        rw [if_pos hadmits, hrecorded]
        exact (String.join_cons ..).symm
      · have hrecorded : Trace.recordedBy settings.filter.admits (.log entry :: trace) =
            Trace.recordedBy settings.filter.admits trace :=
          List.filter_cons_of_neg hadmits
        rw [if_neg hadmits, hrecorded]
        exact String.empty_append
    | _ => exact ih

end LogSettings

namespace Console

variable {τ : Type} {environment : Environment} {accountHome : Path} {files : Files}
  {config : Config}

/-- **The session as it goes on**: each entry of the log is filtered where it arises, from the
one that the configuration is loaded. -/
def live (settings : LogSettings) (library : Http.Library) (config : Config)
    (network : Http.Network τ) (input : Stream.Input) (t : τ) :
    Ending × Recording Stream.Input τ :=
  Menu.record settings.filter.admits config Terminal.lines ((clientOf config).link library network)
    (Recording.noted settings.filter.admits ⟨[], input, t⟩ (loadedEntry config))

/-- **The live session is the session**, with what the filter admits of its log. -/
theorem live_eq (settings : LogSettings) (library : Http.Library) (config : Config)
    (network : Http.Network τ) (input : Stream.Input) (t : τ) :
    live settings library config network input t =
      let ran := session library config network input t
      (ran.result, ⟨ran.trace.recordedBy settings.filter.admits, ran.source, ran.link⟩) := by
  rw [live, Menu.record_eq_run, Recording.noted_eq]
  simp only [Recording.added, session, Performance.after, Trace.recordedBy_append,
    List.nil_append]

theorem shown_recordedBy (records : Log.Entry → Bool) (trace : Trace) :
    shown (trace.recordedBy records) = shown trace := by
  rw [← shown_withoutLog, Trace.withoutLog_recordedBy, shown_withoutLog]

/-- **The program is its live session.**  What is shown is what the session printed and asked,
and what is complained about are the entries that it recorded. -/
theorem run_eq_live (hconfig : Config.ofEnvironment environment accountHome files = .ok config)
    (library : Http.Library) (network : Http.Network τ) (time : String) (input : Stream.Input)
    (t : τ) :
    run library environment accountHome files network time input t =
      let settings := LogSettings.ofEnvironment environment
      let outside := network.through (library.proxiesIn environment)
      let ended := live settings library config outside input t
      let log := String.join (ended.2.trace.entries.map fun entry =>
        entry.line settings.styles time)
      match ended.1 with
      | .finished => ⟨0, shown ended.2.trace, log, ended.2.link⟩
      | .failed reason =>
        ⟨1, shown ended.2.trace, log ++ failureText [reason], ended.2.link⟩ := by
  cases hresult : (session library config (network.through (library.proxiesIn environment)) input
    t).result with
  | finished =>
    simp only [run, hconfig, live_eq, LogSettings.join_write, shown_recordedBy, hresult]
  | failed reason =>
    simp only [run, hconfig, live_eq, LogSettings.join_write, shown_recordedBy, hresult]

theorem live_congr (settings settings' : LogSettings) (library : Http.Library) (config : Config)
    (network : Http.Network τ) (input : Stream.Input) (t : τ) :
    let ended := live settings library config network input t
    let other := live settings' library config network input t
    ended.1 = other.1 ∧ ended.2.link = other.2.link ∧
      ended.2.trace.withoutLog = other.2.trace.withoutLog := by
  simp only [live_eq, Trace.withoutLog_recordedBy, and_self]

/-- **Diagnostics change nothing.**  Two environments that differ in `RUST_LOG` and `NO_COLOR`
alone, whatever these are set to, make two runs with the same exit code, the same output and
the same network afterwards, and it does not matter when they are made.

The same holds of the menu on its own.  A session whose log is recorded, in whole or in part,
ends like one of whose log nothing is recorded; and what was recorded, once the log is taken
out and adjacent pieces of text are put together, is the other's recording. -/
theorem diagnostics_change_nothing :
    (∀ (library : Http.Library) {environment environment' : Environment},
      (∀ name, name ≠ filterVariable → name ≠ plainVariable →
        environment'.bytes? name = environment.bytes? name) →
      ∀ (accountHome : Path) (files : Files) {τ : Type} (network : Http.Network τ)
        (time time' : String) (input : Stream.Input) (t : τ),
        let ran := run library environment accountHome files network time input t
        let ran' := run library environment' accountHome files network time' input t
        ran'.exitCode = ran.exitCode ∧ ran'.shown = ran.shown ∧ ran'.network = ran.network) ∧
    ∀ {σ τ : Type} (config : Config) (source : LineSource σ) (link : Link τ) (s : σ) (t : τ),
      let ran := Menu.run config source link s t
      let silent := Menu.record (fun _ => false) config source link ⟨[], s, t⟩
      Menu.record (fun _ => true) config source link ⟨[], s, t⟩ =
          (ran.result, ⟨ran.trace, ran.source, ran.link⟩) ∧
        ∀ records : Log.Entry → Bool,
          let recorded := Menu.record records config source link ⟨[], s, t⟩
          recorded.1 = silent.1 ∧ recorded.2.source = silent.2.source ∧
            recorded.2.link = silent.2.link ∧
            recorded.2.trace.joined.withoutLog.joined = silent.2.trace.joined := by
  constructor
  · intro library environment environment' same accountHome files τ network time time' input t ran
      ran'
    have hproxies := library.proxiesIn_congr same
    have hload := Config.ofEnvironment_congr same accountHome files
    cases hconfig : Config.ofEnvironment environment accountHome files with
    | error error =>
      have hran : ran = _ := run_of_error network time input t hconfig
      have hran' : ran' = _ := run_of_error network time' input t (hload.trans hconfig)
      rw [hran, hran']
      exact ⟨rfl, rfl, rfl⟩
    | ok config =>
      have hran : ran = _ := run_eq_live hconfig library network time input t
      have hran' : ran' = _ := run_eq_live (hload.trans hconfig) library network time' input t
      obtain ⟨hresult, hlink, htrace⟩ := live_congr (LogSettings.ofEnvironment environment')
        (LogSettings.ofEnvironment environment) library config
        (network.through (library.proxiesIn environment)) input t
      have hshown := congrArg shown htrace
      rw [shown_withoutLog, shown_withoutLog] at hshown
      rw [hran, hran', hproxies]
      dsimp only
      rw [hresult]
      split
      · exact ⟨rfl, hshown, hlink⟩
      · exact ⟨rfl, hshown, hlink⟩
  · intro σ τ config source link s t ran silent
    exact ⟨Menu.record_all config source link s t, fun records =>
      Menu.record_eq_silent records config source link s t⟩

/-- **The settings can be far apart**: `trace` without styles, and a byte that is no text.  In
the one run the log is written from its first entry on, in the other only warnings are, and
nothing else differs: in both the service receives the one request. -/
theorem diagnostics_change_nothing_at_extremes :
    let server := (serverVariable, Utf8.encode "http://127.0.0.1:8080".toList)
    let loud : Environment :=
      [(filterVariable, Utf8.encode "trace".toList), (plainVariable, [0x31]), server]
    let garbled : Environment := [(filterVariable, [0xFF]), server]
    let service : Http.Service := ⟨⟨false, .ipv4 2130706433, 8080⟩, .reply 200 [] [] 0⟩
    let bytes : List UInt8 := [0x31, 0x30, 0x0A, 0x78, 0x0A]
    let ran (environment : Environment) := run .standard environment [Path.separator]
      Config.noFiles service.network "" (.ofBytes bytes 3 (Nat.succ_pos 2)) ⟨[], []⟩
    ((LogSettings.ofEnvironment loud).filter.admits (loadedEntry .default) = true ∧
        (LogSettings.ofEnvironment loud).styles = false) ∧
      ((LogSettings.ofEnvironment garbled).filter.admits (loadedEntry .default) = false ∧
        (LogSettings.ofEnvironment garbled).styles = true) ∧
      ((ran loud).exitCode = (ran garbled).exitCode ∧ (ran loud).shown = (ran garbled).shown ∧
        (ran loud).network = (ran garbled).network) ∧
      (ran loud).network.received = [Client.request "/api1/ial/stop" none] := by
  refine ⟨by decide +kernel, by decide +kernel, ?_, by decide +kernel⟩
  refine diagnostics_change_nothing.1 .standard ?_ [Path.separator] Config.noFiles _ "" "" _ _
  intro name hfilter hplain
  simp only [Environment.bytes?, List.find?_cons, Ne.symm hfilter, Ne.symm hplain, decide_false]

end Console

end LiveRoom
