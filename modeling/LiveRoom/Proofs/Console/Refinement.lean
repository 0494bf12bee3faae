import LiveRoom.Console
import LiveRoom.Proofs.Client
import LiveRoom.Proofs.Config.Environment
import LiveRoom.Proofs.Http.Library
import LiveRoom.Proofs.Menu.Replies
import LiveRoom.Proofs.Menu.Rounds
import LiveRoom.Proofs.Menu.Session
import LiveRoom.Proofs.Stream.Lines

/-!
# The program and the menu over a script

Below, the program has a stream of bytes and a service behind a network; above, the menu
has a script and a link that takes requests.  The program refines the menu: the script is
that of the stream's lines, each request of the menu arrives at the service as one request
of its own, and what is shown is the same.

The two differ in their sources and in nothing else, and a session cannot tell the sources
apart (`Menu.run_matches`).  What has arrived at the service is then a matter of the
requests alone (`Menu.link_run`), and these do not depend on the answers
(`Menu.agree_run`).  The environment must not name a proxy for the service, for then they
arrive there.
-/

namespace LiveRoom.Console

variable {τ : Type} {environment : Environment} {accountHome : Path} {files : Files}
  {config : Config}

/-- **With a configuration the program is one session**: what it shows and what it leaves of
the network, which it sees behind the proxies, are those of the menu. -/
theorem run_eq_session (hconfig : Config.ofEnvironment environment accountHome files = .ok config)
    (library : Http.Library) (network : Http.Network τ) (time : String) (input : Stream.Input)
    (t : τ) :
    let ran := run library environment accountHome files network time input t
    let outside := network.through (library.proxiesIn environment)
    let session := Menu.run config Terminal.lines ((clientOf config).link library outside) input t
    ran.shown = shown session.trace ∧ ran.network = session.link := by
  intro ran outside session
  have hshown : shown (.log (loadedEntry config) :: session.trace) = shown session.trace := by
    rw [shown, List.map_cons, String.join_cons]
    exact String.empty_append
  simp only [ran, run, hconfig, Console.session]
  cases hresult : session.result with
  | finished =>
    simp only [Performance.after, outside, session, hresult]
    exact ⟨hshown, trivial⟩
  | failed reason =>
    simp only [Performance.after, outside, session, hresult]
    exact ⟨hshown, trivial⟩

/-- **The program refines the menu over the script of its input**, if there is no proxy for the
service.  Whatever the service answers, short of sending the client elsewhere, it receives the
requests that the menu makes over that script and any link at all, one for one and in order; and
what is shown is what the menu shows over that script and the program's own client. -/
theorem refines_menu (library : Http.Library)
    (hconfig : Config.ofEnvironment environment accountHome files = .ok config)
    (address : Http.Address) (slashes : Nat)
    (hserver : config.serverUrl = String.ofList (address.text ++ List.replicate slashes '/'))
    (service : Http.Service) (hservice : service.endpoint = address.endpoint)
    (hdirect : library.proxiesIn environment service.endpoint = none)
    (answers : List Http.Answer)
    (hanswers : ∀ answer ∈ service.otherwise :: answers, ¬ answer.Redirects library)
    (time : String) (bytes : List UInt8) (capacity : Nat) (capacity_pos : 0 < capacity) :
    let ran := run library environment accountHome files service.network time
      (.ofBytes bytes capacity capacity_pos) ⟨answers, []⟩
    let outside := service.network.through (library.proxiesIn environment)
    (∀ {τ : Type} (link : Link τ) (t : τ), ran.network.received =
      (Menu.run config .script link (Terminal.script bytes) t).trace.posts.map fun post =>
        Client.request post.1 post.2) ∧
    ran.shown = shown (Menu.run config .script ((clientOf config).link library outside)
      (Terminal.script bytes) ⟨answers, []⟩).trace := by
  intro ran outside
  have hmatches := Menu.run_matches Terminal.simulates_script config
    ((clientOf config).link library outside)
    (s := Stream.Input.ofBytes bytes capacity capacity_pos) (r := Terminal.script bytes) rfl
    (⟨answers, []⟩ : Http.Service.State)
  obtain ⟨hshown, hnetwork⟩ := run_eq_session hconfig library service.network time
    (.ofBytes bytes capacity capacity_pos) ⟨answers, []⟩
  constructor
  · intro τ link t
    have hclient : (clientOf config).base = String.ofList address.text := by
      rw [clientOf, hserver, Client.ofBase_append_slashes address.getLast?_text_ne_slash]
    have hposts := (Menu.agree_run config .script ((clientOf config).link library outside) link
      (Terminal.script bytes) ⟨answers, []⟩ t).trace.posts_eq
    have hreceived := Client.received_afterPosts (service.reaches_network.through hdirect)
      ⟨answers, []⟩ hclient hservice hanswers fun post hpost =>
        Menu.exists_command_of_mem_posts config .script ((clientOf config).link library outside)
          (Terminal.script bytes) ⟨answers, []⟩ hpost
    -- The requests made over the program's own client are those made over any link.
    calc ran.network.received
        = (Menu.run config .script ((clientOf config).link library outside)
            (Terminal.script bytes) ⟨answers, []⟩).link.received := by
          rw [hnetwork, hmatches.link]
      _ = _ := by rw [Menu.link_run, hreceived, hposts, List.nil_append]
  · rw [hshown, hmatches.trace]

/-- An address with two slashes too many, no files, a line that is no text between two that are,
an answer that is none, and then no answer at all. -/
theorem refines_menu_on_loopback :
    let library := Http.Library.standard
    let url := "http://127.0.0.1:8080//"
    let environment : Environment := [(serverVariable, Utf8.encode url.toList)]
    let service : Http.Service := ⟨⟨false, .ipv4 2130706433, 8080⟩, .raw []⟩
    let bytes : List UInt8 := [0x31, 0x30, 0x0D, 0x0A, 0xFF, 0x0A, 0x31, 0x0A]
    let config := { Config.default with serverUrl := url }
    let ran := run library environment [] Config.noFiles service.network ""
      (.ofBytes bytes 3 (Nat.succ_pos 2)) ⟨[.raw [0x78]], []⟩
    let outside := service.network.through (library.proxiesIn environment)
    ran.network.received =
        (Menu.run config .script (Link.canned fun _ => .error (.client []))
          (Terminal.script bytes) []).trace.posts.map (fun post => Client.request post.1 post.2) ∧
      ran.shown = shown (Menu.run config .script ((clientOf config).link library outside)
        (Terminal.script bytes) ⟨[.raw [0x78]], []⟩).trace ∧
      ran.network.received = [Client.request "/api1/ial/stop" none] := by
  have hset : Environment.text? [(serverVariable, Utf8.encode "http://127.0.0.1:8080//".toList)]
      serverVariable = some "http://127.0.0.1:8080//" :=
    Environment.text?_eq_some_iff.mpr rfl
  have hanswers : ∀ answer ∈ [Http.Answer.raw [], .raw [0x78]],
      ¬ answer.Redirects Http.Library.standard := by
    intro answer hanswer
    rcases List.mem_cons.mp hanswer with rfl | hanswer
    · exact Http.Answer.not_redirects Http.Library.lawful_standard.read_nil
    · obtain rfl := List.mem_singleton.mp hanswer
      have hread : Http.Library.standard.read [0x78] = .error .version := by
        show Http.Reply.ofBytes [0x78] = _
        rw [Http.Reply.ofBytes]
        rfl
      exact Http.Answer.not_redirects hread
  obtain ⟨hreceived, hshown⟩ := refines_menu .standard
    (Config.ofEnvironment_noFiles_of_server rfl hset (by decide) []) (.loopback 8080 (by decide)) 2
    (by decide) ⟨⟨false, .ipv4 2130706433, 8080⟩, .raw []⟩ rfl (by decide +kernel) [.raw [0x78]]
    hanswers "" [0x31, 0x30, 0x0D, 0x0A, 0xFF, 0x0A, 0x31, 0x0A] 3 (Nat.succ_pos 2)
  exact ⟨hreceived _ _, hshown, by decide +kernel⟩

/-- **A proxy comes between**: the menu posts, and the service receives nothing. -/
theorem nothing_received_behind_proxy :
    let library := Http.Library.standard
    let url := "http://127.0.0.1:8080"
    let environment : Environment := [(serverVariable, Utf8.encode url.toList),
      ("HTTP_PROXY", Utf8.encode "http://127.0.0.1:9".toList)]
    let service : Http.Service := ⟨⟨false, .ipv4 2130706433, 8080⟩, .reply 200 [] [] 0⟩
    let bytes : List UInt8 := [0x31, 0x30, 0x0A]
    let config := { Config.default with serverUrl := url }
    let ran := run library environment [] Config.noFiles service.network ""
      (.ofBytes bytes 3 (Nat.succ_pos 2)) ⟨[], []⟩
    Config.ofEnvironment environment [] Config.noFiles = .ok config ∧
      ¬ service.otherwise.Redirects library ∧
      (Menu.run config .script (Link.canned fun _ => .error (.client []))
        (Terminal.script bytes) []).trace.posts = [("/api1/ial/stop", none)] ∧
      ran.network.received = [] := by
  intro library url environment service bytes config ran
  have hset : environment.text? serverVariable = some url :=
    Environment.text?_eq_some_iff.mpr rfl
  have hstays : ¬ service.otherwise.Redirects library :=
    Http.Answer.not_redirects_of_isPlain Http.Library.lawful_standard Http.isPlain_ok (by decide)
  exact ⟨Config.ofEnvironment_noFiles_of_server rfl hset (by decide) [], hstays,
    by decide +kernel, by decide +kernel⟩

end LiveRoom.Console
