import LiveRoom.Proofs.Client
import LiveRoom.Proofs.Http.Chain
import LiveRoom.Proofs.Http.Library

/-!
# A post is one exchange

A client that posts to a path sends one message to the address of that path
(`Client.LeadsTo`) and follows where the answers send it.  The service receives the requests
of one chain of hops, at least one and at most eleven, and none of them twice.  The first is
the post with its body; it goes on as it is until an answer makes a retrieval of it.

What is reported is the last answer with the address that gave it, whatever the status and
the text are; where there is none, the failure names the address of the post.  All this is so
with any library that can be relied on (`Http.Library.Lawful`).

An address of more than 65534 characters cannot stand in a request.  A post there reaches
nobody (`Client.post_of_unfit`).
-/

namespace LiveRoom.Client

open Http (Hop Service)

/-- **A path leads a client to a URL**: that of its address without the name and password of
a user.  It is one of the web and can stand in a request. -/
structure LeadsTo (client : Client) (path : String) (url : Url) : Prop where
  parse : ∃ written, Url.parse (client.urlFor path) = .ok written ∧
    url = Http.withoutUser written
  web : Http.isWeb url
  fit : Http.isFit url

variable {client : Client} {path : String} {url : Url}

/-- **The path of a command** at an address, behind plain segments, if both can stand in a
request. -/
theorem leadsTo_of_isFit {address : Http.Address} {base : List (List Char)}
    (hbase : ∀ segment ∈ base, Url.IsPlain segment)
    (hclient : client.base = String.ofList (address.text ++ Url.pathText (.segments base)))
    {command : Command} (hfit : Http.isFit (address.url (base ++ command.segments))) :
    client.LeadsTo command.path (address.url (base ++ command.segments)) :=
  ⟨⟨_, parse_urlFor_path hbase hclient command, (address.withoutUser_url _).symm⟩,
    address.isWeb_url _, hfit⟩

/-- **The paths of commands** at an address, behind a path that is not too long. -/
theorem leadsTo_path {address : Http.Address} {base : List (List Char)}
    (hbase : ∀ segment ∈ base, Url.IsPlain segment)
    (hlength : (Url.pathText (.segments base)).length + 64 ≤ Http.longestAddress)
    (hclient : client.base = String.ofList (address.text ++ Url.pathText (.segments base)))
    (command : Command) :
    client.LeadsTo command.path (address.url (base ++ command.segments)) := by
  have hshort : (Url.pathText (.segments (base ++ command.segments))).length + 28 ≤
      Http.longestAddress := by
    rw [pathText_append, List.length_append]
    have := command.length_path_le
    omega
  exact leadsTo_of_isFit hbase hclient (address.isFit_url _ hshort)

theorem LeadsTo.send_eq (h : client.LeadsTo path url) (library : Http.Library)
    (message : Http.Message) :
    Http.send library message (client.urlFor path) =
      (Http.follow library library.redirects message url).map
        fun result => result.mapError (.underway url) := by
  obtain ⟨⟨written, hparse, rfl⟩, hweb, hfit⟩ := h
  rw [Http.send, hparse]
  simp only [hweb, hfit, Bool.not_true, Bool.false_eq_true, if_false]

/-- **A post to a path** follows from its URL, and concludes from what comes of that. -/
theorem LeadsTo.post_eq (h : client.LeadsTo path url) (library : Http.Library)
    (service : Service) (body : Option String) (state : Service.State) :
    let ran := (Http.follow library library.redirects (message body) url).run service.network state
    let posted := (client.link library service.network).post path body state
    posted.1.result =
        (conclude library (client.urlFor path) (ran.result.mapError (.underway url))).2 ∧
      posted.2 = ran.network := by
  simp only [link, delivery, h.send_eq, Http.Traffic.run_map, and_self]

/-- **A post to an address that cannot stand in a request** reaches nobody. -/
theorem post_of_unfit {written : Url} (hparse : Url.parse (client.urlFor path) = .ok written)
    (hweb : Http.isWeb (Http.withoutUser written))
    (hfit : ¬ Http.isFit (Http.withoutUser written)) (library : Http.Library) {τ : Type}
    (network : Http.Network τ) (body : Option String) (t : τ) :
    let posted := (client.link library network).post path body t
    posted.1.result = .error (.send (client.urlFor path)
      (Http.SendError.unfit (Http.withoutUser written)).chain) ∧ posted.2 = t := by
  simp only [link, delivery, Http.send, hparse, hweb, hfit, Http.Traffic.run_map]
  exact ⟨rfl, rfl⟩

/-! ## What is reported -/

/-- **What is reported of a last hop**, with room for so many redirects. -/
structure Reports (library : Http.Library) (service : Service) (address : String) (url : Url)
    (room : Nat) (last : Hop) (result : Except LinkError Response) : Prop where
  /-- No answer, or bytes that are none. -/
  unreadable : ∀ fault, last.reply library = .error fault →
    result = .error (.send address (Http.SendError.underway url (.noReply fault)).chain)
  /-- An answer that leads nowhere, whatever its status and its text are. -/
  replied : ∀ reply, last.reply library = .ok reply → (∀ next, ¬ last.LeadsTo library next) →
    result = match reply.body with
      | .ok bytes =>
        .ok ⟨last.url.text, reply.head.status, String.ofList (library.text reply.head bytes)⟩
      | .error fault => .error (.body address fault.chain)
  /-- A redirect too many, one that leaves the web, or one to where nobody is. -/
  astray : ∀ next, last.LeadsTo library next → ∃ mishap,
    result = .error (.send address (Http.SendError.underway url mishap).chain) ∧
      (room = 0 ∧ mishap = .tooManyRedirects ∨
        room ≠ 0 ∧ ¬ Http.isWeb next.url ∧ mishap = .offWeb ∨
        room ≠ 0 ∧ Http.isWeb next.url ∧
          Http.Endpoint.ofUrl? next.url ≠ some service.endpoint ∧
          (mishap = .noEndpoint ∨ mishap = .noConnection .refused))

section Reports
variable {library : Http.Library} {service : Service} {address : String} {room : Nat}
  {last : Hop}

/-- What a last hop yields is what is reported of it. -/
theorem reports_of_yields {result : Except Http.Mishap (Url × Http.Reply)}
    (h : last.Yields library service room result) (address : String) (url : Url) :
    Reports library service address url room last
      (conclude library address (result.mapError (.underway url))).2 := by
  cases h with
  | unreadable fault read =>
    refine ⟨fun same hsame => ?_, fun reply hreply => ?_, fun next hnext => ?_⟩
    · obtain rfl : fault = same := Except.error.inj (read.symm.trans hsame)
      rfl
    · rw [read] at hreply
      cases hreply
    · exact absurd read (hnext.reply_ne_error fault)
  | replied reply read stays =>
    refine ⟨fun fault hfault => ?_, fun same hsame _ => ?_, fun next hnext => ?_⟩
    · rw [read] at hfault
      cases hfault
    · obtain rfl : reply = same := Except.ok.inj (read.symm.trans hsame)
      show (conclude library address (.ok (last.url, reply))).2 = _
      simp only [conclude]
      cases reply.body <;> rfl
    · exact absurd hnext (stays next)
  | tooMany next leads full =>
    exact ⟨fun fault hfault => absurd hfault (leads.reply_ne_error fault),
      fun reply _ hstays => absurd leads (hstays next), fun _ _ => ⟨_, rfl, .inl ⟨full, rfl⟩⟩⟩
  | offWeb next leads more foreign =>
    refine ⟨fun fault hfault => absurd hfault (leads.reply_ne_error fault),
      fun reply _ hstays => absurd leads (hstays next), fun other hother => ?_⟩
    rw [← leads.url_eq hother] at foreign
    exact ⟨_, rfl, .inr (.inl ⟨more, foreign, rfl⟩)⟩
  | astray next leads more web elsewhere mishap nobody =>
    refine ⟨fun fault hfault => absurd hfault (leads.reply_ne_error fault),
      fun reply _ hstays => absurd leads (hstays next), fun other hother => ?_⟩
    rw [← leads.url_eq hother] at web elsewhere
    exact ⟨mishap, rfl, .inr (.inr ⟨more, web, elsewhere, nobody⟩)⟩

/-- **What is reported of an answer as the service has written it**, if it leads nowhere. -/
structure ReportsWritten (library : Http.Library) (address : String) (url : Url) (last : Hop)
    (result : Except LinkError Response) : Prop where
  /-- A whole answer: its status and the text of its body, with the address that gave it. -/
  whole : ∀ status headers content, last.answer = .reply status headers content 0 →
    Http.IsPlain status headers content.length → ¬ (status = 204 ∨ status = 304) →
    (∀ next, ¬ last.LeadsTo library next) →
      result = .ok ⟨last.url.text, status, String.ofList
        (library.text (Http.writtenHead status headers content.length) content)⟩
  /-- The text of a body is the one that it encodes, if its media type has no parameters and
  it does not begin with a byte order mark. -/
  utf8 : ∀ status headers (text : String),
    last.answer = .reply status headers (Utf8.encode text.toList) 0 →
    let length := (Utf8.encode text.toList).length
    Http.IsPlain status headers length → ¬ (status = 204 ∨ status = 304) →
    (∀ next, ¬ last.LeadsTo library next) →
    (∀ value ∈ (Http.writtenHead status headers length).values "content-type", 0x3B ∉ value) →
    text.toList.head? ≠ some '\uFEFF' →
      result = .ok ⟨last.url.text, status, text⟩
  /-- An answer that breaks off inside its body. -/
  short : ∀ status headers content missing, last.answer = .reply status headers content missing →
    Http.IsPlain status headers (content.length + missing) → missing ≠ 0 →
    ¬ (status = 204 ∨ status = 304) → (∀ next, ¬ last.LeadsTo library next) →
      result = .error (.body address Http.BodyFault.short.chain)
  /-- A connection that is closed without an answer. -/
  closed : last.answer = .raw [] →
    result = .error (.send address (Http.SendError.underway url (.noReply .closed)).chain)

theorem Reports.written (hlibrary : library.Lawful) {result : Except LinkError Response}
    (h : Reports library service address url room last result) :
    ReportsWritten library address url last result := by
  have hwhole : ∀ status headers content, last.answer = .reply status headers content 0 →
      Http.IsPlain status headers content.length → ¬ (status = 204 ∨ status = 304) →
      (∀ next, ¬ last.LeadsTo library next) →
        result = .ok ⟨last.url.text, status, String.ofList
          (library.text (Http.writtenHead status headers content.length) content)⟩ := by
    intro status headers content hanswer hplain hstatus hstays
    have hreply := hlibrary.read_reply
      (show Http.IsPlain status headers (content.length + 0) from hplain)
    rw [← hanswer] at hreply
    rw [h.replied _ hreply hstays, if_neg hstatus]
    rfl
  refine ⟨hwhole, ?_, ?_, ?_⟩
  · intro status headers text hanswer length hplain hstatus hstays htype hmark
    rw [hwhole status headers _ hanswer hplain hstatus hstays, hlibrary.text_encode htype hmark,
      String.ofList_toList]
  · intro status headers content missing hanswer hplain hmissing hstatus hstays
    have hreply := hlibrary.read_reply hplain
    rw [← hanswer] at hreply
    rw [h.replied _ hreply hstays, if_neg hstatus, if_neg hmissing]
  · intro hanswer
    refine h.unreadable .closed ?_
    rw [Hop.reply, hanswer]
    exact hlibrary.read_nil

end Reports

/-! ## The whole exchange -/

/-- **A post is one exchange.**  The service receives the requests of a chain of hops, at most
eleven of them: the first is the post with its body at the address, a further one follows an
answer that redirects to it, and until an answer makes a retrieval of it each is the post again.
The last hop is what is reported. -/
theorem post_is_one_exchange {library : Http.Library} (hlibrary : library.Lawful)
    (haddress : client.LeadsTo path url) {service : Service}
    (hservice : Http.Endpoint.ofUrl? url = some service.endpoint) (body : Option String)
    (state : Service.State) :
    let posted := (client.link library service.network).post path body state
    ∃ (hops : List Hop) (first last : Hop), hops.head? = some first ∧
      hops.getLast? = some last ∧ hops.length ≤ 11 ∧ first.url = url ∧
      first.request = request (String.ofList url.target) body ∧
      service.Passes library state hops posted.2 ∧
      (∀ earlier hop later, hops = earlier ++ hop :: later →
        hop.request = if earlier.any (Hop.turns library)
          then ⟨.get, String.ofList hop.url.target, none, none⟩
          else request (String.ofList hop.url.target) body) ∧
      Reports library service (client.urlFor path) url (library.redirects + 1 - hops.length) last
        posted.1.result ∧
      ReportsWritten library (client.urlFor path) url last posted.1.result := by
  intro posted
  obtain ⟨others, last, hlast, hlength, hpasses, hyields⟩ :=
    Http.follow_run library library.redirects hservice (message body) state
  obtain ⟨hresult, hnetwork⟩ := haddress.post_eq library service body state
  have hreports : Reports library service (client.urlFor path) url
      (library.redirects - others.length) last posted.1.result := by
    rw [show posted.1.result = _ from hresult]
    exact reports_of_yields hyields (client.urlFor path) url
  rw [← hnetwork] at hpasses
  refine ⟨_, _, last, rfl, hlast,
    Nat.succ_le_succ (Nat.le_trans hlength hlibrary.redirects_le), rfl, rfl, hpasses, ?_, ?_,
    hreports.written hlibrary⟩
  · intro earlier hop later hhops
    have hmessage : hop.message =
        if earlier.any (Hop.turns library) then .retrieval else message body := by
      refine Hop.message_eq (fun first hfirst => ?_) (hhops ▸ hpasses.linked)
      cases earlier with
      | nil =>
        obtain rfl := Option.some.inj hfirst
        exact congrArg Hop.message (List.cons.inj hhops).1.symm
      | cons other earlier =>
        obtain rfl := Option.some.inj hfirst
        exact congrArg Hop.message (List.cons.inj hhops).1.symm
    rw [Hop.request, Http.Message.request, hmessage]
    cases earlier.any (Hop.turns library) <;> rfl
  · rw [List.length_cons, Nat.add_sub_add_right]
    exact hreports

/-- An answer that redirects, and then one of another status. -/
theorem post_is_one_exchange_over_redirect :
    let library := Http.Library.standard
    let client := ofBase "http://127.0.0.1:8080/"
    let url := (Http.Address.loopback 8080 (by decide)).url Command.stop.segments
    let service : Service :=
      ⟨⟨false, .ipv4 2130706433, 8080⟩, .reply 404 [] [0x67, 0x6F, 0x6E, 0x65] 0⟩
    let state : Service.State := ⟨[.reply 302 [("Location", "/moved")] [] 0], []⟩
    let posted := (client.link library service.network).post Command.stop.path (some "\x7b\x7d")
      state
    (∃ (hops : List Hop) (first last : Hop), hops.head? = some first ∧
      hops.getLast? = some last ∧ hops.length ≤ 11 ∧ first.url = url ∧
      first.request = request (String.ofList url.target) (some "\x7b\x7d") ∧
      service.Passes library state hops posted.2 ∧
      (∀ earlier hop later, hops = earlier ++ hop :: later →
        hop.request = if earlier.any (Hop.turns library)
          then ⟨.get, String.ofList hop.url.target, none, none⟩
          else request (String.ofList hop.url.target) (some "\x7b\x7d")) ∧
      Reports library service (client.urlFor Command.stop.path) url (11 - hops.length) last
        posted.1.result ∧
      ReportsWritten library (client.urlFor Command.stop.path) url last posted.1.result) ∧
    posted.2.received =
      [request "/api1/ial/stop" (some "\x7b\x7d"), ⟨.get, "/moved", none, none⟩] ∧
    posted.1.result = .ok ⟨"http://127.0.0.1:8080/moved", 404, "gone"⟩ := by
  intro library client url service state posted
  have hclient : client.base = String.ofList
      ((Http.Address.loopback 8080 (by decide)).text ++ Url.pathText (.segments [])) := by decide
  have haddress : client.LeadsTo Command.stop.path url :=
    leadsTo_path (by simp) (by decide) hclient .stop
  have hservice : Http.Endpoint.ofUrl? url = some service.endpoint :=
    Http.Address.ofUrl?_url _ _
  exact ⟨post_is_one_exchange Http.Library.lawful_standard haddress hservice (some "\x7b\x7d")
    state, by decide +kernel, by decide +kernel⟩

/-! ## Addresses that are too long -/

theorem isPlain_replicate (count : Nat) : Url.IsPlain (List.replicate count 'a') := by
  have hletter : ∀ c ∈ List.replicate count 'a', c = 'a' := fun c hc => List.eq_of_mem_replicate hc
  have hdot : '.' ∉ List.replicate count 'a' := fun h => absurd (hletter '.' h) (by decide)
  refine ⟨fun c hc => ?_, fun h => hdot ?_, fun h => hdot ?_⟩
  · rw [hletter c hc]
    rfl
  · rw [h]
    exact List.mem_singleton_self _
  · rw [h]
    exact List.mem_cons_self

/-- A URL is no shorter than its path. -/
theorem not_isFit_of_lt (url : Url) (h : Http.longestAddress < (Url.pathText url.path).length) :
    ¬ Http.isFit url := by
  have hlength : (Url.pathText url.path).length ≤ url.chars.length := by
    simp only [Url.chars, List.length_append]
    omega
  rw [Http.isFit, decide_eq_false (Nat.not_le.mpr (Nat.lt_of_lt_of_le h hlength)), Bool.false_and]
  exact Bool.false_ne_true

/-- **A path that is too long** leads to a URL of the service, and a post there has no effect on
the service. -/
theorem post_to_long_path (address : Http.Address) {service : Service}
    (hservice : service.endpoint = address.endpoint) {count : Nat}
    (hcount : Http.longestAddress ≤ count)
    (hclient : client.base = String.ofList
      (address.text ++ Url.pathText (.segments [List.replicate count 'a'])))
    (command : Command) (library : Http.Library) (body : Option String)
    (state : Service.State) :
    (∃ url, Url.parse (client.urlFor command.path) = .ok url ∧ Http.isWeb url ∧
      Http.Endpoint.ofUrl? url = some service.endpoint) ∧
      ((client.link library service.network).post command.path body state).2 = state := by
  let url := address.url ([List.replicate count 'a'] ++ command.segments)
  have hparse : Url.parse (client.urlFor command.path) = .ok url :=
    parse_urlFor_path (by simpa using isPlain_replicate count) hclient command
  have huser : Http.withoutUser url = url := address.withoutUser_url _
  have hfit : ¬ Http.isFit url := by
    refine not_isFit_of_lt url ?_
    show _ < (Url.pathText (.segments ([List.replicate count 'a'] ++ command.segments))).length
    rw [pathText_append, List.length_append]
    have hsegment : (Url.pathText (.segments [List.replicate count 'a'])).length = count + 1 := by
      simp [Url.pathText]
    omega
  refine ⟨⟨url, hparse, address.isWeb_url _, ?_⟩, ?_⟩
  · rw [hservice]
    exact address.ofUrl?_url _
  · rw [← huser] at hfit
    exact (post_of_unfit hparse (by rw [huser]; exact address.isWeb_url _) hfit library
      service.network body state).2

/-- A client whose address is a long path of the service. -/
theorem base_ofBase_replicate (count : Nat) (hcount : 0 < count) :
    (ofBase ("http://127.0.0.1:8080/" ++ String.ofList (List.replicate count 'a'))).base =
      String.ofList ((Http.Address.loopback 8080 (by decide)).text ++
        Url.pathText (.segments [List.replicate count 'a'])) := by
  have htext : "http://127.0.0.1:8080/" =
      String.ofList ((Http.Address.loopback 8080 (by decide)).text ++ ['/']) := by decide
  have hlast : ∀ c ∈ ((Http.Address.loopback 8080 (by decide)).text ++
      Url.pathText (.segments [List.replicate count 'a'])).getLast?, c ≠ '/' := by
    intro c hc
    obtain ⟨count, rfl⟩ := Nat.exists_eq_succ_of_ne_zero (Nat.ne_of_gt hcount)
    have hpath : Url.pathText (.segments [List.replicate (count + 1) 'a']) =
        ('/' :: List.replicate count 'a') ++ ['a'] := by
      rw [List.cons_append, ← List.replicate_succ']
      exact List.append_nil _
    rw [hpath, ← List.append_assoc, List.getLast?_append] at hc
    obtain rfl : 'a' = c := Option.some.inj hc
    decide
  have hbase : "http://127.0.0.1:8080/" ++ String.ofList (List.replicate count 'a') =
      String.ofList (((Http.Address.loopback 8080 (by decide)).text ++
        Url.pathText (.segments [List.replicate count 'a'])) ++ List.replicate 0 '/') := by
    rw [htext, ← String.ofList_append, List.append_assoc]
    simp [Url.pathText]
  rw [hbase, ofBase_append_slashes hlast]

/-- **An address that is too long** is read as a URL of the service, and yet the service receives
nothing. -/
theorem nothing_received_of_length (count : Nat) (hcount : Http.longestAddress ≤ count) :
    let service : Service := ⟨⟨false, .ipv4 2130706433, 8080⟩, .reply 200 [] [] 0⟩
    let base := "http://127.0.0.1:8080/" ++ String.ofList (List.replicate count 'a')
    let posted := ((ofBase base).link .standard service.network).post "/api1/ial/stop" none
      ⟨[], []⟩
    (∃ url, Url.parse ((ofBase base).urlFor "/api1/ial/stop") = .ok url ∧
      Http.isWeb url ∧ Http.Endpoint.ofUrl? url = some service.endpoint) ∧
      posted.2.received = [] := by
  intro service base posted
  have hclient := base_ofBase_replicate count (Nat.lt_of_lt_of_le (by decide) hcount)
  have hservice : service.endpoint = (Http.Address.loopback 8080 (by decide)).endpoint := rfl
  obtain ⟨hurl, hstill⟩ := post_to_long_path (Http.Address.loopback 8080 (by decide)) hservice
    hcount hclient .stop .standard none ⟨[], []⟩
  have hpath : Command.stop.path = "/api1/ial/stop" := rfl
  rw [hpath] at hurl hstill
  refine ⟨hurl, ?_⟩
  rw [show posted.2 = _ from hstill]

/-- An address of the service with a path of 65536 letters. -/
theorem nothing_received_at_long_address :
    let service : Service := ⟨⟨false, .ipv4 2130706433, 8080⟩, .reply 200 [] [] 0⟩
    let base := "http://127.0.0.1:8080/" ++ String.ofList (List.replicate 65536 'a')
    let posted := ((ofBase base).link .standard service.network).post "/api1/ial/stop" none
      ⟨[], []⟩
    (∃ url, Url.parse ((ofBase base).urlFor "/api1/ial/stop") = .ok url ∧
      Http.isWeb url ∧ Http.Endpoint.ofUrl? url = some service.endpoint) ∧
      posted.2.received = [] :=
  nothing_received_of_length 65536 (by decide)

end LiveRoom.Client
