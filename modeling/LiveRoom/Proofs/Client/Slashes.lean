import LiveRoom.Proofs.Client.Exchange

/-!
# Slashes at the end of an address

An address may end in any number of slashes, and none of them gets as far as a request.  The
client drops them when it is made, and from there on the seam between its address and a path
has the one slash that the path begins with: not in the URL that the two are read as, not in
the target that the service receives and not in the address that a response comes with is
there one more or less.

The addresses here are those of a service on the machine itself, behind plain segments
(`Client.LocalBase`).  Some of these may be empty, so that slashes inside the path are kept
in their number, but not the last one.
-/

namespace LiveRoom

/-! ## Addresses as they are written -/

theorem Url.chars_of_host (scheme : List Char) (host : Host) (port : Nat)
    (segments : List (List Char)) :
    Url.chars { scheme, host := some host, port := some port, path := .segments segments } =
      scheme ++ ':' :: '/' :: '/' ::
        (host.text ++ ':' :: (Nat.toDigits 10 port ++ Url.pathText (.segments segments))) := by
  simp [Url.chars, Url.hostText, Url.userText, Url.queryText, Url.fragmentText]

namespace Http.Address

variable (address : Address) (segments : List (List Char))

/-- **The URL of a path is written as its address is**, if that has the machine's number in
its usual form and another port than the scheme's own. -/
theorem chars_url (hname : Host.ipv4Text address.number = address.name)
    (hport : address.port ≠ 80) :
    (address.url segments).chars = address.text ++ Url.pathText (.segments segments) := by
  have hhost : (Host.ipv4 address.number).text = address.name := hname
  have hscheme : "http://".toList = "http".toList ++ [':', '/', '/'] := by decide
  have htext : address.text = "http".toList ++
      ':' :: '/' :: '/' :: (address.name ++ ':' :: Nat.toDigits 10 address.port) :=
    (congrArg (· ++ _) hscheme).trans (List.append_assoc _ _ _)
  rw [url, Url.http, if_neg hport, Url.chars_of_host, hhost, htext]
  simp only [List.append_assoc, List.cons_append]

/-- The URL of a path can stand in a request exactly if it is not too long. -/
theorem isFit_url_iff : isFit (address.url segments) = true ↔
    (address.url segments).chars.length ≤ longestAddress := by
  rw [isFit, Bool.and_eq_true, decide_eq_true_eq]
  exact and_iff_left rfl

end Http.Address

namespace Client

open Http (Hop Service)

/-! ## One request and no more -/

/-- **A post whose answer leads nowhere** is one request, and that answer is what is reported. -/
theorem LeadsTo.post_once {client : Client} {path : String} {url : Url}
    (haddress : client.LeadsTo path url) {library : Http.Library} {service : Service}
    (hservice : Http.Endpoint.ofUrl? url = some service.endpoint) {body : Option String}
    {state : Service.State}
    (hstays : ∀ next, ¬ Hop.LeadsTo library ⟨url, message body, service.answer state⟩ next) :
    let posted := (client.link library service.network).post path body state
    posted.2 = ⟨state.answers.tail,
        state.received ++ [request (String.ofList url.target) body]⟩ ∧
      Reports library service (client.urlFor path) url library.redirects
        ⟨url, message body, service.answer state⟩ posted.1.result := by
  intro posted
  obtain ⟨others, last, hlast, -, hpasses, hyields⟩ :=
    Http.follow_run library library.redirects hservice (message body) state
  obtain ⟨hresult, hnetwork⟩ := haddress.post_eq library service body state
  cases others with
  | cons next others => exact absurd (List.isChain_cons_cons.mp hpasses.linked).1 (hstays next)
  | nil =>
    obtain rfl := Option.some.inj hlast
    rw [← hnetwork] at hpasses
    refine ⟨?_, ?_⟩
    · have hleft : posted.2.answers = state.answers.tail := hpasses.left.trans List.drop_one
      have hreceived : posted.2.received =
          state.received ++ [request (String.ofList url.target) body] := hpasses.received
      rw [← hleft, ← hreceived]
    · rw [show posted.1.result = _ from hresult]
      exact reports_of_yields hyields (client.urlFor path) url

/-! ## Addresses on the machine itself -/

/-- **The address of a service on the machine itself**, at a port that has to be named and
behind plain segments.  It does not end in a slash: its last segment is not empty. -/
structure LocalBase where
  port : Nat
  port_pos : 0 < port
  port_le : port ≤ 65535
  port_ne : port ≠ 80
  segments : List (List Char)
  plain : ∀ segment ∈ segments, Url.IsPlain segment
  getLast?_ne : segments.getLast? ≠ some []

namespace LocalBase

variable (base : LocalBase)

def path : String := String.ofList (base.segments.flatMap fun segment => '/' :: segment)

def text : String := "http://127.0.0.1:" ++ toString base.port ++ base.path

/-- So many slashes behind an address. -/
def behind (count : Nat) : String := base.text ++ String.ofList (List.replicate count '/')

/-- The machine and the port of an address. -/
def address : Http.Address := .loopback base.port base.port_le

/-- The URL of a command's path at an address. -/
def urlOf (command : Command) : Url := base.address.url (base.segments ++ command.segments)

theorem text_eq :
    base.text = String.ofList (base.address.text ++ Url.pathText (.segments base.segments)) := by
  have hfront : "http://".toList ++ ("127.0.0.1".toList ++ [':']) =
      "http://127.0.0.1:".toList := by decide
  have htext : base.address.text = "http://127.0.0.1:".toList ++ Nat.toDigits 10 base.port := by
    rw [← hfront, List.append_assoc, List.append_assoc]
    rfl
  rw [htext, String.ofList_append, String.ofList_append, String.ofList_toList]
  rfl

theorem getLast?_ne_slash :
    ∀ c ∈ (base.address.text ++ Url.pathText (.segments base.segments)).getLast?, c ≠ '/' := by
  rcases List.eq_nil_or_concat base.segments with hnil | ⟨others, segment, hsegments⟩
  · rw [hnil]
    show ∀ c ∈ (base.address.text ++ []).getLast?, c ≠ '/'
    rw [List.append_nil]
    exact base.address.getLast?_text_ne_slash
  · -- The path ends where its last segment does, and that has no slash in it.
    rw [List.concat_eq_append] at hsegments
    have hplain : Url.IsPlain segment := base.plain segment (by simp [hsegments])
    have hne : segment ≠ [] := fun hnil =>
      base.getLast?_ne (by rw [hsegments, List.getLast?_concat, hnil])
    have hpath : Url.pathText (.segments base.segments) =
        (Url.pathText (.segments others) ++ ['/']) ++ segment := by
      simp [hsegments, Url.pathText]
    intro c hc
    rw [hpath, ← List.append_assoc, List.getLast?_append_of_ne_nil _ hne] at hc
    have hunreserved := hplain.unreserved c (List.mem_of_getLast? hc)
    rintro rfl
    exact absurd hunreserved (by decide)

/-- **However many slashes are behind an address**, the client of it is the same. -/
theorem ofBase_behind (count : Nat) : ofBase (base.behind count) = ⟨base.text⟩ := by
  rw [behind, text_eq, ← String.ofList_append]
  exact ofBase_append_slashes base.getLast?_ne_slash count

section Path
variable (command : Command)

/-- **An address with a command's path is read as a URL**, which is written as it is. -/
theorem parse_urlFor :
    Url.parse (base.text ++ command.path) = .ok (base.urlOf command) ∧
      (base.urlOf command).text = base.text ++ command.path := by
  have hclient : (⟨base.text⟩ : Client).base =
      String.ofList (base.address.text ++ Url.pathText (.segments base.segments)) := base.text_eq
  have hurl : base.text ++ command.path = String.ofList (base.address.text ++
      Url.pathText (.segments (base.segments ++ command.segments))) := urlFor_path hclient command
  have hname : Host.ipv4Text base.address.number = base.address.name := by
    show Host.ipv4Text (127 * Nat.pow 256 3 + 1) = "127.0.0.1".toList
    decide
  refine ⟨parse_urlFor_path base.plain hclient command, ?_⟩
  rw [hurl, Url.text, urlOf, base.address.chars_url _ hname base.port_ne]

theorem target_urlOf : String.ofList (base.urlOf command).target = base.path ++ command.path := by
  rw [urlOf, Http.Address.target_url, pathText_append, String.ofList_append, String.ofList_toList]
  rfl

end Path

/-- A path of so many letters, at the port 8080. -/
def ofLetters (count : Nat) (hcount : 0 < count) : LocalBase where
  port := 8080
  port_pos := by decide
  port_le := by decide
  port_ne := by decide
  segments := [List.replicate count 'a']
  plain := by simpa using isPlain_replicate count
  getLast?_ne := by
    rw [List.getLast?_singleton]
    simpa using Nat.ne_of_gt hcount

section Letters
variable (count : Nat) (hcount : 0 < count)

theorem text_ofLetters :
    (ofLetters count hcount).text =
      "http://127.0.0.1:8080/" ++ String.ofList (List.replicate count 'a') := by
  have hfront : "http://127.0.0.1:8080/" =
      String.ofList ((Http.Address.loopback 8080 (by decide)).text ++ ['/']) := by decide
  have hpath : Url.pathText (.segments [List.replicate count 'a']) =
      ['/'] ++ List.replicate count 'a' := List.append_nil _
  rw [text_eq, hfront, ← String.ofList_append, List.append_assoc, ← hpath]
  rfl

theorem lt_length_ofLetters : count < (ofLetters count hcount).text.length := by
  have hpath : (Url.pathText (.segments (ofLetters count hcount).segments)).length = count + 1 := by
    simp [ofLetters, Url.pathText]
  rw [text_eq, String.length_ofList, List.length_append, hpath]
  omega

end Letters

end LocalBase

/-! ## What becomes of a post -/

/-- **A post that its answer does not send on** is one request for the target, and every response
to it comes with the address. -/
structure Arrives (library : Http.Library) (service : Service) (state : Service.State)
    (target address : String) (body : Option String) (posted : Delivery × Service.State) :
    Prop where
  received : posted.2 = ⟨state.answers.tail, state.received ++ [request target body]⟩
  named : ∀ response, posted.1.result = .ok response → response.url = address
  /-- An answer that can be read is a response. -/
  read : ∀ reply content, library.read (service.answer state).bytes = .ok reply →
    reply.body = .ok content → posted.1.result =
      .ok ⟨address, reply.head.status, String.ofList (library.text reply.head content)⟩
  /-- So is a whole answer as the service writes it. -/
  whole : ∀ status headers content, service.answer state = .reply status headers content 0 →
    Http.IsPlain status headers content.length →
      posted.1.result = .ok ⟨address, status, String.ofList
        (library.text (Http.writtenHead status headers content.length)
          (if status = 204 ∨ status = 304 then [] else content))⟩

section Post
variable {library : Http.Library} {service : Service} {state : Service.State}
  {body : Option String}

/-- What is reported of an answer that leads nowhere comes with the address of its URL. -/
theorem Arrives.of_reports (hlibrary : library.Lawful) {address target : String} {url : Url}
    {room : Nat} {posted : Delivery × Service.State}
    (hreceived : posted.2 = ⟨state.answers.tail, state.received ++ [request target body]⟩)
    (hstays : ∀ next, ¬ Hop.LeadsTo library ⟨url, message body, service.answer state⟩ next)
    (hreports : Reports library service address url room
      ⟨url, message body, service.answer state⟩ posted.1.result) :
    Arrives library service state target url.text body posted := by
  have hread : ∀ reply content, library.read (service.answer state).bytes = .ok reply →
      reply.body = .ok content → posted.1.result =
        .ok ⟨url.text, reply.head.status, String.ofList (library.text reply.head content)⟩ := by
    intro reply content hreply hcontent
    rw [hreports.replied reply hreply hstays, hcontent]
  refine ⟨hreceived, fun response hresponse => ?_, hread, fun status headers content hanswer
    hplain => ?_⟩
  · cases hreply : library.read (service.answer state).bytes with
    | error fault =>
      rw [hreports.unreadable fault hreply] at hresponse
      cases hresponse
    | ok reply =>
      cases hcontent : reply.body with
      | error fault =>
        rw [hreports.replied reply hreply hstays, hcontent] at hresponse
        cases hresponse
      | ok content =>
        rw [hread reply content hreply hcontent] at hresponse
        exact congrArg Response.url (Except.ok.inj hresponse).symm
  · have hreply := hlibrary.read_reply
      (show Http.IsPlain status headers (content.length + 0) from hplain)
    rw [← hanswer] at hreply
    refine hread _ _ hreply ?_
    by_cases hempty : status = 204 ∨ status = 304
    · rw [if_pos hempty, if_pos hempty]
    · rw [if_neg hempty, if_neg hempty, if_pos rfl]

namespace LocalBase

variable (base : LocalBase) (command : Command)

/-- An address with a command's path can stand in a request exactly if it is not too long. -/
theorem isFit_urlOf_iff : Http.isFit (base.urlOf command) = true ↔
    (base.text ++ command.path).length ≤ Http.longestAddress := by
  rw [← (base.parse_urlFor command).2, Url.text, String.length_ofList]
  exact base.address.isFit_url_iff _

/-- A post to an address that is not too long. -/
theorem arrives_of_length_le (hlibrary : library.Lawful)
    (hservice : service.endpoint = base.address.endpoint)
    (hlength : (base.text ++ command.path).length ≤ Http.longestAddress)
    (hstays : ∀ next,
      ¬ Hop.LeadsTo library ⟨base.urlOf command, message body, service.answer state⟩ next) :
    Arrives library service state (base.path ++ command.path) (base.text ++ command.path) body
      (((⟨base.text⟩ : Client).link library service.network).post command.path body state) := by
  have hfit : Http.isFit (base.urlOf command) := (base.isFit_urlOf_iff command).mpr hlength
  have haddress : (⟨base.text⟩ : Client).LeadsTo command.path (base.urlOf command) :=
    leadsTo_of_isFit base.plain base.text_eq hfit
  obtain ⟨hreceived, hreports⟩ := haddress.post_once
    (by rw [hservice]; exact base.address.ofUrl?_url _) hstays
  rw [target_urlOf] at hreceived
  rw [← (base.parse_urlFor command).2]
  exact .of_reports hlibrary hreceived hstays hreports

/-- A post to an address that is too long. -/
theorem still_of_length_lt (hlength : Http.longestAddress < (base.text ++ command.path).length)
    (library : Http.Library) (service : Service) (state : Service.State) (body : Option String) :
    let posted := ((⟨base.text⟩ : Client).link library service.network).post command.path body state
    posted.2 = state ∧
      ∃ causes, posted.1.result = .error (.send (base.text ++ command.path) causes) := by
  intro posted
  have huser : Http.withoutUser (base.urlOf command) = base.urlOf command :=
    base.address.withoutUser_url _
  have hfit : ¬ Http.isFit (Http.withoutUser (base.urlOf command)) := by
    rw [huser, base.isFit_urlOf_iff]
    exact Nat.not_le.mpr hlength
  have hparse : Url.parse ((⟨base.text⟩ : Client).urlFor command.path) =
      .ok (base.urlOf command) := (base.parse_urlFor command).1
  obtain ⟨hresult, hstill⟩ := post_of_unfit hparse
    (by rw [huser]; exact base.address.isWeb_url _) hfit library service.network body state
  exact ⟨hstill, _, hresult⟩

end LocalBase

end Post

/-! ## The whole way -/

theorem not_redirects_ok : ¬ (Http.Answer.reply 200 [] [] 0).Redirects .standard :=
  Http.Answer.not_redirects_of_isPlain Http.Library.lawful_standard Http.isPlain_ok (by decide)

/-- **Slashes at the end of an address do not matter**, all the way to the service.  With any
number of them the client has the address itself.  Its post to the path of a command, unless
the answer sends it on, is one request for the path of the address followed by that of the
command, and a response comes with the address followed by the path, character by character.
The only limit is the length of an address in a request: a post to a longer one reaches
nobody. -/
theorem slashes_do_not_matter (base : LocalBase) (count : Nat) (command : Command) :
    let client := ofBase (base.behind count)
    let address := base.text ++ command.path
    client.base = base.text ∧ ofBase client.base = client ∧
      ∃ url, Url.parse address = .ok url ∧ url.text = address ∧
        ∀ (library : Http.Library) (service : Service) (state : Service.State)
          (body : Option String), library.Lawful → service.endpoint = base.address.endpoint →
          let posted := (client.link library service.network).post command.path body state
          (address.length ≤ Http.longestAddress →
            (∀ next, ¬ Hop.LeadsTo library ⟨url, message body, service.answer state⟩ next) →
              Arrives library service state (base.path ++ command.path) address body posted) ∧
          (Http.longestAddress < address.length →
            posted.2 = state ∧ ∃ causes, posted.1.result = .error (.send address causes)) := by
  intro client address
  have hclient : client = ⟨base.text⟩ := base.ofBase_behind count
  have hbare : ofBase base.text = ⟨base.text⟩ := by
    have hnone := base.ofBase_behind 0
    rwa [LocalBase.behind, List.replicate_zero, String.append_empty] at hnone
  obtain ⟨hparse, htext⟩ := base.parse_urlFor command
  rw [hclient]
  exact ⟨rfl, hbare, base.urlOf command, hparse, htext,
    fun library service state body hlibrary hservice =>
      ⟨fun hlength hstays => base.arrives_of_length_le command hlibrary hservice hlength hstays,
        fun hlength => base.still_of_length_lt command hlength library service state body⟩⟩

/-- Three slashes behind a path with an empty segment. -/
theorem slashes_do_not_matter_behind_empty_segment :
    let service : Service := ⟨⟨false, .ipv4 2130706433, 8080⟩, .reply 200 [] [] 0⟩
    let posted := ((ofBase "http://127.0.0.1:8080/a//v1~///").link .standard service.network).post
      "/api1/ial/create_room" none ⟨[], []⟩
    posted.2.received = [request "/a//v1~/api1/ial/create_room" none] ∧
      posted.1.result = .ok ⟨"http://127.0.0.1:8080/a//v1~/api1/ial/create_room", 200, ""⟩ := by
  intro service posted
  let base : LocalBase := ⟨8080, by decide, by decide, by decide, [['a'], [], "v1~".toList],
    by decide, by decide⟩
  have hbehind : base.behind 3 = "http://127.0.0.1:8080/a//v1~///" := by decide
  have htext : base.text ++ Command.createRoom.path =
      "http://127.0.0.1:8080/a//v1~/api1/ial/create_room" := by decide
  have hpath : base.path ++ Command.createRoom.path = "/a//v1~/api1/ial/create_room" := by decide
  obtain ⟨-, -, url, -, -, hposts⟩ := slashes_do_not_matter base 3 .createRoom
  rw [hbehind, htext, hpath] at hposts
  have harrives := (hposts .standard service ⟨[], []⟩ none Http.Library.lawful_standard rfl).1
    (by decide) fun next hleads => not_redirects_ok hleads.redirects
  refine ⟨congrArg Service.State.received harrives.received, ?_⟩
  have hnothing : Http.Library.standard.text (Http.writtenHead 200 [] 0) [] = [] :=
    show Http.Library.standard.text _ (Utf8.encode []) = [] from
      Http.Library.lawful_standard.text_encode (by decide) (by decide)
  have hresult := harrives.whole 200 [] [] rfl Http.isPlain_ok
  rw [List.length_nil, ite_self, hnothing] at hresult
  exact hresult

/-- **Behind too many letters** the service receives nothing, though it would not redirect. -/
theorem nothing_received_of_letters (count : Nat) (hcount : Http.longestAddress ≤ count) :
    let base := "http://127.0.0.1:8080/" ++ String.ofList (List.replicate count 'a')
    let service : Service := ⟨⟨false, .ipv4 2130706433, 8080⟩, .reply 200 [] [] 0⟩
    let posted := ((ofBase (base ++ "///")).link .standard service.network).post
      "/api1/ial/create_room" none ⟨[], []⟩
    ¬ (service.answer ⟨[], []⟩).Redirects .standard ∧ posted.2.received = [] ∧
      ∀ response, posted.1.result ≠ .ok response := by
  have hpos : 0 < count := Nat.lt_of_lt_of_le (by decide) hcount
  have hbehind : (LocalBase.ofLetters count hpos).behind 3 =
      "http://127.0.0.1:8080/" ++ String.ofList (List.replicate count 'a') ++ "///" := by
    have hslashes : String.ofList (List.replicate 3 '/') = "///" := by decide
    rw [LocalBase.behind, hslashes, LocalBase.text_ofLetters]
  have hlength : Http.longestAddress <
      ((LocalBase.ofLetters count hpos).text ++ Command.createRoom.path).length := by
    have := LocalBase.lt_length_ofLetters count hpos
    rw [String.length_append]
    omega
  obtain ⟨hstill, causes, hresult⟩ := (LocalBase.ofLetters count hpos).still_of_length_lt
    .createRoom hlength .standard ⟨⟨false, .ipv4 2130706433, 8080⟩, .reply 200 [] [] 0⟩ ⟨[], []⟩
    none
  have hpath : Command.createRoom.path = "/api1/ial/create_room" := rfl
  rw [← LocalBase.ofBase_behind _ 3, hbehind, hpath] at hstill hresult
  refine ⟨not_redirects_ok, congrArg Service.State.received hstill, fun response hresponse => ?_⟩
  cases hresult.symm.trans hresponse

/-- Three slashes behind a path of 65536 letters. -/
theorem nothing_received_at_long_address_with_slashes :
    let base := "http://127.0.0.1:8080/" ++ String.ofList (List.replicate 65536 'a')
    let service : Service := ⟨⟨false, .ipv4 2130706433, 8080⟩, .reply 200 [] [] 0⟩
    let posted := ((ofBase (base ++ "///")).link .standard service.network).post
      "/api1/ial/create_room" none ⟨[], []⟩
    ¬ (service.answer ⟨[], []⟩).Redirects .standard ∧ posted.2.received = [] ∧
      ∀ response, posted.1.result ≠ .ok response :=
  nothing_received_of_letters 65536 (by decide)

end Client

end LiveRoom
