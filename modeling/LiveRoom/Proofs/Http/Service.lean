import LiveRoom.Client
import LiveRoom.Proofs.Url.Address

/-!
# One message to the service

A message goes to the service as one request, and where the answer does not send it on,
that is all: the service has received one request more and has one answer less to give,
whatever that answer is.  It may be an answer of any status, no answer, or bytes that are
no answer at all.  The network may have proxies, if there is none for the service.

`Http.Address.send_run` says all that sending a message comes to, for an address that names
the service's machine by its number.
-/

namespace LiveRoom.Http

/-! ## Answers that send a message on -/

/-- The statuses that send a message on. -/
def redirectStatuses : List Nat := [301, 302, 303, 307, 308]

/-- **A redirect**: an answer with such a status that carries a location. -/
def Answer.Redirects (library : Library) (answer : Answer) : Prop :=
  ∃ reply, library.read answer.bytes = .ok reply ∧ reply.head.status ∈ redirectStatuses ∧
    reply.head.values "location" ≠ []

section Redirects
variable {library : Library} {answer : Answer}

theorem Answer.not_redirects {fault : HeadFault} (h : library.read answer.bytes = .error fault) :
    ¬ answer.Redirects library := by
  rintro ⟨reply, hreply, -⟩
  rw [h] at hreply
  cases hreply

/-- A plain answer with any other status is no redirect. -/
theorem Answer.not_redirects_of_isPlain (hlibrary : library.Lawful) {status : Nat}
    {headers : List (String × String)} {body : List UInt8} {missing : Nat}
    (h : IsPlain status headers (body.length + missing)) (hstatus : status ∉ redirectStatuses) :
    ¬ (Answer.reply status headers body missing).Redirects library := by
  rintro ⟨reply, hreply, hredirects, -⟩
  rw [hlibrary.read_reply h] at hreply
  obtain rfl := Except.ok.inj hreply
  exact hstatus hredirects

/-- The shortest answer of success. -/
theorem isPlain_ok : IsPlain 200 [] 0 :=
  ⟨by decide, by decide, by simp, by simp, by decide, by decide, by decide⟩

/-- A status that is none of these sends no message on. -/
theorem Message.after?_eq_none {status : Nat} (h : status ∉ redirectStatuses)
    (message : Message) : message.after? status = none := by
  simp only [redirectStatuses, List.mem_cons, List.not_mem_nil, or_false, not_or] at h
  obtain ⟨h301, h302, h303, h307, h308⟩ := h
  rw [Message.after?, if_neg (by simp [h301, h302, h303]), if_neg (by simp [h307, h308])]

/-- Without a redirect there is nowhere to go on to. -/
theorem redirection?_eq_none (h : ¬ answer.Redirects library) {reply : Reply}
    (hreply : library.read answer.bytes = .ok reply) (url : Url) (message : Message) :
    redirection? url message reply.head = none := by
  -- Either the status sends nothing on, or it would and there is no location.
  by_cases hstatus : reply.head.status ∈ redirectStatuses
  · have hvalues : reply.head.values "location" = [] := by
      by_cases hvalues : reply.head.values "location" = []
      · exact hvalues
      · exact absurd ⟨reply, hreply, hstatus, hvalues⟩ h
    rw [redirection?, Head.location?, hvalues]
    cases message.after? reply.head.status <;> rfl
  · rw [redirection?, message.after?_eq_none hstatus]
    rfl

end Redirects

/-! ## The service on a network -/

/-- **A network on which a service is reached**: it receives whatever goes to its endpoint. -/
def Network.Reaches (network : Network Service.State) (service : Service) : Prop :=
  ∀ request state, network.exchange service.endpoint request state =
    service.receive request state

theorem Service.reaches_network (service : Service) : service.network.Reaches service :=
  fun _ _ => if_pos rfl

/-- **Proxies for other endpoints** do not stand in the way. -/
theorem Network.Reaches.through {network : Network Service.State} {service : Service}
    (h : network.Reaches service) {proxies : Proxies} (hdirect : proxies service.endpoint = none) :
    (network.through proxies).Reaches service := by
  intro request state
  show network.exchange (proxies.route service.endpoint request).1
    (proxies.route service.endpoint request).2 state = _
  rw [Proxies.route_of_none hdirect]
  exact h request state

/-! ## Sending once -/

/-- The answer that a service gives next. -/
def Service.answer (service : Service) (state : Service.State) : Answer :=
  state.answers.head?.getD service.otherwise

theorem Service.answer_mem (service : Service) (state : Service.State) :
    service.answer state ∈ service.otherwise :: state.answers := by
  rw [Service.answer]
  cases state.answers with
  | nil => exact List.mem_cons_self
  | cons answer answers => exact List.mem_cons_of_mem _ List.mem_cons_self

/-- What an answer that is no redirect comes to. -/
def Answer.outcome (library : Library) (answer : Answer) (url : Url) :
    Except Mishap (Url × Reply) :=
  match library.read answer.bytes with
  | .error fault => .error (.noReply fault)
  | .ok found => .ok (url, found)

theorem Traffic.run_map {τ α β : Type} (f : α → β) (network : Network τ) (traffic : Traffic α)
    (t : τ) : (traffic.map f).run network t =
      let passed := traffic.run network t
      ⟨passed.requests, f passed.result, passed.network⟩ := by
  induction traffic generalizing t with
  | done result => rfl
  | exchange endpoint request next ih => simp only [map, run, ih]

section Once
variable {library : Library} {service : Service} {network : Network Service.State}
  {state : Service.State} {url : Url}

/-- **A message that is sent once** is one request, and the answer is what comes of it. -/
theorem once_run (hnetwork : network.Reaches service)
    (hendpoint : Endpoint.ofUrl? url = some service.endpoint)
    (hanswer : ¬ (service.answer state).Redirects library) (message : Message)
    (onward : Url → Message → Traffic (Except Mishap (Url × Reply))) :
    (once library message url onward).run network state =
      ⟨[(service.endpoint, message.request url)], (service.answer state).outcome library url,
        ⟨state.answers.tail, state.received ++ [message.request url]⟩⟩ := by
  have hexchange : network.exchange service.endpoint (message.request url) state =
      (.answered (service.answer state).bytes,
        ⟨state.answers.tail, state.received ++ [message.request url]⟩) := hnetwork _ state
  simp only [once, hendpoint, Traffic.run, hexchange, Answer.outcome]
  cases hreply : library.read (service.answer state).bytes with
  | error fault => rfl
  | ok reply =>
    simp only [redirection?_eq_none hanswer hreply]
    rfl

/-- Following from an address that does not send the message on is sending once. -/
theorem follow_run_of_not_redirects (redirects : Nat) (hnetwork : network.Reaches service)
    (hendpoint : Endpoint.ofUrl? url = some service.endpoint)
    (hanswer : ¬ (service.answer state).Redirects library) (message : Message) :
    (follow library redirects message url).run network state =
      ⟨[(service.endpoint, message.request url)], (service.answer state).outcome library url,
        ⟨state.answers.tail, state.received ++ [message.request url]⟩⟩ := by
  cases redirects with
  | zero => exact once_run hnetwork hendpoint hanswer message _
  | succ redirects => exact once_run hnetwork hendpoint hanswer message _

end Once

/-! ## Addresses of a service -/

/-- **The address of a service** that listens without encryption: the number of its
machine, as a text that stands for it, and its port. -/
structure Address where
  name : List Char
  unreserved : ∀ c ∈ name, Url.isUnreserved c
  number : Nat
  parse_name : Host.parse name = .ok (.ipv4 number)
  port : Nat
  port_le : port ≤ 65535

namespace Address

/-- The endpoint that an address leads to. -/
def endpoint (address : Address) : Endpoint := ⟨false, .ipv4 address.number, address.port⟩

def text (address : Address) : List Char :=
  "http://".toList ++ (address.name ++ ':' :: Nat.toDigits 10 address.port)

theorem getLast?_text_ne_slash (address : Address) : ∀ c ∈ address.text.getLast?, c ≠ '/' := by
  intro c hc
  have hne : Nat.toDigits 10 address.port ≠ [] := Nat.toDigits_ne_nil
  have hlast : address.text.getLast? = some ((Nat.toDigits 10 address.port).getLast hne) := by
    unfold text
    rw [List.getLast?_append, List.getLast?_append, List.getLast?_cons_of_ne_nil hne,
      List.getLast?_eq_some_getLast hne]
    rfl
  rw [hlast] at hc
  have hdigit : c.isDigit := by
    rw [← Option.some.inj hc]
    exact Nat.isDigit_of_mem_toDigits (by decide) (by decide) (List.getLast_mem hne)
  rintro rfl
  cases hdigit

def url (address : Address) (segments : List (List Char)) : Url :=
  Url.http (.ipv4 address.number) address.port segments

/-- **The address of a service on the machine itself.** -/
def loopback (port : Nat) (port_le : port ≤ 65535) : Address where
  name := "127.0.0.1".toList
  unreserved := List.all_eq_true.mp (by decide)
  number := 127 * Nat.pow 256 3 + 1
  parse_name := by
    have hdecode : Url.percentDecode (Utf8.encode "127.0.0.1".toList) =
        Utf8.encode "127.0.0.1".toList := by decide
    have hascii : Domain.ascii? "127.0.0.1".toList = some "127.0.0.1".toList := by
      decide +kernel
    show Host.named "127.0.0.1".toList = _
    rw [Host.named, hdecode, Utf8.decode?_encode, Option.bind_some, hascii]
    rfl
  port := port
  port_le := port_le

section Url
variable (address : Address) (segments : List (List Char))

theorem name_ne_nil : address.name ≠ [] := by
  intro hnil
  have hparse := address.parse_name
  have hascii : Domain.ascii? [] = some [] := by decide +kernel
  have hnamed : Host.parse [] = .error .emptyHost := by
    have hdecode : Url.percentDecode (Utf8.encode []) = Utf8.encode [] := rfl
    show Host.named [] = _
    rw [Host.named, hdecode, Utf8.decode?_encode, Option.bind_some, hascii]
    rfl
  rw [hnil, hnamed] at hparse
  cases hparse

theorem withoutUser_url : withoutUser (address.url segments) = address.url segments := by
  rw [withoutUser]
  split <;> rfl

theorem isWeb_url : isWeb (address.url segments) = true := rfl

theorem ofUrl?_url : Endpoint.ofUrl? (address.url segments) = some address.endpoint := by
  by_cases hport : address.port = 80
  · simp [Endpoint.ofUrl?, url, Url.http, Url.hasHost, endpoint, hport]
  · simp [Endpoint.ofUrl?, url, Url.http, Url.hasHost, endpoint, hport]

theorem target_url : (address.url segments).target = Url.pathText (.segments segments) :=
  List.append_nil _

/-- An address of four numbers is short. -/
theorem length_ipv4Text_le (number : Nat) : (Host.ipv4Text number).length ≤ 15 := by
  have hbyte : ∀ n : Nat, (Nat.toDigits 10 (n % 256)).length ≤ 3 := fun n =>
    (Nat.length_toDigits_le_iff (by decide) (by decide)).mpr (by omega)
  have h3 := hbyte (number / Nat.pow 256 3)
  have h2 := hbyte (number / Nat.pow 256 2)
  have h1 := hbyte (number / Nat.pow 256 1)
  have h0 := hbyte (number / Nat.pow 256 0)
  simp only [Host.ipv4Text, List.length_append, List.length_cons]
  omega

/-- **The URL of a path that is not too long** can stand in a request. -/
theorem isFit_url (h : (Url.pathText (.segments segments)).length + 28 ≤ longestAddress) :
    isFit (address.url segments) = true := by
  have hhost := length_ipv4Text_le address.number
  have hport : (Nat.toDigits 10 address.port).length ≤ 5 :=
    (Nat.length_toDigits_le_iff (by decide) (by decide)).mpr
      (Nat.lt_of_le_of_lt address.port_le (by decide))
  have hchars : (address.url segments).chars.length ≤ longestAddress := by
    simp only [Url.chars, Url.hostText, url, Url.http, Url.userText, Url.queryText,
      Url.fragmentText, Host.text, List.length_append, List.length_cons]
    -- The default port is left out, which makes the text shorter still.
    by_cases heighty : address.port = 80 <;> simp [heighty] <;> omega
  rw [isFit, decide_eq_true hchars]
  rfl

end Url

/-! ## Sending to an address -/

section Send
variable (address : Address) {part : List Char} {others : List (List Char)}

theorem parse_text (h : ∀ segment ∈ part :: others, Url.IsPlain segment) :
    Url.parse (String.ofList (address.text ++ Url.pathText (.segments (part :: others)))) =
      .ok (address.url (part :: others)) := by
  have htext : address.text ++ Url.pathText (.segments (part :: others)) =
      "http://".toList ++ Url.locationText address.name address.port (part :: others) := by
    unfold text Url.locationText
    generalize "http://".toList = scheme
    rw [List.append_assoc, List.append_assoc, List.cons_append]
  rw [htext]
  exact Url.parse_http address.unreserved address.name_ne_nil address.parse_name
    address.port_le h

/-- **A message to a plain path of a service** is one request, and the answer is what comes
of it, unless it is a redirect. -/
theorem send_run {library : Library} {service : Service} {network : Network Service.State}
    {state : Service.State} (hnetwork : network.Reaches service)
    (hservice : service.endpoint = address.endpoint)
    (hplain : ∀ segment ∈ part :: others, Url.IsPlain segment)
    (hlength : (Url.pathText (.segments (part :: others))).length + 28 ≤ longestAddress)
    (hanswer : ¬ (service.answer state).Redirects library) (message : Message) :
    let url := address.url (part :: others)
    (send library message (String.ofList
        (address.text ++ Url.pathText (.segments (part :: others))))).run network state =
      ⟨[(service.endpoint, message.request url)],
        ((service.answer state).outcome library url).mapError (.underway url),
        ⟨state.answers.tail, state.received ++ [message.request url]⟩⟩ := by
  intro url
  have hendpoint : Endpoint.ofUrl? url = some service.endpoint := by
    rw [hservice]
    exact address.ofUrl?_url (part :: others)
  have hsend : send library message (String.ofList
        (address.text ++ Url.pathText (.segments (part :: others)))) =
      (follow library library.redirects message url).map
        fun result => result.mapError (.underway url) := by
    have hparse : Url.parse (String.ofList
        (address.text ++ Url.pathText (.segments (part :: others)))) = .ok url :=
      address.parse_text hplain
    have hfit : isFit url = true := address.isFit_url (part :: others) hlength
    have hweb : isWeb url = true := address.isWeb_url (part :: others)
    have huser : withoutUser url = url := address.withoutUser_url (part :: others)
    rw [send, hparse]
    simp only [huser, hweb, hfit, Bool.not_true, Bool.false_eq_true, if_false]
  -- The first exchange is the last one, since its answer does not send the message on.
  rw [hsend, Traffic.run_map, follow_run_of_not_redirects _ hnetwork hendpoint hanswer]

end Send

end Address

end LiveRoom.Http
