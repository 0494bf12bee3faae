import LiveRoom.Proofs.Http.Service
import Mathlib.Data.List.Chain

/-!
# A message that is sent on

A message to the service may be sent on by the answer, and by the answer to that, as often as
the library follows.  What passes is a **chain of hops**: each is a request with the answer that
it met, and one hop leads to the next only if its answer is a redirect (`Hop.LeadsTo`).

`Service.Passes` says what a chain makes of the service: it takes the answers in their order,
and its requests are what the service has received more.  `follow_run` says that sending a
message is such a chain, no longer than there are redirects to follow, and that its last hop
decides what comes of the message (`Hop.Yields`).

What a message has become after some hops depends on their answers alone.  It is the message
that it was, until an answer makes a mere retrieval of it; that it stays for good
(`Hop.message_eq`).
-/

namespace LiveRoom.Http

/-! ## Hops -/

/-- **One request of a message**, and the answer that it met. -/
structure Hop where
  url : Url
  message : Message
  answer : Answer

namespace Hop

def request (hop : Hop) : Request := hop.message.request hop.url

def reply (library : Library) (hop : Hop) : Except HeadFault Reply :=
  library.read hop.answer.bytes

/-- The statuses after which only a retrieval goes on. -/
def retrievalStatuses : List Nat := [301, 302, 303]

/-- The answer has a status after which only a retrieval goes on. -/
def turns (library : Library) (hop : Hop) : Bool :=
  match hop.reply library with
  | .ok reply => retrievalStatuses.contains reply.head.status
  | .error _ => false

/-- **A hop leads to the next one**: its answer is a redirect to the address of that, which
can stand in a request, and the message goes on as it is or as a retrieval. -/
structure LeadsTo (library : Library) (hop next : Hop) : Prop where
  redirects : hop.answer.Redirects library
  located : ∃ reply location, hop.reply library = .ok reply ∧
    reply.head.location? = some location ∧ hop.url.join location = .ok next.url
  fit : isFit next.url
  message : next.message = if hop.turns library then .retrieval else hop.message

end Hop

theorem toOption_eq_some_iff {ε α : Type} {x : Except ε α} {a : α} :
    x.toOption = some a ↔ x = .ok a := by
  cases x <;> simp [Except.toOption]

/-- **How a message goes on** after a status that sends it on. -/
theorem Message.after?_eq_some_iff {message next : Message} {status : Nat} :
    message.after? status = some next ↔ status ∈ redirectStatuses ∧
      next = if Hop.retrievalStatuses.contains status then .retrieval else message := by
  by_cases hstatus : status ∈ redirectStatuses
  · simp only [redirectStatuses, List.mem_cons, List.not_mem_nil, or_false] at hstatus
    rcases hstatus with rfl | rfl | rfl | rfl | rfl <;>
      simp [after?, redirectStatuses, Hop.retrievalStatuses, eq_comm]
  · rw [message.after?_eq_none hstatus]
    exact iff_of_false (Option.some_ne_none next).symm fun h => hstatus h.1

namespace Hop

variable {library : Library} {hop next : Hop}

theorem turns_of_reply {reply : Reply} (h : hop.reply library = .ok reply) :
    hop.turns library = retrievalStatuses.contains reply.head.status := by
  rw [turns, h]

/-- **A redirection is a hop that leads to another one.** -/
theorem leadsTo_iff : hop.LeadsTo library next ↔ ∃ reply, hop.reply library = .ok reply ∧
    redirection? hop.url hop.message reply.head = some (next.url, next.message) := by
  simp only [redirection?, Option.bind_eq_some_iff, Option.map_eq_some_iff,
    Option.filter_eq_some_iff, toOption_eq_some_iff, Message.after?_eq_some_iff]
  constructor
  · rintro ⟨⟨reply, hreply, hstatus, -⟩, ⟨same, location, hsame, hlocation, hjoin⟩, hfit, hmessage⟩
    obtain rfl : reply = same := Except.ok.inj (hreply.symm.trans hsame)
    rw [turns_of_reply hsame] at hmessage
    exact ⟨reply, hsame, _, ⟨hstatus, hmessage⟩, location, hlocation, next.url, ⟨hjoin, hfit⟩, rfl⟩
  · rintro ⟨reply, hreply, message, ⟨hstatus, hmessage⟩, location, hlocation, url, ⟨hjoin, hfit⟩,
      hnext⟩
    obtain ⟨rfl, rfl⟩ := Prod.mk.inj hnext
    refine ⟨⟨reply, hreply, hstatus, ?_⟩, ⟨reply, location, hreply, hlocation, hjoin⟩, hfit, ?_⟩
    · intro hvalues
      rw [Head.location?, hvalues] at hlocation
      cases hlocation
    · rw [turns_of_reply hreply]
      exact hmessage

theorem LeadsTo.url_eq {other : Hop} (h : hop.LeadsTo library next)
    (h' : hop.LeadsTo library other) : other.url = next.url := by
  obtain ⟨reply, hreply, hnext⟩ := leadsTo_iff.mp h
  obtain ⟨same, hsame, hother⟩ := leadsTo_iff.mp h'
  obtain rfl : reply = same := Except.ok.inj (hreply.symm.trans hsame)
  exact congrArg Prod.fst (Option.some.inj (hother.symm.trans hnext))

theorem LeadsTo.reply_ne_error (h : hop.LeadsTo library next) (fault : HeadFault) :
    hop.reply library ≠ .error fault := by
  intro hfault
  obtain ⟨reply, hreply, -⟩ := leadsTo_iff.mp h
  cases hreply.symm.trans hfault

/-- Where an answer sends nothing on, no hop follows. -/
theorem redirection?_eq_none_iff {reply : Reply} (h : hop.reply library = .ok reply) :
    redirection? hop.url hop.message reply.head = none ↔ ∀ next, ¬ hop.LeadsTo library next := by
  constructor
  · intro hnone next hnext
    obtain ⟨same, hsame, hsome⟩ := leadsTo_iff.mp hnext
    obtain rfl : reply = same := Except.ok.inj (h.symm.trans hsame)
    rw [hnone] at hsome
    cases hsome
  · intro hnowhere
    cases hnext : redirection? hop.url hop.message reply.head with
    | none => rfl
    | some found =>
      exact absurd (leadsTo_iff.mpr ⟨reply, h, hnext⟩) (hnowhere ⟨found.1, found.2, hop.answer⟩)

/-- **What a message has become** after the hops before: itself, or a retrieval once one of
these has turned it. -/
theorem message_eq {message : Message} {earlier later : List Hop}
    (hfirst : ∀ first ∈ (earlier ++ [hop]).head?, first.message = message)
    (h : (earlier ++ hop :: later).IsChain (LeadsTo library)) :
    hop.message = if earlier.any (turns library) then .retrieval else message := by
  induction earlier generalizing message with
  | nil => exact hfirst hop rfl
  | cons first earlier ih =>
    have hmessage : first.message = message := hfirst first rfl
    -- What the second hop carries is what the first one has made of the message.
    have hsecond : ∀ second ∈ (earlier ++ [hop]).head?,
        second.message = if first.turns library then .retrieval else message := by
      intro second hhead
      rw [← hmessage]
      cases earlier with
      | nil =>
        obtain rfl : hop = second := Option.some.inj hhead
        exact (List.isChain_cons_cons.mp h).1.message
      | cons other earlier =>
        obtain rfl : other = second := Option.some.inj hhead
        exact (List.isChain_cons_cons.mp h).1.message
    rw [ih hsecond (List.IsChain.tail h), List.any_cons]
    cases first.turns library <;> cases earlier.any (turns library) <;> rfl

end Hop

/-! ## What passes -/

/-- **What passes between a message and the service**: a chain of hops, which takes the
answers of the service in their order, and whose requests are what the service has received
more. -/
structure Service.Passes (service : Service) (library : Library) (state : Service.State)
    (hops : List Hop) (after : Service.State) : Prop where
  linked : hops.IsChain (Hop.LeadsTo library)
  answers : hops.map Hop.answer =
    (List.range hops.length).map fun i => state.answers.getD i service.otherwise
  left : after.answers = state.answers.drop hops.length
  received : after.received = state.received ++ hops.map Hop.request

/-- **What a last hop yields**, with room for so many redirects: the answer, unless it cannot
be read; and where the answer would lead on, that there are too many redirects, that this is
no address of the web, or that nobody is there. -/
inductive Hop.Yields (library : Library) (service : Service) (room : Nat) (last : Hop) :
    Except Mishap (Url × Reply) → Prop where
  | unreadable (fault : HeadFault) (read : last.reply library = .error fault) :
      Yields library service room last (.error (.noReply fault))
  | replied (reply : Reply) (read : last.reply library = .ok reply)
      (stays : ∀ next, ¬ last.LeadsTo library next) :
      Yields library service room last (.ok (last.url, reply))
  | tooMany (next : Hop) (leads : last.LeadsTo library next) (full : room = 0) :
      Yields library service room last (.error .tooManyRedirects)
  | offWeb (next : Hop) (leads : last.LeadsTo library next) (more : room ≠ 0)
      (foreign : ¬ isWeb next.url) : Yields library service room last (.error .offWeb)
  | astray (next : Hop) (leads : last.LeadsTo library next) (more : room ≠ 0)
      (web : isWeb next.url) (elsewhere : Endpoint.ofUrl? next.url ≠ some service.endpoint)
      (mishap : Mishap) (nobody : mishap = .noEndpoint ∨ mishap = .noConnection .refused) :
      Yields library service room last (.error mishap)

namespace Service

variable {library : Library} {service : Service} {state after : State} {hop following : Hop}
  {hops : List Hop}

/-- The service after it has answered a request. -/
def next (state : State) (request : Request) : State :=
  ⟨state.answers.tail, state.received ++ [request]⟩

/-- The answers that are given next. -/
theorem map_range_succ (service : Service) (state : State) (count : Nat) :
    ((List.range (count + 1)).map fun i => state.answers.getD i service.otherwise) =
      service.answer state ::
        (List.range count).map fun i => state.answers.tail.getD i service.otherwise := by
  rw [List.range_succ_eq_map, List.map_cons, List.map_map, answer]
  cases state.answers <;> rfl

theorem Passes.one (answer : hop.answer = service.answer state) :
    service.Passes library state [hop] (Service.next state hop.request) where
  linked := .singleton hop
  answers := by
    rw [List.map_singleton, answer]
    exact (service.map_range_succ state 0).symm
  left := List.drop_one.symm
  received := rfl

theorem Passes.cons (answer : hop.answer = service.answer state)
    (leads : hop.LeadsTo library following)
    (others : service.Passes library (Service.next state hop.request) (following :: hops) after) :
    service.Passes library state (hop :: following :: hops) after where
  linked := .cons_cons leads others.linked
  answers := by
    rw [List.map_cons, answer, others.answers]
    exact (service.map_range_succ state _).symm
  left := by
    rw [others.left]
    exact List.drop_tail
  received := by
    rw [others.received, Service.next, List.append_assoc]
    rfl

end Service

/-! ## Following -/

section Follow
variable (library : Library) {service : Service}

/-- **Sending once** to the service is one hop.  Either it yields a result whatever the room
is, or it leads on and the rest is a matter of the next address. -/
theorem once_cases {url : Url} (hendpoint : Endpoint.ofUrl? url = some service.endpoint)
    (message : Message) (state : Service.State)
    (onward : Url → Message → Traffic (Except Mishap (Url × Reply))) :
    let hop : Hop := ⟨url, message, service.answer state⟩
    let ran := (once library message url onward).run service.network state
    ((∀ room, hop.Yields library service room ran.result) ∧
        ran.network = Service.next state hop.request) ∨
      ∃ url' message', (∀ answer, hop.LeadsTo library ⟨url', message', answer⟩) ∧
        let others := (onward url' message').run service.network
          (Service.next state hop.request)
        ran.result = others.result ∧ ran.network = others.network := by
  intro hop
  have hexchange : service.network.exchange service.endpoint (message.request url) state =
      (.answered (service.answer state).bytes, Service.next state hop.request) := if_pos rfl
  simp only [once, hendpoint, Traffic.run, hexchange]
  cases hreply : library.read (service.answer state).bytes with
  | error fault => exact .inl ⟨fun room => .unreadable fault hreply, rfl⟩
  | ok reply =>
    have hread : hop.reply library = .ok reply := hreply
    cases hnext : redirection? url message reply.head with
    | none =>
      have hnowhere := (hop.redirection?_eq_none_iff hread).mp hnext
      simp only [hnext]
      exact .inl ⟨fun room => .replied reply hread hnowhere, rfl⟩
    | some next =>
      simp only [hnext]
      exact .inr ⟨next.1, next.2, fun answer => Hop.leadsTo_iff.mpr ⟨reply, hread, hnext⟩,
        rfl, rfl⟩

/-- **Nobody but the service is there**: a message to another address has no effect. -/
theorem follow_run_elsewhere (redirects : Nat) {url : Url}
    (h : Endpoint.ofUrl? url ≠ some service.endpoint) (message : Message)
    (state : Service.State) :
    let ran := (follow library redirects message url).run service.network state
    (∃ mishap, (mishap = .noEndpoint ∨ mishap = .noConnection .refused) ∧
      ran.result = .error mishap) ∧ ran.network = state := by
  have honce : ∀ onward : Url → Message → Traffic (Except Mishap (Url × Reply)),
      let ran := (once library message url onward).run service.network state
      (∃ mishap, (mishap = .noEndpoint ∨ mishap = .noConnection .refused) ∧
        ran.result = .error mishap) ∧ ran.network = state := by
    intro onward
    cases hendpoint : Endpoint.ofUrl? url with
    | none =>
      simp only [once, hendpoint]
      exact ⟨⟨_, .inl rfl, rfl⟩, rfl⟩
    | some endpoint =>
      have hother : endpoint ≠ service.endpoint := fun heq => h (heq ▸ hendpoint)
      have hexchange : service.network.exchange endpoint (message.request url) state =
          (.failed .refused, state) := if_neg hother
      simp only [once, hendpoint, Traffic.run, hexchange]
      exact ⟨⟨_, .inr rfl, rfl⟩, trivial⟩
  cases redirects with
  | zero => exact honce _
  | succ redirects => exact honce _

/-- **Following redirects** is a chain of hops.  It begins with the message at its first
address, and has no more hops behind that than there are redirects to follow. -/
theorem follow_run (redirects : Nat) {url : Url}
    (hendpoint : Endpoint.ofUrl? url = some service.endpoint) (message : Message)
    (state : Service.State) :
    let first : Hop := ⟨url, message, service.answer state⟩
    let ran := (follow library redirects message url).run service.network state
    ∃ (others : List Hop) (last : Hop), (first :: others).getLast? = some last ∧
      others.length ≤ redirects ∧ service.Passes library state (first :: others) ran.network ∧
      last.Yields library service (redirects - others.length) ran.result := by
  intro first
  induction redirects generalizing url message state with
  | zero =>
    obtain ⟨hyields, hnetwork⟩ | ⟨url', message', hleads, hresult, hnetwork⟩ :=
      once_cases library hendpoint message state fun _ _ => .done (.error .tooManyRedirects)
    · simp only [follow, hnetwork]
      exact ⟨[], first, rfl, Nat.le_refl _, .one rfl, hyields _⟩
    · simp only [follow, hresult, hnetwork]
      exact ⟨[], first, rfl, Nat.le_refl _, .one rfl, .tooMany _ (hleads first.answer) rfl⟩
  | succ redirects ih =>
    obtain ⟨hyields, hnetwork⟩ | ⟨url', message', hleads, hresult, hnetwork⟩ :=
      once_cases library hendpoint message state fun next message =>
        if isWeb next then follow library redirects message next else .done (.error .offWeb)
    · simp only [follow, hnetwork]
      exact ⟨[], first, rfl, Nat.zero_le _, .one rfl, hyields _⟩
    · simp only [follow, hresult, hnetwork]
      by_cases hweb : isWeb url' = true
      · simp only [hweb, if_true]
        by_cases hthere : Endpoint.ofUrl? url' = some service.endpoint
        · obtain ⟨others, last, hlast, hlength, hpasses, hyields⟩ :=
            ih hthere message' (Service.next state first.request)
          refine ⟨_ :: others, last, ?_, Nat.succ_le_succ hlength, hpasses.cons rfl (hleads _), ?_⟩
          · rw [List.getLast?_cons_cons]
            exact hlast
          · rw [List.length_cons, Nat.add_sub_add_right]
            exact hyields
        · obtain ⟨⟨mishap, hmishap, herror⟩, hstill⟩ :=
            follow_run_elsewhere library redirects hthere message'
              (Service.next state (Hop.request ⟨url, message, service.answer state⟩))
          simp only [herror, hstill]
          exact ⟨[], first, rfl, Nat.zero_le _, .one rfl, .astray _ (hleads first.answer)
            (Nat.succ_ne_zero redirects) hweb hthere mishap hmishap⟩
      · simp only [hweb, Bool.false_eq_true, if_false]
        exact ⟨[], first, rfl, Nat.zero_le _, .one rfl,
          .offWeb _ (hleads first.answer) (Nat.succ_ne_zero redirects) hweb⟩

end Follow

end LiveRoom.Http
