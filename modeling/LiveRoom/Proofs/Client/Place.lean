import LiveRoom.Proofs.Client
import LiveRoom.Proofs.Url.Joined

/-!
# Where a post goes

The address of an endpoint is put together from the address of the service and a path, and
nobody has read the first by then.  What is read is the whole.  So it has to be shown that the
whole leads where the address of the service alone leads, or nowhere (`Client.KeepsTo`):
whatever that address is, blanks, slashes, users, queries and fragments included.

This is so unless the address is no more than a scheme of the web and slashes
(`Client.isBareScheme`).  Such an address names no host, and the path of a command lends it
one.
-/

namespace LiveRoom

/-! ## What a place decides -/

namespace Http

variable {url other : Url}

theorem isSpecial_of_web {scheme : List Char} (h : webSchemes.contains scheme = true) :
    Url.isSpecial scheme = true ∧ scheme ≠ Url.fileScheme := by
  rw [List.contains_iff_mem] at h
  simp only [webSchemes, List.mem_cons, List.not_mem_nil, or_false] at h
  rcases h with rfl | rfl <;> decide

theorem isWeb_eq_of_samePlace (h : url.SamePlace other) : isWeb url = isWeb other := by
  rw [isWeb, isWeb, Url.hasHost, Url.hasHost, h.scheme, h.host]

/-- **Where a request goes** is told by the place of its URL. -/
theorem Endpoint.ofUrl?_eq_of_samePlace (h : url.SamePlace other) :
    Endpoint.ofUrl? url = Endpoint.ofUrl? other := by
  rw [Endpoint.ofUrl?, Endpoint.ofUrl?, Url.hasHost, Url.hasHost, h.scheme, h.host, h.port]

theorem samePlace_withoutUser (url : Url) : (withoutUser url).SamePlace url := by
  unfold withoutUser
  split <;> exact ⟨rfl, rfl, rfl⟩

variable {τ : Type} (library : Library) (network : Network τ) (message : Message) (t : τ)

/-- The first request of a message goes to its URL. -/
theorem ofUrl?_of_mem_follow (redirects : Nat) (url : Url) :
    ∀ sent ∈ ((follow library redirects message url).run network t).requests.head?,
      Endpoint.ofUrl? url = some sent.1 := by
  have honce : ∀ onward, ∀ sent ∈ ((once library message url onward).run network t).requests.head?,
      Endpoint.ofUrl? url = some sent.1 := by
    intro onward sent hsent
    unfold once at hsent
    cases hendpoint : Endpoint.ofUrl? url with
    | none =>
      rw [hendpoint] at hsent
      cases hsent
    | some endpoint =>
      rw [hendpoint] at hsent
      obtain rfl := Option.some.inj hsent
      rfl
  cases redirects <;> exact honce _

/-- **The first request of a message** goes where its address leads, which is in the web. -/
theorem exists_of_mem_send (address : String) :
    ∀ sent ∈ ((send library message address).run network t).requests.head?,
      ∃ url, Url.parse address = .ok url ∧ isWeb url ∧ Endpoint.ofUrl? url = some sent.1 := by
  intro sent hsent
  unfold send at hsent
  split at hsent
  · cases hsent
  · rename_i url hparse
    have hplace := samePlace_withoutUser url
    dsimp only at hsent
    split at hsent
    · cases hsent
    · rename_i hweb
      split at hsent
      · cases hsent
      · rw [Traffic.run_map] at hsent
        rw [Bool.not_eq_true', Bool.not_eq_false, isWeb_eq_of_samePlace hplace] at hweb
        refine ⟨url, hparse, hweb, ?_⟩
        rw [← Endpoint.ofUrl?_eq_of_samePlace hplace]
        exact ofUrl?_of_mem_follow library network message t _ _ sent hsent

/-- **A message to an address that is not of the web** is not sent. -/
theorem send_eq_of_not_web {address : String}
    (h : ∀ url, Url.parse address = .ok url → ¬ isWeb url) :
    ∃ error, send library message address = .done (.error error) := by
  unfold send
  split
  · exact ⟨_, rfl⟩
  · rename_i url hparse
    dsimp only
    rw [isWeb_eq_of_samePlace (samePlace_withoutUser url),
      Bool.eq_false_iff.mpr (h url hparse)]
    exact ⟨_, rfl⟩

end Http

/-! ## Addresses with the path of a command -/

namespace Client

/-- **An address that is no more than a scheme** of the web and slashes, in either case of
letters and with either kind of slashes.  Line breaks and the padding in front do not count. -/
def isBareScheme (base : String) : Bool :=
  match Url.scheme? (Url.kept base.toList) with
  | some (scheme, behind) => Http.webSchemes.contains scheme && behind.all Url.isSlash
  | none => false

/-- **A post to a path keeps to the place of an address**, or goes nowhere. -/
structure KeepsTo (base path : String) : Prop where
  /-- The address with the path is one of the web only if the address alone is one, of the
  same scheme, host and port. -/
  place : ∀ url, Url.parse ((ofBase base).urlFor path) = .ok url → Http.isWeb url →
    ∃ own, Url.parse base = .ok own ∧ Http.isWeb own ∧ own.SamePlace url
  /-- What goes out first goes to the endpoint that the address alone names.  Only a redirect
  leads away from there. -/
  first : ∀ (library : Http.Library) {τ : Type} (network : Http.Network τ) (t : τ)
    (body : Option String),
    ∀ sent ∈ (((ofBase base).delivery library path body).run network t).requests.head?,
      ∃ own, Url.parse base = .ok own ∧ Http.isWeb own ∧
        Http.Endpoint.ofUrl? own = some sent.1
  /-- Where the address alone is none of the web, nothing goes out and the failure says so. -/
  nowhere : (∀ own, Url.parse base = .ok own → ¬ Http.isWeb own) →
    ∀ (library : Http.Library) {τ : Type} (network : Http.Network τ) (t : τ)
      (body : Option String),
      let passed := ((ofBase base).delivery library path body).run network t
      passed.requests = [] ∧ passed.network = t ∧
        ∃ causes, passed.result.result = .error (.send ((ofBase base).urlFor path) causes)

theorem requests_delivery (client : Client) (library : Http.Library) (path : String)
    (body : Option String) {τ : Type} (network : Http.Network τ) (t : τ) :
    ((client.delivery library path body).run network t).requests =
      ((Http.send library (message body) (client.urlFor path)).run network t).requests := by
  rw [delivery, Http.Traffic.run_map]

/-- Where the addresses keep to the place, so do the requests. -/
theorem keepsTo_of_place {base path : String}
    (h : ∀ url, Url.parse ((ofBase base).urlFor path) = .ok url → Http.isWeb url →
      ∃ own, Url.parse base = .ok own ∧ Http.isWeb own ∧ own.SamePlace url) :
    KeepsTo base path := by
  refine ⟨h, fun library _ network t body sent hsent => ?_,
    fun hnone library _ network t body => ?_⟩
  · rw [requests_delivery] at hsent
    obtain ⟨url, hparse, hweb, hendpoint⟩ :=
      Http.exists_of_mem_send library network (message body) t _ sent hsent
    obtain ⟨own, hown, hownWeb, hplace⟩ := h url hparse hweb
    refine ⟨own, hown, hownWeb, ?_⟩
    rw [Http.Endpoint.ofUrl?_eq_of_samePlace hplace, hendpoint]
  · have hunsent : ∀ url, Url.parse ((ofBase base).urlFor path) = .ok url → ¬ Http.isWeb url := by
      intro url hparse hweb
      obtain ⟨own, hown, hownWeb, -⟩ := h url hparse hweb
      exact hnone own hown hownWeb
    obtain ⟨error, herror⟩ := Http.send_eq_of_not_web library (message body) hunsent
    rw [delivery, herror]
    exact ⟨rfl, rfl, _, rfl⟩

/-- The address of a client is its base without the slashes at the end. -/
theorem exists_toList_eq (base : String) :
    ∃ slashes, base.toList = (ofBase base).base.toList ++ slashes ∧ ∀ c ∈ slashes, c = '/' := by
  obtain ⟨slashes, hbase, hslashes⟩ := Text.exists_append_dropWhileEnd (· == '/') base.toList
  refine ⟨slashes, ?_, fun c hc => eq_of_beq (hslashes c hc)⟩
  rw [ofBase, String.toList_ofList, ← hbase]

/-- Slashes at the end of an address do not make it more than a scheme. -/
theorem isBareScheme_ofBase (base : String) :
    isBareScheme (ofBase base).base = isBareScheme base := by
  obtain ⟨slashes, hbase, hslashes⟩ := exists_toList_eq base
  have hkept : Url.kept base.toList = Url.kept (ofBase base).base.toList ++ slashes := by
    rw [hbase, Url.kept_append fun c hc => Url.isPadding_eq_false_of_slash (hslashes c hc)]
  have hall : slashes.all Url.isSlash = true := by
    rw [List.all_eq_true]
    intro c hc
    rw [hslashes c hc]
    rfl
  rw [isBareScheme, isBareScheme, hkept,
    Url.scheme?_append (Url.plain_of_slashes fun c hc => hslashes c (List.mem_of_head? hc))]
  cases Url.scheme? (Url.kept (ofBase base).base.toList) with
  | none => rfl
  | some found => simp only [Option.map_some, List.all_append, hall, Bool.and_true]

/-- The paths of commands have one first segment. -/
theorem path_eq (command : Command) :
    command.path.toList = "/api1".toList ++ '/' :: command.path.toList.drop 6 := by
  cases command <;> decide

theorem isEndpoint_path (command : Command) : Url.IsEndpoint command.path.toList := by
  cases command <;> decide

/-- The first segment of a command's path is fit for a host. -/
theorem authority_api1 : ∀ scheme ∈ Http.webSchemes, Url.authority scheme "api1".toList =
    .ok ⟨scheme, [], [], some (.name "api1".toList), none, .segments [], none, none⟩ := by
  decide +kernel

/-- **The path of a command behind nothing but slashes** begins with a host. -/
theorem exists_afterSlashes_path {scheme : List Char} (h : Http.webSchemes.contains scheme = true)
    (command : Command) :
    ∃ url, Url.afterSlashes scheme (command.path.toList.dropWhile Url.isSlash) = .ok url ∧
      Http.isWeb url ∧ url.host = some (.name "api1".toList) := by
  obtain ⟨hspecial, hfile⟩ := Http.isSpecial_of_web h
  have hdrop : command.path.toList.dropWhile Url.isSlash =
      "api1".toList ++ '/' :: command.path.toList.drop 6 := by
    rw [path_eq command]
    rfl
  have hfront : Url.IsFront "api1".toList := by decide
  have hrest : Url.IsRest ('/' :: command.path.toList.drop 6) := by
    rintro _ ⟨⟩
    rfl
  let place : Url := ⟨scheme, [], [], some (.name "api1".toList), none, .segments [], none, none⟩
  have hplace : (place.withHostPath ('/' :: command.path.toList.drop 6)).SamePlace place :=
    Url.samePlace_withHostPath hfile _
  refine ⟨_, ?_, ?_, hplace.host⟩
  · rw [hdrop, Url.afterSlashes_append hspecial hfront hrest,
      authority_api1 scheme (List.contains_iff_mem.mp h)]
    rfl
  · rw [Http.isWeb_eq_of_samePlace hplace, Http.isWeb, h]
    rfl

section KeepsTo
variable {base : String} {url : Url}

/-- An address of the web with the path of a command leads where the address alone leads. -/
theorem exists_samePlace (h : ¬ isBareScheme base) (command : Command)
    (hparse : Url.parse ((ofBase base).urlFor command.path) = .ok url) (hweb : Http.isWeb url) :
    ∃ own, Url.parse base = .ok own ∧ Http.isWeb own ∧ own.SamePlace url := by
  obtain ⟨slashes, hbase, hslashes⟩ := exists_toList_eq base
  rw [Url.parse, urlFor, String.toList_append] at hparse
  obtain ⟨behind, hscheme⟩ := Url.exists_scheme_of_joined (isEndpoint_path command) hparse
  have hcontains : Http.webSchemes.contains url.scheme = true := (Bool.and_eq_true_iff.mp hweb).1
  obtain ⟨hspecial, hfile⟩ := Http.isSpecial_of_web hcontains
  have hbehind : ∃ c ∈ behind, Url.isSlash c = false := by
    rw [← isBareScheme_ofBase, isBareScheme, hscheme] at h
    simpa only [hcontains, Bool.true_and, List.all_eq_true, not_forall, exists_prop,
      Bool.not_eq_true] using h
  obtain ⟨own, hown, hplace⟩ := Url.samePlace_of_joined hspecial hfile hslashes
    (isEndpoint_path command) hscheme hbehind hparse
  rw [← hbase] at hown
  exact ⟨own, hown, (Http.isWeb_eq_of_samePlace hplace).trans hweb, hplace⟩

/-- **A bare scheme is no address**, and with the path of a command it is one of another
place. -/
theorem exists_of_isBareScheme (h : isBareScheme base) (command : Command) :
    Url.parse base = .error .emptyHost ∧
      ∃ url, Url.parse ((ofBase base).urlFor command.path) = .ok url ∧ Http.isWeb url ∧
        url.host = some (.name "api1".toList) := by
  obtain ⟨slashes, hbase, hslashes⟩ := exists_toList_eq base
  rw [← isBareScheme_ofBase, isBareScheme] at h
  split at h
  · rename_i scheme behind hscheme
    obtain ⟨hcontains, hbehind⟩ := Bool.and_eq_true_iff.mp h
    obtain ⟨hspecial, hfile⟩ := Http.isSpecial_of_web hcontains
    obtain ⟨hempty, hjoined⟩ := Url.joined_of_slashes hspecial hfile hslashes
      (isEndpoint_path command) hscheme (List.all_eq_true.mp hbehind)
    refine ⟨?_, ?_⟩
    · rw [Url.parse, hbase, hempty]
    · rw [Url.parse, urlFor, String.toList_append, hjoined]
      exact exists_afterSlashes_path hcontains command
  · cases h

/-- **A post to the path of a command keeps to the place of the address**, whatever text that
is, unless the address is no more than a scheme of the web.  Then the address alone is none,
for want of a host, and with the path it has the first segment of that for a host. -/
theorem keepsTo_iff_not_isBareScheme (base : String) (command : Command) :
    (KeepsTo base command.path ↔ ¬ isBareScheme base) ∧
      (isBareScheme base → Url.parse base = .error .emptyHost ∧
        ∃ url, Url.parse ((ofBase base).urlFor command.path) = .ok url ∧ Http.isWeb url ∧
          url.host = some (.name "api1".toList)) := by
  refine ⟨⟨fun hkeeps hbare => ?_, fun hbare => ?_⟩, fun hbare => ?_⟩
  · obtain ⟨hempty, url, hparse, hweb, -⟩ := exists_of_isBareScheme hbare command
    obtain ⟨own, hown, -⟩ := hkeeps.place url hparse hweb
    rw [hempty] at hown
    cases hown
  · exact keepsTo_of_place fun url hparse hweb => exists_samePlace hbare command hparse hweb
  · exact exists_of_isBareScheme hbare command

/-- An address without a host, and the request that nevertheless goes out. -/
theorem sends_to_host_of_path :
    Url.parse "http://" = .error .emptyHost ∧
      Url.parse ((ofBase "http://").urlFor "/api1/ial/stop") = .ok
        ⟨"http".toList, [], [], some (.name "api1".toList), none,
          .segments ["ial".toList, "stop".toList], none, none⟩ ∧
      (((ofBase "http://").delivery .standard "/api1/ial/stop" none).run .unreachable ()).requests =
        [(⟨false, .name "api1".toList, 80⟩, request "/ial/stop" none)] ∧
      ¬ KeepsTo "http://" "/api1/ial/stop" := by
  have hempty : Url.parse "http://" = .error .emptyHost := by decide +kernel
  have hjoined : Url.parse ((ofBase "http://").urlFor "/api1/ial/stop") = .ok
      ⟨"http".toList, [], [], some (.name "api1".toList), none,
        .segments ["ial".toList, "stop".toList], none, none⟩ := by decide +kernel
  refine ⟨hempty, hjoined, by decide +kernel, fun hkeeps => ?_⟩
  obtain ⟨own, hown, -⟩ := hkeeps.place _ hjoined (by decide)
  rw [hempty] at hown
  cases hown

end KeepsTo

end Client

end LiveRoom
