import LiveRoom.Environment
import LiveRoom.Http.Network
import LiveRoom.Url.Parse

/-!
# Proxies

A request for an endpoint may go to a proxy instead, which then has to be told the endpoint
too.  `Network.through` is a network behind proxies.

Which proxy stands in for an endpoint is a matter of the environment (`Proxies.ofEnvironment`):
`HTTP_PROXY` or `http_proxy` names that of plain connections, `HTTPS_PROXY` or `https_proxy`
that of encrypted ones, and `ALL_PROXY` or `all_proxy` that of both.  Hosts on the list in
`NO_PROXY` or `no_proxy` have none.  In a process that answers a web server `HTTP_PROXY` may
have come from a stranger, and does not count.
-/

namespace LiveRoom.Http

/-- **The proxy that stands in for an endpoint**, if there is one. -/
abbrev Proxies := Endpoint → Option Endpoint

/-- The endpoint of a plain connection, as a URL names it. -/
def Endpoint.authority (endpoint : Endpoint) : String :=
  String.ofList endpoint.host.text ++
    if endpoint.port = 80 then "" else ":" ++ toString endpoint.port

/-- **A request for an endpoint, as a proxy receives it**: with the whole URL as its target. -/
def Request.forProxy (request : Request) (endpoint : Endpoint) : Request :=
  { request with target := "http://" ++ endpoint.authority ++ request.target }

namespace Proxies

/-- **Where a request for an endpoint goes**, and what is sent there.  An encrypted connection
passes a proxy in a tunnel; that is left to the network, like the encryption. -/
def route (proxies : Proxies) (endpoint : Endpoint) (request : Request) : Endpoint × Request :=
  if endpoint.secure then (endpoint, request)
  else
    match proxies endpoint with
    | none => (endpoint, request)
    | some proxy => (proxy, request.forProxy endpoint)

theorem route_of_none {proxies : Proxies} {endpoint : Endpoint} (h : proxies endpoint = none)
    (request : Request) : proxies.route endpoint request = (endpoint, request) := by
  rw [route, h, ite_self]

/-! ## The environment -/

/-- The variables that proxies depend on. -/
def variableNames : List String :=
  ["HTTP_PROXY", "http_proxy", "HTTPS_PROXY", "https_proxy", "ALL_PROXY", "all_proxy",
   "NO_PROXY", "no_proxy", "REQUEST_METHOD"]

/-- The variables that may name a proxy, the first one first. -/
def sources (environment : Environment) (secure : Bool) : List String :=
  let own :=
    if secure then ["HTTPS_PROXY", "https_proxy"]
    else if (environment.bytes? "REQUEST_METHOD").isSome then []
    else ["HTTP_PROXY", "http_proxy"]
  own ++ ["ALL_PROXY", "all_proxy"]

/-- The proxy at an address.  One without a scheme is plain. -/
def named? (address : String) : Option Endpoint :=
  let plain : Option Url := (Url.parse ("http://" ++ address)).toOption
  let read : Option Url :=
    match Url.parse address with
    | .ok url => if url.hasHost then some url else plain
    | .error .noBase => plain
    | .error _ => none
  if Text.trimmed address = "" then none else (read.filter isWeb).bind Endpoint.ofUrl?

/-! ## Exceptions -/

/-- The bits of an address of version four or six, as a number, and how many they are. -/
def bits? : Host → Option (Nat × Nat)
  | .name _ => none
  | .ipv4 address => some (address, 32)
  | .ipv6 pieces => some (pieces.foldl (fun value piece => value * 0x10000 + piece) 0, 128)

/-- The address in an item of the list: four bytes between dots, or one of version six. -/
def item? (text : List Char) : Option Host :=
  match (Text.pieces (· == '.') text).mapM Host.byte? with
  | some [a, b, c, d] => some (.ipv4 (((a * 256 + b) * 256 + c) * 256 + d))
  | _ => (Host.ipv6? text).map .ipv6

/-- Whether an item of the list is the address of a host or a block that holds it. -/
def holds (item : List Char) (host : Host) : Bool :=
  let address := item.takeWhile (· ≠ '/')
  match (item? address).bind bits?, bits? host with
  | some (start, width), some (number, width') =>
    let fixed? :=
      match item.dropWhile (· ≠ '/') with
      | [] => some width
      | _ :: digits => if digits = [] then none else Host.digits? 10 digits
    fixed?.any fun fixed => width = width' && fixed ≤ width &&
      start / Nat.pow 2 (width - fixed) == number / Nat.pow 2 (width - fixed)
  | _, _ => false

/-- Whether an item of the list is a name or the end of it behind a dot; a star is any name. -/
def endsName (item name : List Char) : Bool :=
  item = ['*'] || item = name || item = '.' :: name ||
    (item.head? == some '.' && item.isSuffixOf name) || ('.' :: item).isSuffixOf name

/-- Whether an item of the list covers a host. -/
def covers (host : Host) (item : List Char) : Bool :=
  match host with
  | .name name => endsName item name
  | _ => holds item host

/-- The items of the list of exceptions. -/
def exceptions (environment : Environment) : List (List Char) :=
  let list := (environment.text? "NO_PROXY").or (environment.text? "no_proxy")
  (Text.pieces (· == ',') (list.getD "").toList).map Text.trim

/-- **The proxies that an environment asks for.** -/
def ofEnvironment (environment : Environment) : Proxies := fun endpoint =>
  if (exceptions environment).any (covers endpoint.host) then none
  else ((sources environment endpoint.secure).filterMap environment.text?).findSome? named?

end Proxies

/-- **A network behind proxies.** -/
def Network.through {τ : Type} (network : Network τ) (proxies : Proxies) : Network τ where
  exchange endpoint request state :=
    let routed := proxies.route endpoint request
    network.exchange routed.1 routed.2 state

end LiveRoom.Http
