import LiveRoom.Url.Basic

/-!
# The network

A request goes out over a connection to an endpoint, and what comes back is the bytes
until the connection ends, or the reason why there was no connection.  A `Network` is
anything that does this.  Each connection carries one request.

What is asked of a network may depend on what it gave before.  `Traffic` is a finite
plan for such requests.  `Traffic.run` carries it out on a network and tells which
requests were made; `Traffic.perform` carries it out with an action of any kind.
-/

namespace LiveRoom.Http

/-- What a request wants. -/
inductive Method where
  | get
  | post
  deriving DecidableEq, Repr

/-- The name of a method. -/
def Method.name : Method → String
  | .get => "GET"
  | .post => "POST"

/-- **A request** as the service receives it. -/
structure Request where
  method : Method
  target : String
  contentType : Option String
  body : Option String
  deriving DecidableEq, Repr

/-- **Where a connection goes.** -/
structure Endpoint where
  secure : Bool
  host : Host
  port : Nat
  deriving DecidableEq, Repr

/-- The schemes of the web. -/
def webSchemes : List (List Char) := ["http".toList, "https".toList]

/-- Whether a URL is an address of the web. -/
def isWeb (url : Url) : Bool := webSchemes.contains url.scheme && url.hasHost

/-- Where a request for a URL goes. -/
def Endpoint.ofUrl? (url : Url) : Option Endpoint :=
  let secure := url.scheme = "https".toList
  if url.hasHost then
    url.host.map fun host => ⟨secure, host, url.port.getD (if secure then 443 else 80)⟩
  else none

/-- Where a connection goes, as a request names it. -/
def Endpoint.text (endpoint : Endpoint) : String :=
  String.ofList endpoint.host.text ++ ":" ++ toString endpoint.port

/-- **The bytes of a request** to an endpoint, which is asked to end the connection
after its answer. -/
def Request.bytes (request : Request) (endpoint : Endpoint) : List UInt8 :=
  let body := Utf8.encode (request.body.getD "").toList
  let header (name value : String) : String := name ++ ": " ++ value ++ "\r\n"
  let type := (request.contentType.map (header "content-type")).getD ""
  let length := if request.method = .post then header "content-length" (toString body.length)
    else ""
  let head := request.method.name ++ " " ++ request.target ++ " HTTP/1.1\r\n" ++
    type ++ header "accept" "*/*" ++ header "host" endpoint.text ++ length ++
    header "connection" "close" ++ "\r\n"
  Utf8.encode head.toList ++ body

/-- **Why there is no connection.** -/
inductive ConnectError where
  | refused
  | unreachable
  | unknownName
  /-- Anything else, in the system's words. -/
  | other (message : String)
  deriving DecidableEq, Repr

/-- The failure to connect and the causes behind it, in words. -/
def ConnectError.chain : ConnectError → List String
  | .refused => overTcp "Connection refused (os error 111)"
  | .unreachable => overTcp "Network is unreachable (os error 101)"
  | .unknownName =>
    let why := "failed to lookup address information: Temporary failure in name resolution"
    ["dns error: " ++ why, why]
  | .other message => overTcp message
where
  /-- A cause at the level of the transport. -/
  overTcp (why : String) : List String := ["tcp connect error: " ++ why, why]

/-- **What comes of a connection.** -/
inductive Connection where
  | failed (error : ConnectError)
  /-- All bytes that came back. -/
  | answered (bytes : List UInt8)
  deriving DecidableEq, Repr

/-- **A network** with states of type `τ`. -/
structure Network (τ : Type) where
  exchange : Endpoint → Request → τ → Connection × τ

/-- **The network without any way out.**  It knows no name but that of the machine. -/
def Network.unreachable : Network Unit where
  exchange endpoint _ state :=
    match endpoint.host with
    | .name name =>
      (.failed (if .name name = Host.localHost then .unreachable else .unknownName), state)
    | _ => (.failed .unreachable, state)

/-- **A plan for requests**, each of which may depend on the answers before. -/
inductive Traffic (α : Type) where
  | done (result : α)
  | exchange (endpoint : Endpoint) (request : Request) (next : Connection → Traffic α)

/-- **Traffic that has passed**: the requests in order, the result, and the state of
the network afterwards. -/
structure Passage (τ α : Type) where
  requests : List (Endpoint × Request)
  result : α
  network : τ

namespace Traffic

variable {τ α β : Type}

/-- Traffic with something made of its result. -/
def map (f : α → β) : Traffic α → Traffic β
  | done result => done (f result)
  | exchange endpoint request next => exchange endpoint request fun connection =>
    (next connection).map f

/-- **Carries out traffic** with the state of a network. -/
def run (network : Network τ) : Traffic α → τ → Passage τ α
  | done result, t => ⟨[], result, t⟩
  | exchange endpoint request next, t =>
    let came := network.exchange endpoint request t
    let others := (next came.1).run network came.2
    { others with requests := (endpoint, request) :: others.requests }

/-- **Carries out traffic** with an action. -/
def perform {m : Type → Type} [Monad m] (act : Endpoint → Request → m Connection) :
    Traffic α → m α
  | done result => pure result
  | exchange endpoint request next => do
    let connection ← act endpoint request
    (next connection).perform act

end Traffic

end LiveRoom.Http
