import LiveRoom.Http.Exchange
import LiveRoom.Link
import LiveRoom.Payload

/-!
# The client of a service

A client knows the address of the service without the slashes at its end, and reaches
an endpoint at that address followed by the endpoint's path.  A request without a
payload has no body; a payload is sent as JSON.

What the service answers is passed on as it is, whatever its status.  Only the log
tells whether the answer has the form of a service reply.
-/

namespace LiveRoom

/-- **A client** of the service at an address. -/
structure Client where
  base : String
  deriving DecidableEq, Repr

namespace Client

/-- **The client of an address.**  Slashes at its end do not matter. -/
def ofBase (address : String) : Client :=
  ⟨String.ofList (Text.dropWhileEnd (· == '/') address.toList)⟩

/-- The address of an endpoint. -/
def urlFor (client : Client) (path : String) : String := client.base ++ path

/-- The media type of a payload. -/
def jsonType : String := "application/json"

def message (body : Option String) : Http.Message := ⟨.post, body.map fun _ => jsonType, body⟩

/-- The part of the program that entries come from. -/
def logTarget : String := "ialctl::api"

/-- The entry that a request is sent. -/
def sendingEntry (url : String) (body : Option String) : Log.Entry :=
  ⟨.info, logTarget, "sending request", [("url", .plain url), ("has_body", .flag body.isSome)]⟩

/-- The entry about an answer. -/
def answerEntry (status : Nat) (body : String) : Log.Entry :=
  match ServiceReply.ofBody? body with
  | some reply => ⟨.debug, logTarget, "service replied",
      [("status", .whole status), ("code", .whole reply.code.toInt), ("msg", .plain reply.msg)]⟩
  | none => ⟨.debug, logTarget, "service reply is not a CommonResponse",
      [("status", .whole status)]⟩

/-- What sending came to: what is logged about it, and its outcome. -/
def conclude (library : Http.Library) (address : String) :
    Except Http.SendError (Url × Http.Reply) → List Log.Entry × Except LinkError Response
  | .error error => ([], .error (.send address error.chain))
  | .ok (url, reply) =>
    match reply.body with
    | .error fault => ([], .error (.body address fault.chain))
    | .ok bytes =>
      let body := String.ofList (library.text reply.head bytes)
      ([answerEntry reply.head.status body], .ok ⟨url.text, reply.head.status, body⟩)

/-- **The delivery of a body** to a path of the service. -/
def delivery (client : Client) (library : Http.Library) (path : String)
    (body : Option String) : Http.Traffic Delivery :=
  let address := client.urlFor path
  (Http.send library (message body) address).map fun result =>
    let concluded := conclude library address result
    ⟨sendingEntry address body :: concluded.1, concluded.2⟩

/-- **The link of a client** over a network. -/
def link {τ : Type} (client : Client) (library : Http.Library) (network : Http.Network τ) :
    Link τ where
  post path body t :=
    let passed := (client.delivery library path body).run network t
    (passed.result, passed.network)

end Client

end LiveRoom
