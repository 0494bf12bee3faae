import LiveRoom.Http.Library

/-!
# Sending a message

A message is sent to an address of the web, and where the answer points to another
address the message follows it there, as often as the library does that.  After the statuses
301 to 303 it goes on as a request for the new address without a body, after 307 and 308 as
it was.  An answer that names no other address, or none that can stand in a request, is the
answer to the message, whatever its status.  An address that is not one of the web ends the
way of the message.

The name and password in the first address are not part of it where it is reported.
-/

namespace LiveRoom.Http

/-- **What is sent**, wherever it goes. -/
structure Message where
  method : Method
  contentType : Option String
  body : Option String
  deriving DecidableEq, Repr

/-- The message that asks for what is at an address. -/
def Message.retrieval : Message := ⟨.get, none, none⟩

/-- The request that brings a message to a URL. -/
def Message.request (message : Message) (url : Url) : Request :=
  ⟨message.method, String.ofList url.target, message.contentType, message.body⟩

/-! ## Failures -/

/-- **What can happen to a message on its way.** -/
inductive Mishap where
  | noEndpoint
  | noConnection (error : ConnectError)
  | noReply (fault : HeadFault)
  | tooManyRedirects
  | offWeb
  deriving DecidableEq, Repr

/-- The mishap and the causes behind it, in words. -/
def Mishap.chain : Mishap → List String
  | .noEndpoint => ["client requires absolute-form URIs"]
  | .noConnection error =>
    ("error trying to connect: " ++ error.chain.headD "") :: error.chain
  | .noReply fault => [fault.message]
  | .tooManyRedirects => ["too many redirects"]
  | .offWeb => ["URL scheme is not allowed"]

/-- **Why sending brought no answer.** -/
inductive SendError where
  /-- The text is no address. -/
  | malformed (error : UrlError)
  /-- The address is not one of the web. -/
  | notWeb (url : Url)
  /-- The address cannot stand in a request. -/
  | unfit (url : Url)
  /-- The message was on its way, from this first address. -/
  | underway (first : Url) (mishap : Mishap)
  deriving DecidableEq, Repr

/-- A failure on top of its causes; its own words repeat the nearest cause. -/
def blame (what : String) (causes : List String) : List String :=
  (what ++ ": " ++ causes.headD "") :: causes

/-- What failed, with the address that it was about. -/
def about (what : String) (url : Url) : String := what ++ " for url (" ++ url.text ++ ")"

/-- The failure and the causes behind it, in words. -/
def SendError.chain : SendError → List String
  | .malformed error => blame "builder error" [error.message]
  | .notWeb url => blame (about "builder error" url) Mishap.offWeb.chain
  | .unfit url => blame (about "builder error" url) ["Parsed Url is not a valid Uri"]
  | .underway first .tooManyRedirects =>
    blame (about "error following redirect" first) Mishap.tooManyRedirects.chain
  | .underway first .offWeb => blame (about "builder error" first) Mishap.offWeb.chain
  | .underway first mishap => blame (about "error sending request" first) mishap.chain

/-- The failure to read a body and the causes behind it, in words. -/
def BodyFault.chain (fault : BodyFault) : List String :=
  blame "request or response body error" <|
    blame "error reading a body from connection" [fault.message]

/-! ## Addresses -/

/-- Whether a character may stand in a host as requests name it. -/
def isHostChar (c : Char) : Bool := c.isAlphanum || "!$&'()*+,-.;=_~".contains c

/-- The longest address that a request may have. -/
def longestAddress : Nat := 65534

/-- **Whether a URL can stand in a request.**  Names are held to fewer characters there
than in a URL, and an address without a host has to look like a host and a port. -/
def isFit (url : Url) : Bool :=
  url.chars.length ≤ longestAddress &&
    match url.host with
    | some (.name []) => false
    | some (.name name) => name.all isHostChar
    | some _ => true
    | none => url.query.isNone && url.fragment.isNone &&
        (Url.pathText url.path).all fun c => isHostChar c || c == '@'

/-- Whether percent-encoded text stands for UTF-8. -/
def isText (encoded : List Char) : Bool :=
  (Utf8.decode? (Url.percentDecode (Utf8.encode encoded))).isSome

/-- A URL without its name and password.  Names that are no text stay. -/
def withoutUser (url : Url) : Url :=
  if isText url.user && (url.user ≠ [] || isText url.password) then
    { url with user := [], password := [] }
  else url

/-! ## Following redirects -/

/-- How a message goes on after a status, if the status sends it on. -/
def Message.after? (message : Message) (status : Nat) : Option Message :=
  if status = 301 ∨ status = 302 ∨ status = 303 then some .retrieval
  else if status = 307 ∨ status = 308 then some message
  else none

/-- The address that an answer names. -/
def Head.location? (head : Head) : Option String :=
  ((head.values "location").head?.bind Utf8.decode?).map String.ofList

/-- **Where an answer sends a message**, and how it goes on. -/
def redirection? (url : Url) (message : Message) (head : Head) : Option (Url × Message) :=
  (message.after? head.status).bind fun message =>
    head.location?.bind fun location =>
      ((url.join location).toOption.filter isFit).map fun next => (next, message)

/-- **Sends a message** to a URL once.  An answer comes with the URL that gave it,
unless it sends the message onward. -/
def once (library : Library) (message : Message) (url : Url)
    (onward : Url → Message → Traffic (Except Mishap (Url × Reply))) :
    Traffic (Except Mishap (Url × Reply)) :=
  match Endpoint.ofUrl? url with
  | none => .done (.error .noEndpoint)
  | some endpoint => .exchange endpoint (message.request url) fun
    | .failed error => .done (.error (.noConnection error))
    | .answered bytes =>
      match library.read bytes with
      | .error fault => .done (.error (.noReply fault))
      | .ok reply =>
        match redirection? url message reply.head with
        | none => .done (.ok (url, reply))
        | some (next, message) => onward next message

/-- **Sends a message** to a URL and follows so many redirects. -/
def follow (library : Library) :
    (redirects : Nat) → Message → Url → Traffic (Except Mishap (Url × Reply))
  | 0, message, url => once library message url fun _ _ => .done (.error .tooManyRedirects)
  | redirects + 1, message, url => once library message url fun next message =>
    if isWeb next then follow library redirects message next else .done (.error .offWeb)

/-- **Sends a message** to the address that a text gives. -/
def send (library : Library) (message : Message) (address : String) :
    Traffic (Except SendError (Url × Reply)) :=
  match Url.parse address with
  | .error error => .done (.error (.malformed error))
  | .ok url =>
    let first := withoutUser url
    if !isWeb first then .done (.error (.notWeb first))
    else if !isFit first then .done (.error (.unfit first))
    else (follow library library.redirects message first).map fun result =>
      result.mapError (.underway first)

end LiveRoom.Http
