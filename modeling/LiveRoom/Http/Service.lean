import LiveRoom.Http.Body
import LiveRoom.Http.Network

/-!
# A service that answers from a list

The service listens at one endpoint of the network and keeps the requests it receives.
It answers them from a list, in order, and when that has run out always in the same
way.  Nothing else listens anywhere.

An answer is well formed (`Answer.reply`), with a length that may be announced too
large, or it is any bytes at all (`Answer.raw`), which may be none.  `IsPlain` says which
well-formed answers nobody can fail to read as they are meant.
-/

namespace LiveRoom.Http

/-- **What the service answers.** -/
inductive Answer where
  /-- An answer whose length is announced so many bytes too large. -/
  | reply (status : Nat) (headers : List (String × String)) (body : List UInt8) (missing : Nat)
  | raw (bytes : List UInt8)
  deriving DecidableEq, Repr

/-- A line of an answer. -/
def Answer.line (text : String) : List UInt8 := Utf8.encode text.toList ++ [0x0D, 0x0A]

/-- The headers with those that the service adds. -/
def writtenHeaders (headers : List (String × String)) (length : Nat) : List (String × String) :=
  headers ++ [("Connection", "close"), ("Content-Length", toString length)]

/-- The bytes in front of the body of an answer. -/
def Answer.headBytes (status : Nat) (headers : List (String × String)) (length : Nat) :
    List UInt8 :=
  line ("HTTP/1.1 " ++ toString status ++ " ") ++
    (writtenHeaders headers length).flatMap (fun header => line (header.1 ++ ": " ++ header.2)) ++
    line ""

/-- The bytes of an answer. -/
def Answer.bytes : Answer → List UInt8
  | .reply status headers body missing => headBytes status headers (body.length + missing) ++ body
  | .raw bytes => bytes

/-- **A service**: where it listens, and how it answers when its list has run out. -/
structure Service where
  endpoint : Endpoint
  otherwise : Answer

/-- What a service still has to answer, and what it has received so far. -/
structure Service.State where
  answers : List Answer
  received : List Request
  deriving DecidableEq, Repr

namespace Service

/-- The service takes a request and answers it. -/
def receive (service : Service) (request : Request) (state : State) : Connection × State :=
  (.answered (state.answers.head?.getD service.otherwise).bytes,
    ⟨state.answers.tail, state.received ++ [request]⟩)

/-- **The network on which only the service listens.** -/
def network (service : Service) : Network State where
  exchange endpoint request state :=
    if endpoint = service.endpoint then service.receive request state
    else (.failed .refused, state)

end Service

/-! ## Answers as they are meant -/

/-- A header as it is meant: its name in lower case, its value without the blanks around it. -/
def Header.ofTexts (name value : String) : Header :=
  ⟨(Utf8.encode name.toList).map lowerByte, Head.stripped (Utf8.encode value.toList)⟩

/-- **The head of an answer** as it is meant. -/
def writtenHead (status : Nat) (headers : List (String × String)) (length : Nat) : Head :=
  ⟨false, status, (writtenHeaders headers length).map fun header =>
    Header.ofTexts header.1 header.2⟩

/-- **A legible header**: a name of the bytes that may stand in one, not too many of them, and
free text. -/
structure IsLegible (header : String × String) : Prop where
  name_ne : header.1 ≠ ""
  name : ∀ byte ∈ Utf8.encode header.1.toList, Head.isNameByte byte
  name_short : (Utf8.encode header.1.toList).length < Nat.pow 2 16
  value : ∀ byte ∈ Utf8.encode header.2.toList, Head.isTextByte byte

/-- **A plain answer**: its status ends the wait for one, its headers are legible and leave the
framing of the body alone, and there is not too much of anything. -/
structure IsPlain (status : Nat) (headers : List (String × String)) (length : Nat) : Prop where
  status_ge : 200 ≤ status
  status_le : status ≤ 999
  legible : ∀ header ∈ headers, IsLegible header
  unframed : ∀ header ∈ headers, ∀ name ∈ ["content-length", "transfer-encoding"],
    (Utf8.encode header.1.toList).map lowerByte ≠ ascii name
  /-- With the two that the service adds there are no more than a hundred headers. -/
  few : headers.length ≤ 98
  short : (Answer.headBytes status headers length).length ≤ 400000
  length_le : length ≤ longestBody

end LiveRoom.Http
