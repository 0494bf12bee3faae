import LiveRoom.Http.Charset
import LiveRoom.Http.Proxy
import LiveRoom.Http.Service

/-!
# The library that speaks HTTP

A client leaves some things to the library that it sends its messages with: how the bytes of an
answer are read, what text a body has, how often a redirect is followed, and which proxies the
environment asks for.  A `Library` is anything that decides these.  `Library.standard` is the one
that the program runs with; it reads answers as `Reply.ofBytes` does and knows the charsets of
`Charset`.

What a client relies on is said in `Library.Lawful`.  It is far from all that there is to HTTP,
and libraries that abide by it still differ, in the charsets that they know, say.
-/

namespace LiveRoom.Http

/-- **What is left to the library.** -/
structure Library where
  /-- Reads the bytes that came over a connection. -/
  read : List UInt8 → Except HeadFault Reply
  /-- The text of the body behind a head. -/
  text : Head → List UInt8 → List Char
  /-- How many redirects of a message are followed. -/
  redirects : Nat
  /-- The proxies that variables ask for. -/
  proxies : Environment → Proxies

namespace Library

/-- The proxies of a process.  They depend on no other variables than those that are about
proxies. -/
def proxiesIn (library : Library) (environment : Environment) : Proxies :=
  library.proxies (environment.only Proxies.variableNames)

/-- **The library that the program runs with.** -/
def standard : Library where
  read := Reply.ofBytes
  text head := (Charset.ofHead head).decode
  redirects := 10
  proxies := Proxies.ofEnvironment

/-- **What a client relies on** in a library. -/
structure Lawful (library : Library) : Prop where
  /-- A connection that is closed at once is no answer. -/
  read_nil : library.read [] = .error .closed
  /-- A plain answer is read as it is meant: its status, its headers and its body, unless bytes
  of this are missing.  After the statuses 204 and 304 there is none. -/
  read_reply : ∀ {status : Nat} {headers : List (String × String)} {body : List UInt8}
    {missing : Nat}, IsPlain status headers (body.length + missing) →
      library.read (Answer.reply status headers body missing).bytes =
        .ok ⟨writtenHead status headers (body.length + missing),
          if status = 204 ∨ status = 304 then .ok []
          else if missing = 0 then .ok body else .error .short⟩
  /-- A body is UTF-8, unless a byte order mark or a parameter of the media type says
  otherwise. -/
  text_encode : ∀ {head : Head} {content : List Char},
    (∀ value ∈ head.values "content-type", 0x3B ∉ value) → content.head? ≠ some '\uFEFF' →
      library.text head (Utf8.encode content) = content
  /-- No more than ten redirects are followed. -/
  redirects_le : library.redirects ≤ 10

end Library

end LiveRoom.Http
