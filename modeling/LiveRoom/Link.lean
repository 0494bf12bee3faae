import LiveRoom.Log.Entry

/-!
# The way to the service

A `Link` carries one request to the service and brings back its response or the
reason why there is none.  It may keep a state, and it may write to the log while
it is at it.

A failure names the step at which it happened and the address, followed by the
causes that lie behind it, the nearest first.
-/

namespace LiveRoom

/-- **What the service answered**: the address that answered, the status, and the
body as it came. -/
structure Response where
  url : String
  status : Nat
  body : String
  deriving DecidableEq, Repr

/-- **Why a request brought no response**, with the causes behind it. -/
inductive LinkError where
  /-- It could not be sent, or no answer began. -/
  | send (url : String) (causes : List String)
  /-- The answer began, but its body could not be read. -/
  | body (url : String) (causes : List String)
  /-- There is nothing to send it with. -/
  | client (causes : List String)
  deriving DecidableEq, Repr

/-- The failure and its causes, in words. -/
def LinkError.chain : LinkError → List String
  | .send url causes => ("failed to send request to " ++ url) :: causes
  | .body url causes => ("failed to read response body from " ++ url) :: causes
  | .client causes => "failed to build HTTP client" :: causes

/-- **The outcome of one delivery**, with what was logged on the way. -/
structure Delivery where
  log : List Log.Entry
  result : Except LinkError Response

/-- **A link** with states of type `τ`: it delivers a body, if there is one, to a
path of the service. -/
structure Link (τ : Type) where
  post : (path : String) → (body : Option String) → τ → Delivery × τ

/-- An answer given in advance, which may depend on the path. -/
abbrev CannedAnswer := (path : String) → Except LinkError Response

/-- **The link that answers from a list**, in order, and when that has run out always
in the same way.  It logs nothing. -/
def Link.canned (otherwise : CannedAnswer) : Link (List CannedAnswer) where
  post path _ answers := (⟨[], answers.head?.getD otherwise path⟩, answers.tail)

end LiveRoom
