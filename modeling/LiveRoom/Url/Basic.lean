import LiveRoom.Url.Host

/-!
# URLs

A URL has a scheme, perhaps a host with a port and the name of a user, a path, and
perhaps a query and a fragment.  All parts are kept as they are written, that is
lower-cased, percent-encoded and with dot segments resolved, so writing a URL
(`Url.text`) only puts them together.

Some schemes are **special**: their URLs always have a host, their backslashes
count as slashes, and the default port of the scheme is left out.
-/

namespace LiveRoom

/-- The path of a URL: segments, each after a slash, or one piece of text. -/
inductive UrlPath where
  | segments (parts : List (List Char))
  | whole (text : List Char)
  deriving DecidableEq, Repr

/-- **A URL** in its parts. -/
structure Url where
  scheme : List Char
  user : List Char := []
  /-- The password; an empty one is none. -/
  password : List Char := []
  host : Option Host := none
  /-- The port, unless it is the scheme's own. -/
  port : Option Nat := none
  path : UrlPath
  query : Option (List Char) := none
  fragment : Option (List Char) := none
  deriving DecidableEq, Repr

namespace Url

/-- The special schemes with their ports; that of files has none. -/
def specialSchemes : List (String × Option Nat) :=
  [("http", some 80), ("https", some 443), ("ws", some 80), ("wss", some 443),
   ("ftp", some 21), ("file", none)]

/-- Whether a scheme is special. -/
def isSpecial (scheme : List Char) : Bool :=
  specialSchemes.any fun entry => entry.1.toList = scheme

/-- The scheme of files. -/
def fileScheme : List Char := ['f', 'i', 'l', 'e']

/-- The port that a scheme implies. -/
def defaultPort? (scheme : List Char) : Option Nat :=
  (specialSchemes.find? fun entry => entry.1.toList = scheme).bind (·.2)

/-- Whether a URL names a host. -/
def hasHost (url : Url) : Bool :=
  match url.host with
  | none => false
  | some (.name []) => false
  | some _ => true

/-! ## Writing -/

/-- The text of a path. -/
def pathText : UrlPath → List Char
  | .segments parts => parts.flatMap fun part => '/' :: part
  | .whole text => text

/-- The name and password of a user in front of a host. -/
def userText (url : Url) : List Char :=
  if url.user = [] && url.password = [] then []
  else url.user ++ (if url.password = [] then [] else ':' :: url.password) ++ ['@']

/-- What stands between the scheme and the path. -/
def hostText (url : Url) : List Char :=
  match url.host with
  | some host =>
    '/' :: '/' :: url.userText ++ host.text ++
      (match url.port with
        | some port => ':' :: Nat.toDigits 10 port
        | none => [])
  | none =>
    -- Without this a path that starts with an empty segment would read as a host.
    match url.path with
    | .segments ([] :: _ :: _) => ['/', '.']
    | _ => []

/-- A query behind its question mark. -/
def queryText : Option (List Char) → List Char
  | some query => '?' :: query
  | none => []

/-- A fragment behind its number sign. -/
def fragmentText : Option (List Char) → List Char
  | some fragment => '#' :: fragment
  | none => []

/-- **The text of a URL.** -/
def chars (url : Url) : List Char :=
  url.scheme ++ ':' :: url.hostText ++ pathText url.path ++ queryText url.query ++
    fragmentText url.fragment

/-- The text of a URL, as a string. -/
def text (url : Url) : String := String.ofList url.chars

/-- **The target of a request**: path and query, but not the fragment. -/
def target (url : Url) : List Char := pathText url.path ++ queryText url.query

end Url

end LiveRoom
