import LiveRoom.Text.Blank
import LiveRoom.Text.Numeral
import LiveRoom.Url.Basic

/-!
# Reading URLs

Reading is lenient.  Blanks around the text and line breaks inside it are dropped,
letters of the scheme and of a name are lower-cased, a special scheme may be
followed by any number of slashes, and dot segments are resolved.  What cannot be
repaired is a `UrlError`.

A text without a scheme is relative.  It has a meaning only next to another URL
(`Url.join`), of which it replaces a part from some point on: everything from the
host, the path or its last segment, the query, or the fragment.
-/

namespace LiveRoom.Url

/-! ## Characters and pieces -/

/-- Whether a character is dropped wherever it stands. -/
def isBreak (c : Char) : Bool := c == '\t' || c == '\n' || c == '\r'

/-- Whether a character is dropped at the ends. -/
def isPadding (c : Char) : Bool := c.toNat ≤ 0x20

/-- A text without its padding and line breaks. -/
def cleaned (text : List Char) : List Char :=
  (Text.dropWhileEnd isPadding (text.dropWhile isPadding)).filter fun c => !isBreak c

/-- Whether a character may stand in a scheme. -/
def isSchemeChar (c : Char) : Bool := c.isAlphanum || c == '+' || c == '-' || c == '.'

/-- A scheme and what follows its colon. -/
def scheme? (text : List Char) : Option (List Char × List Char) :=
  let name := text.takeWhile isSchemeChar
  match text.dropWhile isSchemeChar with
  | ':' :: rest =>
    if name.head?.any Char.isAlpha then some (name.map Char.toLower, rest) else none
  | _ => none

/-- A slash, or a backslash. -/
def isSlash (c : Char) : Bool := c == '/' || c == '\\'

/-- Whether a character separates the segments of a path. -/
def isSeparator (special : Bool) (c : Char) : Bool := c == '/' || (special && c == '\\')

/-- Whether a character begins the query or the fragment. -/
def isMark (c : Char) : Bool := c == '?' || c == '#'

/-- Whether a character ends the part of a URL that names the host. -/
def endsAuthority (special : Bool) (c : Char) : Bool := isSeparator special c || isMark c

/-- The query and the fragment, each if there is one. -/
def tail (special : Bool) : List Char → Option (List Char) × Option (List Char)
  | '?' :: text =>
    let query := some (percentEncode (querySet special) (text.takeWhile (· ≠ '#')))
    match text.dropWhile (· ≠ '#') with
    | _ :: fragment => (query, some (percentEncode fragmentSet fragment))
    | [] => (query, none)
  | '#' :: fragment => (none, some (percentEncode fragmentSet fragment))
  | _ => (none, none)

/-! ## Paths -/

/-- The text of a segment with its encoded dots decoded, if it is nothing but dots. -/
def dots : List Char → Option Nat
  | [] => some 0
  | '.' :: text => (dots text).map (· + 1)
  | '%' :: '2' :: 'e' :: text => (dots text).map (· + 1)
  | '%' :: '2' :: 'E' :: text => (dots text).map (· + 1)
  | _ => none

/-- Whether a text is the name of a drive: a letter and a colon, or a bar. -/
def isDrive : List Char → Bool
  | [letter, mark] => letter.isAlpha && (mark == ':' || mark == '|')
  | _ => false

/-- Whether a segment stands for a drive, perhaps with more behind a backslash. -/
def namesDrive (segment : List Char) : Bool :=
  isDrive (segment.takeWhile (· ≠ '\\'))

/-- One step up from the nearest of the segments that are there.  There is no way up
from a drive. -/
def up : List (List Char) → List (List Char)
  | [] => []
  | nearest :: behind => if namesDrive nearest then nearest :: behind else behind

/-- **Resolves segments** behind those that are there, the nearest of them first: a dot
stays, two dots go up.  The last segment stands for a place and not for a step, so dots
there leave an empty segment. -/
def resolve (behind : List (List Char)) : List (List Char) → List (List Char)
  | [] => behind.reverse
  | [last] =>
    if dots last = some 1 then ([] :: behind).reverse
    else if dots last = some 2 then ([] :: up behind).reverse
    else (percentEncode pathSet last :: behind).reverse
  | part :: others =>
    if dots part = some 1 then resolve behind others
    else if dots part = some 2 then resolve (up behind) others
    else resolve (percentEncode pathSet part :: behind) others

/-- The path of a file has no empty segments in front. -/
def withoutEmptyFront : List (List Char) → List (List Char)
  | [] :: part :: others => withoutEmptyFront (part :: others)
  | parts => parts

/-- A URL with the segments of its path.  The path of a file may begin with a drive, which
is written with a colon, and then there is no host. -/
def withSegments (url : Url) (parts : List (List Char)) : Url :=
  if url.scheme = fileScheme then
    if parts.head?.any isDrive then
      { url with
        host := some (.name [])
        path := .segments (parts.modifyHead fun drive => drive.take 1 ++ [':']) }
    else { url with path := .segments (withoutEmptyFront parts) }
  else { url with path := .segments parts }

/-- A URL with a path that continues the segments that are there, and with what
follows the path. -/
def withPath (url : Url) (done : List (List Char)) (text : List Char) : Url :=
  let special := isSpecial url.scheme
  let parts := resolve done.reverse <|
    Text.pieces (isSeparator special) (text.takeWhile fun c => !isMark c)
  let rest := tail special (text.dropWhile fun c => !isMark c)
  { url.withSegments parts with query := rest.1, fragment := rest.2 }

/-- A URL with the path that follows its host. -/
def withHostPath (url : Url) (text : List Char) : Url :=
  let special := isSpecial url.scheme
  match text with
  | [] => if special then url.withPath [] [] else { url with path := .segments [] }
  | c :: rest =>
    if isSeparator special c then url.withPath [] rest
    else if isMark c && !special then
      let rest := tail special (c :: rest)
      { url with path := .segments [], query := rest.1, fragment := rest.2 }
    else url.withPath [] (c :: rest)

/-! ## Users, hosts and ports -/

/-- What stands before and behind the last occurrence of a character. -/
def splitLast (separator : Char) : List Char → Option (List Char × List Char)
  | [] => none
  | c :: text =>
    match splitLast separator text with
    | some (front, back) => some (c :: front, back)
    | none => if c = separator then some ([], text) else none

/-- The text of a host and what follows it.  A colon ends it, except in brackets. -/
def hostSpan (special : Bool) : (inside : Bool) → List Char → List Char × List Char
  | _, [] => ([], [])
  | inside, c :: text =>
    if (c == ':' && !inside) || endsAuthority special c then ([], c :: text)
    else
      let others := hostSpan special (c == '[' || (inside && c != ']')) text
      (c :: others.1, others.2)

/-- **The port** behind a colon, and what follows it.  The scheme's own port is none. -/
def portSpan (scheme text : List Char) : Except UrlError (Option Nat × List Char) :=
  let digits := text.takeWhile Char.isDigit
  let rest := text.dropWhile Char.isDigit
  let number := Text.numeralValue digits
  if 65535 < number || rest.head?.any (fun c => !(isSlash c || isMark c)) then
    .error .invalidPort
  else if digits = [] || some number = defaultPort? scheme then .ok (none, rest)
  else .ok (some number, rest)

/-- **What follows the slashes in front of a host**: perhaps a user, the host, perhaps
a port, and the rest. -/
def afterSlashes (scheme text : List Char) : Except UrlError Url :=
  let special := isSpecial scheme
  let front := text.takeWhile fun c => !endsAuthority special c
  let rest := text.dropWhile fun c => !endsAuthority special c
  let (user, located) := match splitLast '@' front with
    | some (user, located) => (some user, located ++ rest)
    | none => (none, text)
  if user = some [] && located.head?.any (endsAuthority special) then .error .emptyHost
  else
    let userinfo := user.getD []
    let name := percentEncode userSet (userinfo.takeWhile (· ≠ ':'))
    let password := percentEncode userSet ((userinfo.dropWhile (· ≠ ':')).drop 1)
    let span := hostSpan special false located
    if span.1 = [] &&
        (special || span.2.head? == some ':' || name ≠ [] || password ≠ []) then
      .error .emptyHost
    else do
      let host ← if special then Host.parse span.1 else Host.parseFree span.1
      let (port, rest) ← match span.2 with
        | ':' :: rest => portSpan scheme rest
        | rest => .ok (none, rest)
      let url : Url :=
        ⟨scheme, name, password, some host, port, .segments [], none, none⟩
      return url.withHostPath rest

/-- A text behind its first slash, if it begins with one. -/
def behindSlash : List Char → List Char
  | [] => []
  | c :: text => if isSlash c then text else c :: text

/-- **A file**: what follows the colon.  A host stands behind two slashes; the local
one is left out, and a drive in its place begins the path.  A slash in front of a path
that follows two others is a segment of its own, until the path is done. -/
def fileUrl (text : List Char) : Except UrlError Url :=
  let url : Url := ⟨fileScheme, [], [], some (.name []), none, .segments [], none, none⟩
  match text with
  | first :: second :: located =>
    if isSlash first && isSlash second then
      let name := located.takeWhile fun c => !endsAuthority true c
      let rest := located.dropWhile fun c => !endsAuthority true c
      if isDrive name then .ok (url.withPath [] located)
      else if name = [] then .ok (url.withPath [] rest)
      else do
        let host ← Host.parse name
        if host = Host.localHost then return url.withPath [] rest
        else return Url.withHostPath { url with host := some host } rest
    else .ok (url.withPath [] (behindSlash text))
  | _ => .ok (url.withPath [] (behindSlash text))

/-! ## Whole URLs -/

/-- **A text next to another URL**, which it replaces from some point on. -/
def relative (base : Url) (text : List Char) : Except UrlError Url :=
  match base.path, text with
  | _, '#' :: fragment =>
    .ok { base with fragment := some (percentEncode fragmentSet fragment) }
  | .whole _, _ => .error .noRelative
  | .segments _, [] => .ok { base with fragment := none }
  | .segments parts, c :: rest =>
    if c = '?' then
      let rest := tail (isSpecial base.scheme) (c :: rest)
      .ok { base with query := rest.1, fragment := rest.2 }
    else if isSlash c then
      match rest with
      | '/' :: located =>
        afterSlashes base.scheme (if c = '/' then located else located.dropWhile isSlash)
      | '\\' :: located => afterSlashes base.scheme (located.dropWhile isSlash)
      | _ => .ok (base.withPath [] rest)
    else .ok (base.withPath parts.dropLast (c :: rest))

/-- What follows the scheme and its colon.  A special scheme next to a URL of that
scheme need not be followed by two slashes to be relative. -/
def afterScheme (base : Option Url) (scheme text : List Char) : Except UrlError Url :=
  if scheme = fileScheme then fileUrl text
  else if isSpecial scheme then
    let located := text.dropWhile isSlash
    match base with
    | some base =>
      if (text.takeWhile isSlash).length < 2 && base.scheme = scheme then relative base text
      else afterSlashes scheme located
    | none => afterSlashes scheme located
  else
    let url : Url := ⟨scheme, [], [], none, none, .segments [], none, none⟩
    match text with
    | '/' :: '/' :: located => afterSlashes scheme located
    | '/' :: rest => .ok (url.withPath [] rest)
    | _ =>
      let rest := tail false (text.dropWhile fun c => !isMark c)
      .ok { url with
        path := .whole (percentEncode controlSet (text.takeWhile fun c => !isMark c))
        query := rest.1
        fragment := rest.2 }

/-- A text, perhaps next to another URL. -/
def parseNextTo (base : Option Url) (text : List Char) : Except UrlError Url :=
  let text := cleaned text
  match scheme? text with
  | some (scheme, rest) => afterScheme base scheme rest
  | none =>
    match base with
    | some base => relative base text
    | none => .error .noBase

/-- **Reads a URL.** -/
def parse (text : String) : Except UrlError Url := parseNextTo none text.toList

/-- **Reads a URL next to another one.** -/
def join (base : Url) (text : String) : Except UrlError Url :=
  parseNextTo (some base) text.toList

end LiveRoom.Url
