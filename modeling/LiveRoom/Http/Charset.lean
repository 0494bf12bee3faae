import LiveRoom.Http.Body
import LiveRoom.Text.Blank
import LiveRoom.Text.Utf16
import LiveRoom.Text.Utf8

/-!
# The text of a body

A body is bytes; its text depends on the charset that the answer's media type names.
Read here are UTF-8, both forms of UTF-16, and Windows-1252, which all names of Latin-1
stand for.  Where no charset is named, UTF-8 is meant.  There are many more charsets, and a
body in one of them is taken for UTF-8 here; `Library.text` leaves room for readers that
know them.

A byte order mark at the start overrides the charset, and it is no part of the text.  Bytes
that spell no character become U+FFFD, so every body has a text.
-/

namespace LiveRoom.Http

/-- **How the bytes of a text are read.** -/
inductive Charset where
  | utf8
  | utf16 (bigEndian : Bool)
  | windows1252
  deriving DecidableEq, Repr

namespace Charset

/-! ## Names -/

/-- The names of Windows-1252, those of Latin-1 and of ASCII included. -/
def windows1252Names : List String :=
  ["ansi_x3.4-1968", "ascii", "cp1252", "cp819", "csisolatin1", "ibm819", "iso-8859-1",
   "iso-ir-100", "iso8859-1", "iso88591", "iso_8859-1", "iso_8859-1:1987", "l1", "latin1",
   "us-ascii", "windows-1252", "x-cp1252"]

/-- The names of the two forms of UTF-16. -/
def utf16Names : List (String × Bool) :=
  [("utf-16", false), ("utf-16le", false), ("csunicode", false), ("iso-10646-ucs-2", false),
   ("ucs-2", false), ("unicode", false), ("unicodefeff", false), ("utf-16be", true),
   ("unicodefffe", true)]

/-- The charset that a name stands for. -/
def ofName (name : List Char) : Charset :=
  let name := String.ofList ((Text.trim name).map Char.toLower)
  if windows1252Names.contains name then .windows1252
  else
    match utf16Names.find? fun entry => entry.1 = name with
    | some entry => .utf16 entry.2
    | none => .utf8

/-! ## Media types -/

/-- Whether a character may stand in the names of a media type. -/
def isTokenChar (c : Char) : Bool :=
  c.isAlphanum || "!#$%&'*+-.^_`|~".toList.contains c

/-- Whether a text is a name in a media type. -/
def isToken (text : List Char) : Bool := text ≠ [] && text.all isTokenChar

/-- The parts of a media type.  A semicolon inside quotes separates nothing. -/
def mediaParts : (quoted : Bool) → List Char → List (List Char)
  | _, [] => [[]]
  | quoted, c :: text =>
    if c = ';' && !quoted then [] :: mediaParts false text
    else
      match mediaParts (quoted != (c == '"')) text with
      | [] => [[c]]
      | part :: parts => (c :: part) :: parts

/-- A value without the quotes around it, which spaces may follow. -/
def unquoted? : List Char → Option (List Char)
  | '"' :: text =>
    let text := Text.dropWhileEnd (· = ' ') text
    if text.getLast? == some '"' then some text.dropLast else none
  | text => if isToken text then some text else none

/-- A parameter: its name in lower case, and its value. -/
def parameter? (text : List Char) : Option (List Char × List Char) :=
  let text := text.dropWhile (· = ' ')
  let name := text.takeWhile (· ≠ '=')
  match text.dropWhile (· ≠ '=') with
  | _ :: value =>
    if isToken name then (unquoted? value).map fun value => (name.map Char.toLower, value)
    else none
  | [] => none

/-- Whether a text is the name of a media type and that of a kind of it. -/
def isMediaName (text : List Char) : Bool :=
  match text.dropWhile (· ≠ '/') with
  | _ :: kind => isToken (text.takeWhile (· ≠ '/')) && isToken kind
  | [] => false

/-- The name of the charset in a media type.  A malformed media type says nothing. -/
def name? (mediaType : List Char) : Option (List Char) :=
  match mediaParts false mediaType with
  | [] => none
  | media :: parameters =>
    if isMediaName media then
      -- A semicolon may stand at the end.
      let isBlank (text : List Char) : Bool := text.all (· = ' ')
      let given := if parameters.getLast?.any isBlank then parameters.dropLast else parameters
      (given.mapM parameter?).bind fun parameters =>
        (parameters.find? fun parameter => parameter.1 = "charset".toList).map (·.2)
    else none

/-- **The charset of an answer.** -/
def ofHead (head : Head) : Charset :=
  match (head.values "content-type").head? with
  | some value =>
    if value.all fun byte => byte == 0x09 || (0x20 ≤ byte && byte < 0x7F) then
      ((name? (Utf8.decodeLossy value)).map ofName).getD .utf8
    else .utf8
  | none => .utf8

/-! ## Bytes as text -/

/-- The characters of Windows-1252 from 80 to 9F. -/
def windows1252Marks : List Nat :=
  [0x20AC, 0x81, 0x201A, 0x0192, 0x201E, 0x2026, 0x2020, 0x2021, 0x02C6, 0x2030, 0x0160, 0x2039,
   0x0152, 0x8D, 0x017D, 0x8F, 0x90, 0x2018, 0x2019, 0x201C, 0x201D, 0x2022, 0x2013, 0x2014,
   0x02DC, 0x2122, 0x0161, 0x203A, 0x0153, 0x9D, 0x017E, 0x0178]

/-- The character of a byte in Windows-1252. -/
def windows1252Char (byte : UInt8) : Char :=
  let n := byte.toNat
  Char.ofNat (if 0x80 ≤ n && n < 0xA0 then windows1252Marks.getD (n - 0x80) n else n)

/-- The units of 16 bits that bytes make up, and whether a byte is left over. -/
def units (bigEndian : Bool) : List UInt8 → List Nat × Bool
  | [] => ([], false)
  | [_] => ([], true)
  | first :: second :: bytes =>
    let others := units bigEndian bytes
    let unit := if bigEndian then first.toNat * 256 + second.toNat
      else second.toNat * 256 + first.toNat
    (unit :: others.1, others.2)

/-- The text of bytes in a charset. -/
def text (charset : Charset) (bytes : List UInt8) : List Char :=
  match charset with
  | .utf8 => Utf8.decodeLossy bytes
  | .windows1252 => bytes.map windows1252Char
  | .utf16 bigEndian =>
    let units := units bigEndian bytes
    Utf16.decodeLossy units.1 ++ (if units.2 then ['\uFFFD'] else [])

/-- **The text of a body**; a byte order mark overrides the charset. -/
def decode (charset : Charset) : List UInt8 → List Char
  | 0xEF :: 0xBB :: 0xBF :: bytes => text .utf8 bytes
  | 0xFE :: 0xFF :: bytes => text (.utf16 true) bytes
  | 0xFF :: 0xFE :: bytes => text (.utf16 false) bytes
  | bytes => text charset bytes

end Charset

end LiveRoom.Http
