import LiveRoom.Domain.Ascii
import LiveRoom.Url.Percent

/-!
# Hosts

A host is a name or a numeric address.  The address of version four may be written
with fewer than four parts, in octal or hexadecimal, and any host whose last part
looks like a number must be one.  The address of version six stands in brackets;
its longest run of zeros is written `::`.

A name may be typed in any script and is kept in ASCII (`LiveRoom.Domain.Ascii`).
-/

namespace LiveRoom

/-- **Why a text is no URL.** -/
inductive UrlError where
  | noBase
  | noRelative
  | emptyHost
  | invalidPort
  | invalidIpv4
  | invalidIpv6
  | invalidName
  | invalidHostCharacter
  deriving DecidableEq, Repr

/-- The reason in words. -/
def UrlError.message : UrlError → String
  | .noBase => "relative URL without a base"
  | .noRelative => "relative URL with a cannot-be-a-base base"
  | .emptyHost => "empty host"
  | .invalidPort => "invalid port number"
  | .invalidIpv4 => "invalid IPv4 address"
  | .invalidIpv6 => "invalid IPv6 address"
  | .invalidName => "invalid international domain name"
  | .invalidHostCharacter => "invalid domain character"

/-- **A host.** -/
inductive Host where
  | name (text : List Char)
  | ipv4 (address : Nat)
  | ipv6 (pieces : List Nat)
  deriving DecidableEq, Repr

namespace Host

/-! ## Addresses of version four -/

/-- The number that digits spell in a base. -/
def digits? (base : Nat) (text : List Char) : Option Nat :=
  text.foldlM (fun value c =>
    match Text.hexDigit? c.toNat with
    | some digit => if digit < base then some (value * base + digit) else none
    | none => none) 0

/-- The number that a part of an address spells: decimal, octal behind `0`, or
hexadecimal behind `0x`. -/
def part? : List Char → Option Nat
  | [] => none
  | '0' :: 'x' :: text => digits? 16 text
  | '0' :: 'X' :: text => digits? 16 text
  | '0' :: c :: text => digits? 8 (c :: text)
  | text => digits? 10 text

/-- The parts of a name, without an empty last one. -/
def parts (text : List Char) : List (List Char) :=
  let parts := Text.pieces (· == '.') text
  if parts.length > 1 && parts.getLast? == some [] then parts.dropLast else parts

/-- Whether the last part of a name is a number, so that the name must be an address. -/
def endsInNumber (text : List Char) : Bool :=
  match (parts text).getLast? with
  | none => false
  | some last => (last ≠ [] && last.all Char.isDigit) || (part? last).isSome

/-- The address that numbers make up: all but the last are bytes, and the last one
fills what is left. -/
def joinParts (numbers : List Nat) : Option Nat :=
  match numbers.getLast? with
  | none => none
  | some last =>
    let front := numbers.dropLast
    let places := Nat.pow 256 (4 - front.length)
    if 3 < front.length || front.any (255 < ·) || places ≤ last then none
    else some (front.foldl (fun value n => value * 256 + n) 0 * places + last)

/-- **An address of version four.** -/
def ipv4? (text : List Char) : Option Nat := ((parts text).mapM part?).bind joinParts

/-- The four bytes of an address between dots. -/
def ipv4Text (address : Nat) : List Char :=
  let byte (shift : Nat) : List Char := Nat.toDigits 10 (address / Nat.pow 256 shift % 256)
  byte 3 ++ '.' :: byte 2 ++ '.' :: byte 1 ++ '.' :: byte 0

/-! ## Addresses of version six -/

/-- A piece of one to four hexadecimal digits. -/
def piece? (text : List Char) : Option Nat :=
  if text = [] || 4 < text.length then none else digits? 16 text

/-- A byte in decimal, without leading zeros. -/
def byte? (text : List Char) : Option Nat :=
  if text = [] || 3 < text.length || (1 < text.length && text.head? == some '0') then none
  else (digits? 10 text).bind fun n => if n < 256 then some n else none

/-- The two pieces of an address of version four in dotted form. -/
def dotted? (text : List Char) : Option (List Nat) :=
  match Text.pieces (· == '.') text with
  | [a, b, c, d] => do
    return [(← byte? a) * 256 + (← byte? b), (← byte? c) * 256 + (← byte? d)]
  | _ => none

/-- The pieces between colons; the last one may be in dotted form if `final` says
that it ends the address. -/
def pieces? (final : Bool) (text : List Char) : Option (List Nat) :=
  if text = [] then some []
  else
    let parts := Text.pieces (· == ':') text
    match parts.getLast? with
    | none => some []
    | some last =>
      if final && last.contains '.' then do
        return (← parts.dropLast.mapM piece?) ++ (← dotted? last)
      else parts.mapM piece?

/-- What stands before and behind the first `::`. -/
def splitRun : List Char → Option (List Char × List Char)
  | [] => none
  | ':' :: ':' :: text => some ([], text)
  | c :: text => (splitRun text).map fun (front, back) => (c :: front, back)

/-- **An address of version six**, without its brackets. -/
def ipv6? (text : List Char) : Option (List Nat) :=
  match splitRun text with
  | none => (pieces? true text).bind fun pieces => if pieces.length = 8 then some pieces else none
  | some (front, back) => do
    let front ← pieces? false front
    let back ← pieces? true back
    if front.length + back.length < 8 then
      some (front ++ List.replicate (8 - front.length - back.length) 0 ++ back)
    else none

/-- The length of the run of zeros at the head of some pieces. -/
def zeros (pieces : List Nat) : Nat := (pieces.takeWhile (· = 0)).length

/-- Where the first of the longest runs of at least two zeros starts, and its length. -/
def longestRun (pieces : List Nat) : Option (Nat × Nat) :=
  (List.range pieces.length).foldl
    (fun best start =>
      let length := zeros (pieces.drop start)
      match best with
      | some (_, other) => if other < length then some (start, length) else best
      | none => if 2 ≤ length then some (start, length) else none)
    none

/-- Pieces between colons. -/
def colonText (pieces : List Nat) : List Char :=
  [':'].intercalate (pieces.map (Nat.toDigits 16))

/-- The pieces of an address, its longest run of zeros as `::`. -/
def ipv6Text (pieces : List Nat) : List Char :=
  match longestRun pieces with
  | none => colonText pieces
  | some (start, length) =>
    colonText (pieces.take start) ++ ':' :: ':' :: colonText (pieces.drop (start + length))

/-! ## Reading and writing hosts -/

/-- Characters that no host holds. -/
def forbidden : List Char :=
  ['\x00', '\t', '\n', '\r', ' ', '#', '/', ':', '<', '>', '?', '@', '[', '\\', ']', '^', '|']

/-- The address in brackets. -/
def bracketed (text : List Char) : Except UrlError Host :=
  if text.getLast? == some ']' then
    match ipv6? text.dropLast with
    | some pieces => .ok (.ipv6 pieces)
    | none => .error .invalidIpv6
  else .error .invalidIpv6

/-- Whether a character has no place in a name that is in ASCII. -/
def isForbidden (c : Char) : Bool :=
  forbidden.contains c || c == '%' || c.toNat < 0x20 || 0x7F ≤ c.toNat

/-- A name or an address of version four. -/
def named (text : List Char) : Except UrlError Host :=
  match (Utf8.decode? (Url.percentDecode (Utf8.encode text))).bind Domain.ascii? with
  | none => .error .invalidName
  | some ascii =>
    if ascii.any isForbidden then .error .invalidName
    else if ascii = [] then .error .emptyHost
    else if endsInNumber ascii then
      match ipv4? ascii with
      | some address => .ok (.ipv4 address)
      | none => .error .invalidIpv4
    else .ok (.name ascii)

/-- **A host** of a scheme whose hosts are names and addresses. -/
def parse : List Char → Except UrlError Host
  | '[' :: text => bracketed text
  | text => named text

/-- **A host** of any other scheme, which is kept as it is. -/
def parseFree : List Char → Except UrlError Host
  | '[' :: text => bracketed text
  | text =>
    if text.any forbidden.contains then .error .invalidHostCharacter
    else .ok (.name (Url.percentEncode Url.controlSet text))

/-- The name of the machine itself. -/
def localHost : Host := .name "localhost".toList

/-- The text of a host. -/
def text : Host → List Char
  | .name text => text
  | .ipv4 address => ipv4Text address
  | .ipv6 pieces => '[' :: ipv6Text pieces ++ [']']

end Host

end LiveRoom
