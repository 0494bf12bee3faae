import LiveRoom.Text.Numeral
import LiveRoom.Text.Utf8

/-!
# Percent-encoding

A URL is ASCII.  A character that cannot stand for itself is written as its UTF-8
bytes, each as a percent sign and two upper-case hexadecimal digits.  Which ASCII
characters these are depends on the part of the URL; controls and characters
beyond ASCII are encoded everywhere.

A percent sign stands for itself when it is written, so what is encoded already
stays as it is.
-/

namespace LiveRoom.Url

/-- The set of ASCII characters that a part of a URL encodes, besides the controls. -/
abbrev EncodeSet := List Char

/-- In a path that is one piece of text only the controls are encoded. -/
def controlSet : EncodeSet := []

/-- What a fragment encodes. -/
def fragmentSet : EncodeSet := [' ', '"', '<', '>', '`']

/-- What a query encodes, with the apostrophe for the schemes that have a host. -/
def querySet (special : Bool) : EncodeSet :=
  [' ', '"', '#', '<', '>'] ++ (if special then ['\''] else [])

/-- What a path segment encodes. -/
def pathSet : EncodeSet := fragmentSet ++ ['#', '?', '\x7b', '\x7d']

/-- What a user name or password encodes. -/
def userSet : EncodeSet := pathSet ++ ['/', ':', ';', '=', '@', '[', '\\', ']', '^', '|']

/-- An upper-case hexadecimal digit. -/
def upperHex (n : Nat) : Char := n.digitChar.toUpper

/-- A byte as a percent sign and two digits. -/
def percentByte (byte : UInt8) : List Char :=
  ['%', upperHex (byte.toNat / 16), upperHex (byte.toNat % 16)]

/-- Whether a character is encoded in a part of a URL. -/
def isEncoded (set : EncodeSet) (c : Char) : Bool :=
  c.toNat < 0x20 || 0x7F ≤ c.toNat || set.contains c

/-- One character in a part of a URL. -/
def encodeChar (set : EncodeSet) (c : Char) : List Char :=
  if isEncoded set c then (Utf8.encode [c]).flatMap percentByte else [c]

/-- **A text in a part of a URL.** -/
def percentEncode (set : EncodeSet) (text : List Char) : List Char :=
  text.flatMap (encodeChar set)

/-- **The bytes that percent-encoded bytes stand for.**  A percent sign without two
digits behind it stands for itself. -/
def percentDecode : List UInt8 → List UInt8
  | [] => []
  | 0x25 :: high :: low :: bytes =>
    match Text.hexDigit? high.toNat, Text.hexDigit? low.toNat with
    | some high, some low => UInt8.ofNat (high * 16 + low) :: percentDecode bytes
    | _, _ => 0x25 :: percentDecode (high :: low :: bytes)
  | byte :: bytes => byte :: percentDecode bytes

end LiveRoom.Url
