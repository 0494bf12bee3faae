/-!
# UTF-16

UTF-16 spells a text in units of 16 bits.  A character beyond U+FFFF takes a surrogate
pair, a leading unit and a trailing one, which stand for nothing on their own.  So that
every list of units has a text, a surrogate without its partner becomes U+FFFD.
-/

namespace LiveRoom.Utf16

/-- Whether a unit is the first half of a surrogate pair. -/
def isLead (unit : Nat) : Bool := 0xD800 ≤ unit && unit ≤ 0xDBFF

/-- Whether a unit is the second half of a surrogate pair. -/
def isTrail (unit : Nat) : Bool := 0xDC00 ≤ unit && unit ≤ 0xDFFF

/-- The character of a surrogate pair. -/
def paired (lead trail : Nat) : Char :=
  Char.ofNat (0x10000 + (lead - 0xD800) * 0x400 + (trail - 0xDC00))

/-- The character of a unit on its own. -/
def single (unit : Nat) : Char :=
  if isLead unit || isTrail unit then '\uFFFD' else Char.ofNat unit

/-- **The text that units spell.** -/
def decodeLossy : List Nat → List Char
  | [] => []
  | [unit] => [single unit]
  | unit :: next :: units =>
    if isLead unit && isTrail next then paired unit next :: decodeLossy units
    else single unit :: decodeLossy (next :: units)

end LiveRoom.Utf16
