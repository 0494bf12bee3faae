/-!
# Numerals

Digits are ASCII, here as everywhere.

A choice by number is an optional plus sign and one or more ASCII digits, leading
zeros allowed, whose value is below `2 ^ 64`.  Nothing else is a numeral: no minus
sign, no blanks inside, no digits of other scripts.  The digits are taken one by one,
and each step is checked for whether the number still fits into a word.
-/

namespace LiveRoom.Text

/-- The number that decimal digits spell. -/
def numeralValue (digits : List Char) : Nat :=
  digits.foldl (fun value digit => value * 10 + (digit.toNat - '0'.toNat)) 0

/-- The value of the hexadecimal digit with a code, in either case. -/
def hexDigit? (code : Nat) : Option Nat :=
  if 0x30 ≤ code && code ≤ 0x39 then some (code - 0x30)
  else if 0x41 ≤ code && code ≤ 0x46 then some (code - 0x41 + 10)
  else if 0x61 ≤ code && code ≤ 0x66 then some (code - 0x61 + 10)
  else none

/-- The text after an optional plus sign. -/
def afterPlus : List Char → List Char
  | '+' :: text => text
  | text => text

/-- How many numbers a word has room for. -/
def wordSize : Nat := Nat.pow 2 64

/-- **A number with one more digit behind it**, or `none` if that is no digit or if the
number outgrows a word on the way. -/
def pushDigit? (number : Nat) (digit : Char) : Option Nat := do
  guard digit.isDigit
  let tens := number * 10
  guard (tens < wordSize)
  let sum := tens + (digit.toNat - '0'.toNat)
  guard (sum < wordSize)
  return sum

/-- **The value of a numeral**, or `none` for any other text. -/
def numeral? (text : List Char) : Option Nat :=
  match afterPlus text with
  | [] => none
  | digits => digits.foldlM pushDigit? 0

end LiveRoom.Text
