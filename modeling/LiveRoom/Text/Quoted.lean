import LiveRoom.Text.Hidden

/-!
# Quoted text

Messages that repeat what somebody typed quote it, so that no control character
reaches the terminal and the typed text can be told exactly.  Inside double
quotes

* the quote and the backslash stand behind a backslash;
* tab, line feed, carriage return and NUL are `\t`, `\n`, `\r` and `\0`;
* every other hidden character is `\u{…}` with its number in lower-case
  hexadecimal, without leading zeros;
* all other characters, the apostrophe among them, stand for themselves.
-/

namespace LiveRoom.Text

/-- How one character stands inside quotes. -/
def escape (c : Char) : List Char :=
  if c = '"' then ['\\', '"']
  else if c = '\\' then ['\\', '\\']
  else if c = '\t' then ['\\', 't']
  else if c = '\n' then ['\\', 'n']
  else if c = '\r' then ['\\', 'r']
  else if c = '\x00' then ['\\', '0']
  else if isHidden c then '\\' :: 'u' :: '\x7b' :: (Nat.toDigits 16 c.toNat ++ ['\x7d'])
  else [c]

/-- A text between quotes, each character as `escape` writes it. -/
def quote (text : List Char) : List Char :=
  '"' :: (text.flatMap escape ++ ['"'])

/-- `quote`, on strings. -/
def quoted (text : String) : String := String.ofList (quote text.toList)

end LiveRoom.Text
