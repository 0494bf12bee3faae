/-!
# JSON values and their text

`Json` is the tree of a value to be written.  Two printers read it off: `pretty`
puts every element and member on a line of its own, two spaces deeper than its
container, and `compact` uses no blanks at all.  An empty array or object is `[]`
or `{}` in both.

In a string the quote, the backslash and the characters below U+0020 are escaped,
the latter by their short escape where there is one and by `\u00xx` otherwise; all
other characters stand for themselves.  A number keeps the literal it was given.
-/

namespace LiveRoom

/-- **A JSON value**, members in the order in which they are written. -/
inductive Json where
  | null
  | bool (value : Bool)
  | number (literal : String)
  | string (value : String)
  | array (items : List Json)
  | object (members : List (String × Json))
  deriving Inhabited, Repr

namespace Json

def whole (n : Int) : Json := .number (toString n)

/-! ## Strings -/

/-- How one character stands in a JSON string. -/
def escape (c : Char) : List Char :=
  if c = '"' then ['\\', '"']
  else if c = '\\' then ['\\', '\\']
  else if c = '\x08' then ['\\', 'b']
  else if c = '\x0c' then ['\\', 'f']
  else if c = '\n' then ['\\', 'n']
  else if c = '\r' then ['\\', 'r']
  else if c = '\t' then ['\\', 't']
  else if c.toNat < 0x20 then
    ['\\', 'u', '0', '0', (c.toNat / 16).digitChar, (c.toNat % 16).digitChar]
  else [c]

/-- A string as JSON writes it. -/
def quote (text : List Char) : List Char := '"' :: (text.flatMap escape ++ ['"'])

/-- A truth value as JSON writes it. -/
def flagWord : Bool → List Char
  | true => "true".toList
  | false => "false".toList

/-! ## The two printers -/

/-- A line break and the blanks before an item at this depth. -/
def newline (depth : Nat) : List Char := '\n' :: List.replicate (2 * depth) ' '

mutual

/-- A value with one item to a line, its first line already indented to `depth`. -/
def prettyAt (depth : Nat) : Json → List Char
  | .null => "null".toList
  | .bool value => flagWord value
  | .number literal => literal.toList
  | .string value => quote value.toList
  | .array [] => ['[', ']']
  | .array (item :: items) =>
    '[' :: newline (depth + 1) ++ prettyAt (depth + 1) item ++ prettyItems (depth + 1) items ++
      newline depth ++ [']']
  | .object [] => ['\x7b', '\x7d']
  | .object (member :: members) =>
    '\x7b' :: newline (depth + 1) ++ prettyMember (depth + 1) member ++
      prettyMembers (depth + 1) members ++ newline depth ++ ['\x7d']

/-- The further elements of an array, each after a comma. -/
def prettyItems (depth : Nat) : List Json → List Char
  | [] => []
  | item :: items => ',' :: newline depth ++ prettyAt depth item ++ prettyItems depth items

def prettyMember (depth : Nat) : String × Json → List Char
  | (key, value) => quote key.toList ++ [':', ' '] ++ prettyAt depth value

/-- The further members of an object, each after a comma. -/
def prettyMembers (depth : Nat) : List (String × Json) → List Char
  | [] => []
  | member :: members =>
    ',' :: newline depth ++ prettyMember depth member ++ prettyMembers depth members

end

mutual

/-- A value without any blanks. -/
def compactChars : Json → List Char
  | .null => "null".toList
  | .bool value => flagWord value
  | .number literal => literal.toList
  | .string value => quote value.toList
  | .array [] => ['[', ']']
  | .array (item :: items) => '[' :: compactChars item ++ compactItems items ++ [']']
  | .object [] => ['\x7b', '\x7d']
  | .object (member :: members) =>
    '\x7b' :: compactMember member ++ compactMembers members ++ ['\x7d']

def compactItems : List Json → List Char
  | [] => []
  | item :: items => ',' :: compactChars item ++ compactItems items

def compactMember : String × Json → List Char
  | (key, value) => quote key.toList ++ ':' :: compactChars value

def compactMembers : List (String × Json) → List Char
  | [] => []
  | member :: members => ',' :: compactMember member ++ compactMembers members

end

/-- **The text of a value with one item to a line.** -/
def pretty (value : Json) : String := String.ofList (prettyAt 0 value)

/-- **The text of a value without blanks.** -/
def compact (value : Json) : String := String.ofList (compactChars value)

end Json

end LiveRoom
