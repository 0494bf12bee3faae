import LiveRoom.Decimal.Shortest
import LiveRoom.Text.Quoted
import LiveRoom.Text.Utf8

/-!
# Why a text is refused, and where

Reading JSON stops at the first fault.  `Cause` says what is wrong; `Fault` adds
how far the reader had come, as the text left over and the number of its bytes
that were looked at as well.  From the whole text `Fault.report` works out the
position a person reads: the line, counted from one, and the column, which is the
number of bytes read since the last line feed.

All wording is in `Cause.message`.
-/

namespace LiveRoom.Json

/-- The kind of value that was found where another was wanted. -/
inductive Found where
  | null
  | flag (value : Bool)
  | whole (value : Int)
  | real (value : Float)
  | text (value : List Char)
  | list
  | object

def Found.describe : Found → String
  | .null => "null"
  | .flag value => "boolean `" ++ (if value then "true" else "false") ++ "`"
  | .whole value => "integer `" ++ toString value ++ "`"
  | .real value => "floating point `" ++ Decimal.floatText value ++ "`"
  | .text value => "string " ++ String.ofList (Text.quote value)
  | .list => "sequence"
  | .object => "map"

/-- **Why a text is refused.** -/
inductive Cause where
  | endInValue
  | endInString
  | endInList
  | endInObject
  | expectedValue
  | expectedIdent
  | expectedColon
  | expectedCommaOrBracket
  | expectedCommaOrBrace
  | keyNotString
  | trailingComma
  | trailingCharacters
  | invalidNumber
  | numberOutOfRange
  | invalidEscape
  | controlCharacter
  | loneSurrogate
  | unpairedSurrogate
  /-- A value of one kind where another is wanted. -/
  | wrongType (found : Found) (wanted : String)
  /-- A value of the right kind that does not fit. -/
  | wrongValue (found : Found) (wanted : String)
  | unknownVariant (name : List Char) (known : List String)
  | missingField (key : String)
  | duplicateField (key : String)
  /-- A list that ends after `length` elements. -/
  | wrongLength (length : Nat) (wanted : String)

def Cause.message : Cause → String
  | .endInValue => "EOF while parsing a value"
  | .endInString => "EOF while parsing a string"
  | .endInList => "EOF while parsing a list"
  | .endInObject => "EOF while parsing an object"
  | .expectedValue => "expected value"
  | .expectedIdent => "expected ident"
  | .expectedColon => "expected `:`"
  | .expectedCommaOrBracket => "expected `,` or `]`"
  | .expectedCommaOrBrace => "expected `,` or `\x7d`"
  | .keyNotString => "key must be a string"
  | .trailingComma => "trailing comma"
  | .trailingCharacters => "trailing characters"
  | .invalidNumber => "invalid number"
  | .numberOutOfRange => "number out of range"
  | .invalidEscape => "invalid escape"
  | .controlCharacter => "control character (\\u0000-\\u001F) found while parsing a string"
  | .loneSurrogate => "lone leading surrogate in hex escape"
  | .unpairedSurrogate => "unexpected end of hex escape"
  | .wrongType found wanted => "invalid type: " ++ found.describe ++ ", expected " ++ wanted
  | .wrongValue found wanted => "invalid value: " ++ found.describe ++ ", expected " ++ wanted
  | .unknownVariant name known =>
    "unknown variant `" ++ String.ofList name ++ "`, expected one of " ++
      ", ".intercalate (known.map fun word => "`" ++ word ++ "`")
  | .missingField key => "missing field `" ++ key ++ "`"
  | .duplicateField key => "duplicate field `" ++ key ++ "`"
  | .wrongLength length wanted =>
    "invalid length " ++ toString length ++ ", expected " ++ wanted

/-- **Where reading stopped**: the cause, the text left over, and how many bytes
of it had been looked at. -/
structure Fault where
  cause : Cause
  rest : List Char
  past : Nat

/-- A fault at the head of what is left over. -/
def Fault.at (cause : Cause) (rest : List Char) : Fault := ⟨cause, rest, 0⟩

/-- A fault with the next byte, which counts as read. -/
def Fault.after (cause : Cause) (rest : List Char) : Fault := ⟨cause, rest, 1⟩

/-- **A refusal as it is reported**, with the line and the column reached. -/
structure ParseError where
  cause : Cause
  line : Nat
  column : Nat

def ParseError.message (error : ParseError) : String :=
  error.cause.message ++ " at line " ++ toString error.line ++ " column " ++
    toString error.column

/-- The line and column after the first `bytes` bytes of a text, when its start is
at the given line and column. -/
def position : (bytes line column : Nat) → List Char → Nat × Nat
  | _, line, column, [] => (line, column)
  | bytes, line, column, c :: text =>
    if bytes < c.utf8Size then (line, column + bytes)
    else if c = '\n' then position (bytes - 1) (line + 1) 0 text
    else position (bytes - c.utf8Size) line (column + c.utf8Size) text

/-- A fault found while reading `text`, as it is reported. -/
def Fault.report (fault : Fault) (text : List Char) : ParseError :=
  let reached := Utf8.size text - Utf8.size fault.rest + fault.past
  let place := position reached 1 0 text
  ⟨fault.cause, place.1, place.2⟩

end LiveRoom.Json
