import LiveRoom.Text.Pieces
import LiveRoom.Text.Utf8

/-!
# Files

The program asks two things of a file system: whether a path leads anywhere, and
what bytes a file holds.  `Files` is anything that answers them.  A path is a list of
bytes, since a name need not be text.
-/

namespace LiveRoom

/-- **A path**: its bytes. -/
abbrev Path := List UInt8

namespace Path

/-- The path that a text spells. -/
def ofString (text : String) : Path := Utf8.encode text.toList

/-- A path as it is shown; bytes that are no text become U+FFFD. -/
def display (path : Path) : String := String.ofList (Utf8.decodeLossy path)

def separator : UInt8 := 0x2F

def isAbsolute (path : Path) : Bool := path.head? == some separator

/-- A name below a path. -/
def join (path : Path) (name : String) : Path :=
  if path = [] || path.getLast? == some separator then path ++ ofString name
  else path ++ separator :: ofString name

/-- The components of a path: what stands before, between and behind its slashes. -/
def components (path : Path) : List Path := Text.pieces (· == separator) path

end Path

/-- **What the system refuses.** -/
inductive FileError where
  | notFound
  | notDirectory
  | isDirectory
  | nameTooLong
  | nulInName
  | notUtf8
  /-- Anything else, in the system's words. -/
  | other (message : String)
  deriving DecidableEq, Repr

/-- The system's words for a refusal. -/
def FileError.message : FileError → String
  | .notFound => "No such file or directory (os error 2)"
  | .notDirectory => "Not a directory (os error 20)"
  | .isDirectory => "Is a directory (os error 21)"
  | .nameTooLong => "File name too long (os error 36)"
  | .nulInName => "file name contained an unexpected NUL byte"
  | .notUtf8 => "stream did not contain valid UTF-8"
  | .other message => message

/-- **Files** as a program sees them. -/
structure Files where
  /-- Whether a path leads anywhere. -/
  contains : Path → Bool
  readBytes : Path → Except FileError (List UInt8)

/-- **Reads a file as text.** -/
def Files.readText (files : Files) (path : Path) : Except FileError String :=
  match files.readBytes path with
  | .error error => .error error
  | .ok content =>
    match Utf8.decode? content with
    | none => .error .notUtf8
    | some text => .ok (String.ofList text)

end LiveRoom
