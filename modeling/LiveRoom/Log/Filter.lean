import LiveRoom.Log.Entry
import LiveRoom.Log.Pattern
import LiveRoom.Text.Blank
import LiveRoom.Text.Numeral
import LiveRoom.Text.Pieces
import LiveRoom.Text.Wordlike

/-!
# Log filters

A filter decides which entries are written.  It is given as directives between
commas.  A directive is a level, a target, or both as `target=level`; between the
two, or in place of the target, may stand what it asks for in brackets.  A directive
with a target is about the entries whose target starts with it; one without is about
all.  With a field's name in braces inside the brackets it is about those entries
that have the field.

Of the directives about an entry the most specific one decides: that with the longest
target, then one that asks for a field before one that asks for none, and the last of
equals.  An entry that no directive is about is not written.

A directive without a level lets everything through.  An empty filter lets errors
through.  A text that is no filter at all has no meaning (`Filter.ofText?` is
`none`), and the program then uses the one for warnings.

A directive may also ask for a span by its name, or for the value of a span's field.
This program has no spans, so such a directive is about none of its entries.
-/

namespace LiveRoom.Log

/-- **A directive**: about which entries it is, and up to which rank of levels it
lets them through. -/
structure Directive where
  target : Option String := none
  /-- Whether it is about what happens inside spans. -/
  inSpan : Bool := false
  /-- The field that an entry must have. -/
  field : Option String := none
  rank : Nat
  deriving DecidableEq, Repr

/-- **A filter.** -/
abbrev Filter := List Directive

namespace Filter

/-! ## Levels -/

/-- The words for levels, with the ranks they let through. -/
def levelWords : List (String × Nat) :=
  [("off", 0), ("error", 1), ("warn", 2), ("info", 3), ("debug", 4), ("trace", 5)]

/-- The rank that lets every entry through. -/
def everything : Nat := Level.rank .trace

/-- The rank that a level's word or number lets through. -/
def rank? (text : List Char) : Option Nat :=
  match Text.numeral? text with
  | some rank => if rank ≤ everything then some rank else none
  | none => (levelWords.find? fun word => word.1.toList = text.map Char.toLower).map (·.2)

/-- The rank behind an equals sign, where no level at all lets everything through. -/
def rankBehind? (text : List Char) : Option Nat :=
  if text = [] then some everything else rank? text

/-! ## Directives -/

/-- Whether a character can begin a directive that has no brackets in front. -/
def canBegin (c : Char) : Bool := c == '-' || c == ':' || c == '_' || Text.isWordlike c

/-- Whether a field with a value can be asked for: the value is a number or a pattern. -/
def isField (field : List Char) : Bool :=
  match (Text.pieces (· == '=') field).drop 1 with
  | [] => field ≠ []
  | value :: _ => (Text.numeral? value).isSome || Pattern.isPattern value

/-- What stands in brackets, from behind the opening one: whether it asks for a span,
the field it asks for, and the text behind the closing bracket. -/
def brackets? (text : List Char) : Option (Bool × Option String × List Char) :=
  let ends (c : Char) : Bool := c == ']' || c == '\x7b'
  let name := text.takeWhile fun c => !ends c
  match text.dropWhile fun c => !ends c with
  | [] => none
  | ']' :: rest => some (true, none, rest)
  | _ :: inner =>
    let field := inner.takeWhile (· ≠ '\x7d')
    match inner.dropWhile (· ≠ '\x7d') with
    | _ :: ']' :: rest =>
      if !isField field then none
      else some (name ≠ [] || field.contains '=', some (String.ofList field), rest)
    | _ => none

/-- A directive of one word: a level, or else a target. -/
def word (text : List Char) : Directive :=
  match rank? text with
  | some rank => { rank }
  | none => { target := some (String.ofList text), rank := everything }

/-- **The directive that a piece between commas gives**, or `none` where it is
malformed.  Blanks around it are not dropped: those in front belong to the target and
leave no room for a level, those behind belong to the level. -/
def directive? (text : List Char) : Option Directive :=
  let body := Text.trim text
  let front := text.takeWhile Text.isBlank
  let back := text.drop (front.length + body.length)
  let rank? (level : List Char) : Option Nat :=
    if front = [] then rankBehind? (level ++ back) else none
  let name := body.takeWhile fun c => c ≠ '=' && c ≠ '['
  let target := if name = [] then none else some (String.ofList (front ++ name))
  if name.head?.any (!canBegin ·) then none
  else
    match body.dropWhile fun c => c ≠ '=' && c ≠ '[' with
    | [] => if body = [] then none else some (word text)
    | '[' :: rest => do
      let (inSpan, field, rest) ← brackets? rest
      match rest with
      | [] => return { target, inSpan, field, rank := everything }
      | '=' :: level => return { target, inSpan, field, rank := ← rank? level }
      | _ => none
    | _ :: level =>
      if name = [] then none else (rank? level).map fun rank => { target, rank }

/-! ## Filters -/

/-- The pieces of a text between commas, without the empty ones. -/
def pieces (text : List Char) : List (List Char) :=
  (Text.pieces (· == ',') text).filter fun piece => piece ≠ []

/-- **The filter that a text gives.** -/
def ofText? (text : String) : Option Filter :=
  match (pieces text.toList).mapM directive? with
  | some [] => some [{ rank := Level.rank .error }]
  | filter => filter

/-- The filter that lets warnings and errors through. -/
def warnings : Filter := [{ rank := Level.rank .warn }]

/-- Whether an entry has a field.  Its message is one. -/
def hasField (entry : Entry) (name : String) : Bool :=
  name == "message" || entry.fields.any (·.1 == name)

/-- Whether a directive is about an entry. -/
def about (entry : Entry) (directive : Directive) : Bool :=
  !directive.inSpan &&
    directive.target.all (fun target => target.toList.isPrefixOf entry.target.toList) &&
    directive.field.all (hasField entry)

/-- How specific a directive is by its target. -/
def weight (directive : Directive) : Nat :=
  match directive.target with
  | none => 0
  | some target => target.utf8ByteSize + 1

/-- Whether a field comes before another one, no field coming first. -/
def fieldBefore : Option String → Option String → Bool
  | _, none => false
  | none, some _ => true
  | some field, some other => field < other

/-- Whether a directive is less specific than another one. -/
def yields (directive other : Directive) : Bool :=
  weight directive < weight other ||
    (weight directive == weight other && fieldBefore directive.field other.field)

/-- The more specific of two directives; of equals the later one. -/
def prefer (best : Option Directive) (directive : Directive) : Option Directive :=
  match best with
  | none => some directive
  | some other => if yields directive other then some other else some directive

/-- **Whether an entry is written.** -/
def admits (filter : Filter) (entry : Entry) : Bool :=
  match (filter.filter (about entry)).foldl prefer none with
  | none => false
  | some directive => entry.level.rank ≤ directive.rank

end Filter

end LiveRoom.Log
