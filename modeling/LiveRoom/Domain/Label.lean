import LiveRoom.Domain.Meaning
import LiveRoom.Domain.Punycode
import LiveRoom.Text.Composed
import LiveRoom.Text.Direction
import LiveRoom.Text.Joining

/-!
# Labels

A label is what stands between two dots of a name.  One with characters beyond ASCII is
written in Punycode behind the sign `xn--`, and a label behind that sign has to say what
could not be said without it: plain characters in composed form, one of them beyond ASCII.

A label does not begin with a mark, and the two joiners stand only where they make a
difference: behind a sign that silences a vowel, or between two letters that join.
-/

namespace LiveRoom.Domain

/-- **A label**: what it says, and how it is written in ASCII. -/
structure Label where
  said : List Char
  written : List Char
  deriving DecidableEq, Repr

/-- What stands in front of Punycode. -/
def sign : List Char := ['x', 'n', '-', '-']

/-- Whether a text is of ASCII alone. -/
def isAscii (text : List Char) : Bool := text.all fun c => c.toNat < 0x80

/-! ## Joiners -/

/-- The joiner that joins nothing. -/
def nonJoiner : Char := '\u200c'

/-- The joiner that joins. -/
def joiner : Char := '\u200d'

/-- The combining class of the signs that silence a vowel. -/
def silencer : Nat := 9

/-- Whether what comes before a joiner, the nearest first, ends in a silenced vowel. -/
def isSilenced (before : List Char) : Bool :=
  before.head?.any fun c => Text.combiningClass c == silencer

/-- Whether what comes before and behind a joiner would join without it. -/
def wouldJoin (before behind : List Char) : Bool :=
  (before.dropWhile Text.isTransparent).head?.any Text.joinsBehind &&
    (behind.dropWhile Text.isTransparent).head?.any Text.joinsBefore

/-- Whether all joiners make a difference where they stand, behind what comes `before`. -/
def joinersMatter (before : List Char) : List Char → Bool
  | [] => true
  | c :: text =>
    (if c = nonJoiner then isSilenced before || wouldJoin before text
      else c ≠ joiner || isSilenced before) &&
    joinersMatter (c :: before) text

/-! ## Sound labels -/

/-- Whether what a label says is well made. -/
def isSound (said : List Char) : Bool :=
  !said.head?.any Text.isMark && joinersMatter [] said

/-- Whether what a label says needs the sign, and no other label says it. -/
def needsSign (said : List Char) : Bool :=
  !isAscii said && said.all isPlain && Text.composed said = said && !sign.isPrefixOf said

/-- **The label that a composed text of plain characters gives.** -/
def Label.ofText? (text : List Char) : Option Label :=
  if sign.isPrefixOf text then
    match Punycode.decode? (text.drop sign.length) with
    | some said => if needsSign said && isSound said then some ⟨said, text⟩ else none
    | none => none
  else if isAscii text then some ⟨text, text⟩
  else if isSound text then some ⟨text, sign ++ Punycode.encode text⟩
  else none

/-! ## Direction -/

/-- Whether a label has characters that are written from right to left. -/
def Label.turnsLeft (label : Label) : Bool :=
  label.said.any fun c =>
    Text.direction c == .rightToLeft || Text.direction c == .arabic

/-- **Whether a label keeps its place** next to labels of the other direction: it begins
with a letter, has letters of one direction only and numbers of one kind, and ends in one
of these. -/
def Label.keepsPlace (label : Label) : Bool :=
  let kinds := label.said.map Text.direction
  let last := (kinds.reverse.dropWhile (· == .mark)).head?
  match kinds.head? with
  | none => true
  | some .leftToRight =>
    kinds.all (fun kind => kind ≠ .rightToLeft && kind ≠ .arabic) &&
      (last == some .leftToRight || last == some .european)
  | some .rightToLeft =>
    kinds.all (· ≠ .leftToRight) && !(kinds.contains .european && kinds.contains .arabic) &&
      (last == some .rightToLeft || last == some .european || last == some .arabic)
  | some _ => false

end LiveRoom.Domain
