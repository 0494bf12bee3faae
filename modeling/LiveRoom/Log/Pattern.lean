/-!
# Patterns

The value of a field may be asked for by a pattern, a regular expression.  Nothing is
ever matched here, but a text that is no pattern spoils the filter it stands in, so it
has to be told apart (`isPattern`).

A text is read character by character.  It is a pattern if all its brackets are closed,
every repetition has something to repeat, and every backslash stands before a character
that can be escaped.  Counts in braces, looking around, and the edges of words are not
supported.
-/

namespace LiveRoom.Log.Pattern

/-- **What the next character is read as.** -/
inductive Mode where
  /-- Part of a sequence, which may begin here. -/
  | sequence
  /-- Part of a set in brackets. -/
  | set
  /-- What is escaped. -/
  | escaped
  /-- One of so many hexadecimal digits and one more. -/
  | hex (others : Nat)
  /-- A category of characters. -/
  | category
  /-- What kind of group it is, or one of its flags. -/
  | options (first : Bool)
  /-- The bracket in front of a name. -/
  | beforeName
  /-- Part of the name of a group. -/
  | name (first : Bool)
  deriving DecidableEq, Repr

/-- **What is known behind a part of a pattern.** -/
structure State where
  mode : Mode := .sequence
  /-- How many groups are open. -/
  groups : Nat := 0
  /-- How many sets are open. -/
  sets : Nat := 0
  /-- Whether a group has just been opened. -/
  opened : Bool := false
  /-- Whether there is something to repeat. -/
  repeatable : Bool := false
  /-- Whether a closing bracket would be the first member of a set. -/
  fresh : Bool := false
  /-- Whether a caret would turn a set around. -/
  turnable : Bool := false
  deriving DecidableEq, Repr

/-- Behind something that can be repeated. -/
def State.part (state : State) : State :=
  { state with
    mode := if state.sets = 0 then .sequence else .set
    opened := false, repeatable := true, fresh := false, turnable := false }

/-- Behind something that cannot be repeated. -/
def State.start (state : State) : State :=
  { state with mode := .sequence, opened := false, repeatable := false }

/-- Inside a set that has just been opened. -/
def State.openSet (state : State) : State :=
  { state with mode := .set, sets := state.sets + 1, fresh := true, turnable := true }

/-- Behind the end of a group. -/
def State.closeGroup (state : State) : Option State :=
  if state.groups = 0 then none else some { state.part with groups := state.groups - 1 }

/-- Whether a character can be escaped so that it stands for itself. -/
def standsForItself (c : Char) : Bool :=
  c.toNat < 0x80 && !c.isAlphanum && c ≠ '<' && c ≠ '>'

/-- The letters that stand for characters and classes when they are escaped. -/
def letters : List Char := "aftnrvdDsSwW".toList

/-- The flags of a group. -/
def flags : List Char := "imsUuxR-".toList

/-- The state behind an escaped character. -/
def State.escape (state : State) (c : Char) : Option State :=
  if standsForItself c || letters.contains c then some state.part
  else if (c = 'A' || c = 'z') && state.sets = 0 then some state.part
  else if c = 'p' || c = 'P' then some { state with mode := .category }
  else if c = 'x' then some { state with mode := .hex 1 }
  else if c = 'u' then some { state with mode := .hex 3 }
  else if c = 'U' then some { state with mode := .hex 7 }
  else none

/-- The state behind a character of a sequence. -/
def State.sequence (state : State) (c : Char) : Option State :=
  if c = '(' then
    some { state with groups := state.groups + 1, opened := true, repeatable := false }
  else if c = ')' then state.closeGroup
  else if c = '|' then some state.start
  else if c = '[' then some state.openSet
  else if c = '\\' then some { state with mode := .escaped }
  else if c = '?' && state.opened then some { state with mode := .options true }
  else if c = '?' || c = '*' || c = '+' then if state.repeatable then some state.part else none
  else if c = '\x7b' then none
  else some state.part

/-- The state behind a character of a set. -/
def State.member (state : State) (c : Char) : Option State :=
  if c = '^' && state.turnable then some { state with turnable := false }
  else if c = '-' && state.fresh then some { state with turnable := false }
  else if c = ']' && !state.fresh then some { state with sets := state.sets - 1 }.part
  else if c = '[' then some state.openSet
  else if c = '\\' then some { state with mode := .escaped }
  else some state.part

/-- The state behind a flag of a group, or behind the mark of another kind of group. -/
def State.option (state : State) (first : Bool) (c : Char) : Option State :=
  if c = ':' then some state.start
  else if c = ')' then
    if first then none else state.closeGroup.map State.start
  else if c = 'P' && first then some { state with mode := .beforeName }
  else if c = '<' && first then some { state with mode := .name true }
  else if flags.contains c then some { state with mode := .options false }
  else none

/-- **The state behind one more character**, or `none` where no pattern goes on so. -/
def State.next (state : State) (c : Char) : Option State :=
  match state.mode with
  | .sequence => state.sequence c
  | .set => state.member c
  | .escaped => state.escape c
  | .hex others =>
    if c.isDigit || ('a' ≤ c.toLower && c.toLower ≤ 'f') then
      some (if others = 0 then state.part else { state with mode := .hex (others - 1) })
    else none
  | .category => if "LMNPSZC".contains c.toUpper then some state.part else none
  | .options first => state.option first c
  | .beforeName => if c = '<' then some { state with mode := .name true } else none
  | .name first =>
    if c = '>' then if first then none else some state.start
    else if c.isAlpha || c = '_' || (!first && (c.isDigit || ".[]".contains c)) then
      some { state with mode := .name false }
    else none

/-- Whether nothing is left open. -/
def State.isComplete (state : State) : Bool := state.mode = .sequence && state.groups = 0

/-- **Whether a text is a pattern.** -/
def isPattern (text : List Char) : Bool := (text.foldlM State.next {}).any State.isComplete

end LiveRoom.Log.Pattern
