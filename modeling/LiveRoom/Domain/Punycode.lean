import LiveRoom.Text.Numeral

/-!
# Punycode

Punycode writes a label of any characters in ASCII.  The ASCII characters come first as
they are, then a hyphen, then where the others go.  These are put in by rising code point
and, within one, by rising place; what is written for each is how many steps there are
from the one before, where a step goes to the next place and from behind the last place
to the next code point.

Steps are numbers of variable length in base 36, the lowest digit first.  A digit below
a **threshold** ends the number.  The thresholds adapt to the numbers before, so that
numbers of like size take few digits.
-/

namespace LiveRoom.Domain.Punycode

/-! ## Numbers -/

/-- The digit of a value below 36: a letter, or a decimal digit from 26 on. -/
def digit (value : Nat) : Char :=
  if value < 26 then Char.ofNat (0x61 + value) else Char.ofNat (0x30 + (value - 26))

/-- The value of a digit; letters may be of either case. -/
def value? (c : Char) : Option Nat :=
  let code := c.toNat
  if 0x61 ≤ code && code ≤ 0x7A then some (code - 0x61)
  else if 0x41 ≤ code && code ≤ 0x5A then some (code - 0x41)
  else if 0x30 ≤ code && code ≤ 0x39 then some (code - 0x30 + 26)
  else none

/-- The threshold of a digit: `reach` counts from 36 in steps of 36. -/
def threshold (bias reach : Nat) : Nat := max 1 (min 26 (reach - bias))

theorem one_le_threshold (bias reach : Nat) : 1 ≤ threshold bias reach := Nat.le_max_left ..

/-- The digits of a number. -/
def digits (bias reach number : Nat) : List Char :=
  let limit := threshold bias reach
  if number < limit then [digit number]
  else
    digit (limit + (number - limit) % (36 - limit)) ::
      digits bias (reach + 36) ((number - limit) / (36 - limit))
termination_by number
decreasing_by
  have := one_le_threshold bias reach
  exact Nat.lt_of_le_of_lt (Nat.div_le_self _ _) (by omega)

/-- A number at the head of a text, each of whose digits counts `weight` times, and what
follows it. -/
def number? (bias reach weight : Nat) : List Char → Option (Nat × List Char)
  | [] => none
  | c :: text =>
    let limit := threshold bias reach
    (value? c).bind fun value =>
      if value < limit then some (value * weight, text)
      else (number? bias (reach + 36) (weight * (36 - limit)) text).map fun (number, text) =>
        (value * weight + number, text)

theorem length_lt_of_number? {bias reach weight number : Nat} {text rest : List Char}
    (h : number? bias reach weight text = some (number, rest)) : rest.length < text.length := by
  induction text generalizing reach weight number with
  | nil => simp [number?] at h
  | cons c text ih =>
    unfold number? at h
    obtain ⟨value, -, h⟩ := Option.bind_eq_some_iff.1 h
    split at h
    · cases h
      exact Nat.lt_succ_self _
    · obtain ⟨⟨other, rest⟩, hother, h⟩ := Option.map_eq_some_iff.1 h
      cases h
      exact Nat.lt_succ_of_lt (ih hother)

/-! ## Adapting -/

/-- How far thresholds move for numbers of a size. -/
def drift (size reach : Nat) : Nat :=
  if 455 < size then drift (size / 35) (reach + 36) else reach + 36 * size / (size + 38)
termination_by size
decreasing_by exact Nat.div_lt_self (by omega) (by decide)

/-- The bias behind a number of steps, when so many characters are there; the first number
counts for less. -/
def adapted (first : Bool) (steps count : Nat) : Nat :=
  let size := if first then steps / 700 else steps / 2
  drift (size + size / count) 0

/-- The bias in front of the first number. -/
def startBias : Nat := 72

/-- The first code point beyond ASCII. -/
def startCode : Nat := 0x80

/-! ## Writing -/

/-- **What is written so far**: the steps since the last number, the characters that are
there, and whether there was a number. -/
structure Progress where
  bias : Nat := startBias
  steps : Nat := 0
  count : Nat
  first : Bool := true
  text : List Char := []

/-- Goes on to the next character of the label while code points are at `code`. -/
def Progress.pass (code : Nat) (progress : Progress) (c : Char) : Progress :=
  if c.toNat < code then { progress with steps := progress.steps + 1 }
  else if c.toNat = code then
    { bias := adapted progress.first progress.steps (progress.count + 1)
      steps := 0
      count := progress.count + 1
      first := false
      text := progress.text ++ digits progress.bias 36 progress.steps }
  else progress

/-- Goes through the label once for each of some rising code points. -/
def Progress.goThrough (label : List Char) (progress : Progress) :
    (next : Nat) → (codes : List Nat) → Progress
  | _, [] => progress
  | next, code :: codes =>
    let there := { progress with
      steps := progress.steps + (code - next) * (progress.count + 1) }
    let passed := label.foldl (Progress.pass code) there
    Progress.goThrough label { passed with steps := passed.steps + 1 } (code + 1) codes

/-- The code points of a label beyond ASCII, rising. -/
def codes (label : List Char) : List Nat :=
  ((label.map Char.toNat).filter (startCode ≤ ·)).mergeSort.eraseReps

/-- **A label in Punycode.** -/
def encode (label : List Char) : List Char :=
  let plain := label.filter fun c => c.toNat < startCode
  (if plain = [] then [] else plain ++ ['-']) ++
    (Progress.goThrough label { count := plain.length } startCode (codes label)).text

/-! ## Reading -/

/-- Puts in the characters that a text tells, from a code point and a place on. -/
def putIn (bias code place : Nat) (first : Bool) (label text : List Char) : Option (List Char) :=
  match text with
  | [] => some label
  | c :: rest =>
    match h : number? bias 36 1 (c :: rest) with
    | none => none
    | some (steps, rest) =>
      let count := label.length + 1
      let code := code + (place + steps) / count
      let place := (place + steps) % count
      if code.isValidChar then
        putIn (adapted first steps count) code (place + 1) false
          (label.insertIdx place (Char.ofNat code)) rest
      else none
termination_by text.length
decreasing_by exact length_lt_of_number? h

/-- **The label that a text in Punycode tells.**  Its last hyphen ends the ASCII
characters, unless there are none. -/
def decode? (text : List Char) : Option (List Char) :=
  let back := text.reverse.takeWhile (· ≠ '-')
  let plain := (text.reverse.drop (back.length + 1)).reverse
  if text.any fun c => startCode ≤ c.toNat then none
  else if plain = [] then putIn startBias startCode 0 true [] text
  else putIn startBias startCode 0 true plain back.reverse

end LiveRoom.Domain.Punycode
