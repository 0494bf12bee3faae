import LiveRoom.Json.Token

/-!
# Numbers

A number is first scanned into its parts (`Literal.scan`), which also decides
whether it is well formed; `Literal.value` then says which number it is.

An integer that fits 64 bits, signed or unsigned, is exact.  Everything else, a
minus zero included, is a double.  Its significand is gathered digit by digit
while it still fits 64 unsigned bits, the digits beyond only move the decimal
point, and the result is scaled once by a power of ten.  This is not always the
nearest double; where it would be infinite the number is out of range.
-/

namespace LiveRoom.Json

/-- **A number as it is written**: an optional sign, digits, and where present the
digits after the point and the digits of the exponent. -/
structure Literal where
  negative : Bool
  whole : List Char
  fraction : Option (List Char)
  /-- Whether the exponent is negative, and its digits. -/
  exponent : Option (Bool × List Char)

/-- The digits at the head of a text. -/
def digitsOf (text : List Char) : List Char := text.takeWhile Char.isDigit

/-- What follows the digits at the head of a text. -/
def afterDigits (text : List Char) : List Char := text.dropWhile Char.isDigit

/-- The digits before the point: a single zero, or digits that start with none.
`ended` is the cause to report where the text ends too early. -/
def scanWhole (ended : Cause) : List Char → Read (List Char)
  | [] => .error (.at ended [])
  | c :: text =>
    if c = '0' then
      match text with
      | d :: _ => if d.isDigit then .error (.after .invalidNumber text) else .ok (['0'], text)
      | [] => .ok (['0'], [])
    else if c.isDigit then .ok (c :: digitsOf text, afterDigits text)
    else .error (.after .invalidNumber (c :: text))

/-- A point with at least one digit after it, or nothing. -/
def scanFraction (ended : Cause) : List Char → Read (Option (List Char))
  | '.' :: text =>
    if digitsOf text ≠ [] then .ok (some (digitsOf text), afterDigits text)
    else if text = [] then .error (.at ended [])
    else .error (.after .invalidNumber text)
  | text => .ok (none, text)

/-- The sign of an exponent. -/
def scanSign : List Char → Bool × List Char
  | '+' :: text => (false, text)
  | '-' :: text => (true, text)
  | text => (false, text)

/-- The letter `e` with an optional sign and at least one digit after it, or
nothing. -/
def scanExponent (ended : Cause) : List Char → Read (Option (Bool × List Char))
  | [] => .ok (none, [])
  | c :: text =>
    if c = 'e' || c = 'E' then
      let signed := scanSign text
      if digitsOf signed.2 ≠ [] then
        .ok (some (signed.1, digitsOf signed.2), afterDigits signed.2)
      else if signed.2 = [] then .error (.at ended [])
      else .error (.after .invalidNumber signed.2)
    else .ok (none, c :: text)

/-- The minus sign in front of a number. -/
def scanMinus : List Char → Bool × List Char
  | '-' :: text => (true, text)
  | text => (false, text)

/-- **A number at the head of a text.** -/
def Literal.scan (ended : Cause) (text : List Char) : Read Literal :=
  let signed := scanMinus text
  match scanWhole ended signed.2 with
  | .error fault => .error fault
  | .ok (whole, text) =>
    match scanFraction ended text with
    | .error fault => .error fault
    | .ok (fraction, text) =>
      match scanExponent ended text with
      | .error fault => .error fault
      | .ok (exponent, text) => .ok (⟨signed.1, whole, fraction, exponent⟩, text)

/-! ## Every number takes a character -/

theorem length_afterDigits_le (text : List Char) : (afterDigits text).length ≤ text.length :=
  (List.dropWhile_suffix _).length_le

theorem length_scanMinus_le (text : List Char) : (scanMinus text).2.length ≤ text.length := by
  unfold scanMinus
  split <;> simp

theorem length_scanSign_le (text : List Char) : (scanSign text).2.length ≤ text.length := by
  unfold scanSign
  split <;> simp

theorem length_lt_of_scanWhole {ended : Cause} {text rest digits : List Char}
    (h : scanWhole ended text = .ok (digits, rest)) : rest.length < text.length := by
  unfold scanWhole at h
  split at h
  · contradiction
  · rename_i c text
    split at h
    · split at h
      · split at h
        · contradiction
        · simp only [Except.ok.injEq, Prod.mk.injEq] at h
          simp [← h.2]
      · simp only [Except.ok.injEq, Prod.mk.injEq] at h
        simp [← h.2]
    · split at h
      · simp only [Except.ok.injEq, Prod.mk.injEq] at h
        rw [← h.2]
        exact Nat.lt_succ_of_le (length_afterDigits_le text)
      · contradiction

theorem length_le_of_scanFraction {ended : Cause} {text rest : List Char}
    {fraction : Option (List Char)} (h : scanFraction ended text = .ok (fraction, rest)) :
    rest.length ≤ text.length := by
  unfold scanFraction at h
  split at h
  · rename_i text
    split at h
    · simp only [Except.ok.injEq, Prod.mk.injEq] at h
      rw [← h.2]
      exact Nat.le_succ_of_le (length_afterDigits_le text)
    · split at h <;> contradiction
  · simp only [Except.ok.injEq, Prod.mk.injEq] at h
    simp [← h.2]

theorem length_le_of_scanExponent {ended : Cause} {text rest : List Char}
    {exponent : Option (Bool × List Char)} (h : scanExponent ended text = .ok (exponent, rest)) :
    rest.length ≤ text.length := by
  unfold scanExponent at h
  split at h
  · simp only [Except.ok.injEq, Prod.mk.injEq] at h
    simp [← h.2]
  · rename_i c text
    split at h
    · dsimp only at h
      split at h
      · simp only [Except.ok.injEq, Prod.mk.injEq] at h
        rw [← h.2]
        have := length_afterDigits_le (scanSign text).2
        have := length_scanSign_le text
        simp only [List.length_cons]
        omega
      · split at h <;> contradiction
    · simp only [Except.ok.injEq, Prod.mk.injEq] at h
      simp [← h.2]

theorem Literal.length_lt_of_scan {ended : Cause} {text rest : List Char} {literal : Literal}
    (h : Literal.scan ended text = .ok (literal, rest)) : rest.length < text.length := by
  unfold Literal.scan at h
  dsimp only at h
  split at h
  · contradiction
  · rename_i hw
    split at h
    · contradiction
    · rename_i hf
      split at h
      · contradiction
      · rename_i he
        simp only [Except.ok.injEq, Prod.mk.injEq] at h
        have h1 := length_scanMinus_le text
        have h2 := length_lt_of_scanWhole hw
        have h3 := length_le_of_scanFraction hf
        have h4 := length_le_of_scanExponent he
        rw [← h.2]
        omega

/-! ## The value of a number -/

/-- **A number as it is read**: an integer of 64 bits, signed or unsigned, or a
double. -/
inductive Number where
  | whole (value : Int)
  | real (value : Float)

def digitValue (c : Char) : Nat := c.toNat - '0'.toNat

/-- Continues a significand with digits, as long as it stays below `2 ^ 64`; the
second part is the digits that no longer fit. -/
def gather (significand : Nat) : List Char → Nat × List Char
  | [] => (significand, [])
  | d :: digits =>
    if significand * 10 + digitValue d < Nat.pow 2 64 then
      gather (significand * 10 + digitValue d) digits
    else (significand, d :: digits)

/-- The digits of an exponent as a number, or what follows the digit that takes it
beyond `2 ^ 31`. -/
def exponentValue (value : Nat) : List Char → Except (List Char) Nat
  | [] => .ok value
  | d :: digits =>
    if value * 10 + digitValue d < Nat.pow 2 31 then
      exponentValue (value * 10 + digitValue d) digits
    else .error digits

/-- A power of ten as a double, for exponents up to 308. -/
def powerOfTen (n : Nat) : Float := Float.ofScientific 1 false n

/-- A double times a power of ten, or `none` where that is infinite. -/
def scale (x : Float) (exponent : Int) : Option Float :=
  if exponent.natAbs ≤ 308 then
    if 0 ≤ exponent then
      let scaled := x * powerOfTen exponent.natAbs
      if scaled.isInf then none else some scaled
    else some (x / powerOfTen exponent.natAbs)
  else if x == 0 then some x
  else if 0 ≤ exponent then none
  else scale (x / powerOfTen 308) (exponent + 308)
termination_by exponent.natAbs
decreasing_by omega

/-- A double with its sign. -/
def signed (negative : Bool) (x : Float) : Float := if negative then -x else x

/-- **The value of a number**, which ends where `rest` begins. -/
def Literal.value (l : Literal) (rest : List Char) : Except Fault Number :=
  let whole := gather 0 l.whole
  let fraction := gather whole.1 (l.fraction.getD [])
  let significand := fraction.1
  if whole.2.isEmpty && l.fraction.isNone && l.exponent.isNone then
    if !l.negative then .ok (.whole significand)
    else if significand = 0 || Nat.pow 2 63 < significand then
      .ok (.real (-(UInt64.ofNat significand).toFloat))
    else .ok (.whole (-(significand : Int)))
  else
    let shift : Int :=
      (whole.2.length : Int) - ((l.fraction.getD []).length - fraction.2.length : Nat)
    let finish (exponent : Int) : Except Fault Number :=
      match scale (UInt64.ofNat significand).toFloat exponent with
      | some x => .ok (.real (signed l.negative x))
      | none => .error (.at .numberOutOfRange rest)
    match l.exponent with
    | none => finish shift
    | some (negative, digits) =>
      match exponentValue 0 digits with
      | .ok n => finish (if negative then shift - n else shift + n)
      | .error unread =>
        if significand ≠ 0 && !negative then
          .error (.at .numberOutOfRange (unread ++ rest))
        else .ok (.real (signed l.negative 0))

/-- **A wanted number** at the head of a text. -/
def readNumber (text : List Char) : Read Number :=
  match Literal.scan .endInValue text with
  | .error fault => .error fault
  | .ok (literal, rest) => (literal.value rest).map fun value => (value, rest)

theorem length_lt_of_readNumber {text rest : List Char} {value : Number}
    (h : readNumber text = .ok (value, rest)) : rest.length < text.length := by
  unfold readNumber at h
  split at h
  · contradiction
  · rename_i hs
    obtain ⟨v, -, hv⟩ := map_eq_ok_iff.1 h
    simp only [Prod.mk.injEq] at hv
    rw [← hv.2]
    exact Literal.length_lt_of_scan hs

end LiveRoom.Json
