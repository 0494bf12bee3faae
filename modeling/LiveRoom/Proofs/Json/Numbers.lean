import LiveRoom.Proofs.Json.Grammar
import LiveRoom.Proofs.Text.Numeral
import LiveRoom.Json.Number
import Mathlib.Algebra.Group.Int.Defs
import Mathlib.Data.List.TakeWhile

/-!
# Numbers and their digits

A number is scanned from exactly its own text, as far as the digits go
(`Literal.exists_of_scan`, `Literal.scan_number`).  Scanning goes on while it can, so the
second half asks that what follows is nothing that could belong to the number (`Stops`).

Of the values only the integers matter here.  A literal is read as an integer exactly if it
has neither point nor exponent, is no zero with a minus sign, and fits 64 bits, signed or
unsigned (`Literal.value_eq_whole_iff`); digits beyond that do not wrap around.
-/

namespace LiveRoom.Json

variable {text rest : List Char} {ended : Cause}

/-! ## What follows a number -/

def NoDigit (text : List Char) : Prop := ∀ c ∈ text.head?, c.isDigit = false

/-- **A text that continues no number.** -/
def Stops (text : List Char) : Prop :=
  ∀ c ∈ text.head?, c.isDigit = false ∧ c ≠ '.' ∧ c ≠ 'e' ∧ c ≠ 'E'

theorem Stops.noDigit (h : Stops text) : NoDigit text := fun c hc => (h c hc).1

theorem stops_nil : Stops [] := by
  intro c hc
  cases hc

theorem stops_cons {c : Char} (h : c.isDigit = false ∧ c ≠ '.' ∧ c ≠ 'e' ∧ c ≠ 'E') :
    Stops (c :: text) := by
  rintro _ ⟨⟩
  exact h

theorem stops_of_isBlank {c : Char} (h : isBlank c = true) : Stops (c :: text) := by
  apply stops_cons
  simp only [isBlank, Bool.or_eq_true, beq_iff_eq] at h
  rcases h with ((rfl | rfl) | rfl) | rfl <;> decide

theorem Blanks.stops_append {before : List Char} (h : Blanks before) (hrest : Stops rest) :
    Stops (before ++ rest) := by
  cases before with
  | nil => exact hrest
  | cons c before => exact stops_of_isBlank (h c List.mem_cons_self)

theorem Blanks.stops (h : Blanks text) : Stops text := by
  simpa only [List.append_nil] using h.stops_append stops_nil

/-! ## Runs of digits -/

/-- The digits at the head of a text are digits, and the text is they and the rest. -/
theorem digitsOf_append_afterDigits (text : List Char) :
    digitsOf text ++ afterDigits text = text := List.takeWhile_append_dropWhile

theorem isDigit_of_mem_digitsOf {c : Char} (h : c ∈ digitsOf text) : c.isDigit = true :=
  List.mem_takeWhile_imp h

theorem digits_digitsOf (h : digitsOf text ≠ []) : Digits (digitsOf text) :=
  ⟨h, fun _ => isDigit_of_mem_digitsOf⟩

theorem digitsOf_of_noDigit (h : NoDigit text) : digitsOf text = [] := by
  cases text with
  | nil => rfl
  | cons c text =>
    have hc : c.isDigit = false := h c rfl
    simp [digitsOf, hc]

theorem digitsOf_append {digits : List Char} (hdigits : ∀ c ∈ digits, c.isDigit = true)
    (h : NoDigit rest) : digitsOf (digits ++ rest) = digits := by
  rw [digitsOf, List.takeWhile_append_of_pos hdigits]
  exact (congrArg (digits ++ ·) (digitsOf_of_noDigit h)).trans (List.append_nil digits)

theorem afterDigits_append {digits : List Char} (hdigits : ∀ c ∈ digits, c.isDigit = true)
    (h : NoDigit rest) : afterDigits (digits ++ rest) = rest := by
  have hsplit := digitsOf_append_afterDigits (digits ++ rest)
  rw [digitsOf_append hdigits h] at hsplit
  exact List.append_cancel_left hsplit

/-! ## The parts of a number -/

theorem scanMinus_eq (text : List Char) :
    text = (if (scanMinus text).1 then ['-'] else []) ++ (scanMinus text).2 := by
  unfold scanMinus
  split <;> rfl

theorem exists_of_scanWhole {digits : List Char} (h : scanWhole ended text = .ok (digits, rest)) :
    text = digits ++ rest ∧ Digits digits ∧ (digits.head? = some '0' → digits = ['0']) := by
  have hzero : Digits ['0'] := by
    refine ⟨List.cons_ne_nil _ _, ?_⟩
    intro c hc
    rw [List.mem_singleton.mp hc]
    rfl
  unfold scanWhole at h
  split at h
  · cases h
  · rename_i c after
    split at h
    · rename_i hc
      subst hc
      split at h
      · split at h
        · cases h
        · cases h
          exact ⟨rfl, hzero, fun _ => rfl⟩
      · cases h
        exact ⟨rfl, hzero, fun _ => rfl⟩
    · rename_i hc
      split at h
      · rename_i hdigit
        cases h
        refine ⟨?_, ⟨List.cons_ne_nil _ _, ?_⟩, fun hhead => absurd (Option.some.inj hhead) hc⟩
        · rw [List.cons_append, digitsOf_append_afterDigits]
        · intro d hd
          rcases List.mem_cons.mp hd with rfl | hd
          · exact hdigit
          · exact isDigit_of_mem_digitsOf hd
      · cases h

theorem scanWhole_digits {digits : List Char} (hdigits : Digits digits)
    (hzero : digits.head? = some '0' → digits = ['0']) (hrest : NoDigit rest) :
    scanWhole ended (digits ++ rest) = .ok (digits, rest) := by
  cases digits with
  | nil => exact absurd rfl hdigits.ne_nil
  | cons c others =>
    by_cases hc : c = '0'
    · subst hc
      obtain rfl : others = [] := (List.cons.inj (hzero rfl)).2
      cases rest with
      | nil => rfl
      | cons d rest =>
        have hd : d.isDigit = false := hrest d rfl
        simp [scanWhole, hd]
    · have hothers : ∀ d ∈ others, d.isDigit = true := fun d hd =>
        hdigits.isDigit d (List.mem_cons_of_mem _ hd)
      simp only [List.cons_append, scanWhole, if_neg hc,
        if_pos (hdigits.isDigit c List.mem_cons_self), digitsOf_append hothers hrest,
        afterDigits_append hothers hrest]

theorem exists_of_scanFraction {fraction : Option (List Char)}
    (h : scanFraction ended text = .ok (fraction, rest)) :
    ∃ body, text = body ++ rest ∧ SpellsFraction body fraction := by
  unfold scanFraction at h
  split at h
  · rename_i after
    split at h
    · rename_i hdigits
      cases h
      refine ⟨'.' :: digitsOf after, ?_, .some (digits_digitsOf hdigits)⟩
      rw [List.cons_append, digitsOf_append_afterDigits]
    · split at h <;> cases h
  · cases h
    exact ⟨[], rfl, .none⟩

theorem scanFraction_fraction {body : List Char} {fraction : Option (List Char)}
    (h : SpellsFraction body fraction) (hdigit : NoDigit rest) (hpoint : '.' ∉ rest.head?) :
    scanFraction ended (body ++ rest) = .ok (fraction, rest) := by
  cases h with
  | none =>
    rw [List.nil_append, scanFraction]
    rintro after rfl
    exact hpoint rfl
  | @some digits hdigits =>
    rw [List.cons_append, scanFraction, digitsOf_append hdigits.isDigit hdigit,
      afterDigits_append hdigits.isDigit hdigit, if_pos hdigits.ne_nil]

theorem exists_of_scanSign (text : List Char) :
    ∃ sign, text = sign ++ (scanSign text).2 ∧ SpellsSign sign (scanSign text).1 := by
  unfold scanSign
  split
  · exact ⟨['+'], rfl, .plus⟩
  · exact ⟨['-'], rfl, .minus⟩
  · exact ⟨[], rfl, .none⟩

theorem scanSign_sign {sign digits : List Char} {negative : Bool} (h : SpellsSign sign negative)
    (hdigits : Digits digits) (rest : List Char) :
    scanSign (sign ++ (digits ++ rest)) = (negative, digits ++ rest) := by
  cases h with
  | plus => rfl
  | minus => rfl
  | none =>
    cases digits with
    | nil => exact absurd rfl hdigits.ne_nil
    | cons d digits =>
      have hdigit : d.isDigit = true := hdigits.isDigit d List.mem_cons_self
      rw [List.nil_append, List.cons_append, scanSign]
      · intro after heq
        obtain rfl := (List.cons.inj heq).1
        cases hdigit
      · intro after heq
        obtain rfl := (List.cons.inj heq).1
        cases hdigit

theorem exists_of_scanExponent {exponent : Option (Bool × List Char)}
    (h : scanExponent ended text = .ok (exponent, rest)) :
    ∃ body, text = body ++ rest ∧ SpellsExponent body exponent := by
  unfold scanExponent at h
  split at h
  · cases h
    exact ⟨[], rfl, .none⟩
  · rename_i c after
    split at h
    · rename_i hletter
      simp only [Bool.or_eq_true, decide_eq_true_eq] at hletter
      dsimp only at h
      split at h
      · rename_i hdigits
        cases h
        obtain ⟨sign, htext, hsign⟩ := exists_of_scanSign after
        refine ⟨_, ?_, .some hletter hsign (digits_digitsOf hdigits)⟩
        rw [List.cons_append, List.append_assoc, digitsOf_append_afterDigits, ← htext]
      · split at h <;> cases h
    · cases h
      exact ⟨[], rfl, .none⟩

theorem scanExponent_exponent {body : List Char} {exponent : Option (Bool × List Char)}
    (h : SpellsExponent body exponent) (hrest : Stops rest) :
    scanExponent ended (body ++ rest) = .ok (exponent, rest) := by
  cases h with
  | none =>
    rw [List.nil_append]
    cases rest with
    | nil => rfl
    | cons c rest =>
      obtain ⟨-, -, he, hE⟩ := hrest c rfl
      rw [scanExponent, if_neg (by simp [he, hE])]
  | @some letter sign digits negative hletter hsign hdigits =>
    rw [List.cons_append, List.append_assoc, scanExponent,
      if_pos (by simpa using hletter), scanSign_sign hsign hdigits]
    dsimp only
    rw [digitsOf_append hdigits.isDigit hrest.noDigit,
      afterDigits_append hdigits.isDigit hrest.noDigit, if_pos hdigits.ne_nil]

/-! ## Whole numbers -/

/-- **A number that is scanned** is the text of its literal. -/
theorem Literal.exists_of_scan {literal : Literal} (h : scan ended text = .ok (literal, rest)) :
    ∃ body, text = body ++ rest ∧ SpellsNumber body literal := by
  unfold scan at h
  dsimp only at h
  split at h
  · cases h
  · rename_i whole behindWhole hwhole
    split at h
    · cases h
    · rename_i fraction behindFraction hfraction
      split at h
      · cases h
      · rename_i exponent after hexponent
        cases h
        obtain ⟨htext, hdigits, hzero⟩ := exists_of_scanWhole hwhole
        obtain ⟨fractionText, rfl, hspelled⟩ := exists_of_scanFraction hfraction
        obtain ⟨exponentText, rfl, hspelled'⟩ := exists_of_scanExponent hexponent
        refine ⟨_, ?_, .mk hdigits hzero hspelled hspelled'⟩
        rw [List.append_assoc, List.append_assoc, List.append_assoc, ← htext]
        exact scanMinus_eq text

/-- What stands behind the digits before the point starts with none. -/
theorem noDigit_of_fraction {fractionText exponentText : List Char}
    {fraction : Option (List Char)} {exponent : Option (Bool × List Char)}
    (hfraction : SpellsFraction fractionText fraction)
    (hexponent : SpellsExponent exponentText exponent) (hrest : Stops rest) :
    NoDigit (fractionText ++ (exponentText ++ rest)) ∧ NoDigit (exponentText ++ rest) ∧
      '.' ∉ (exponentText ++ rest).head? := by
  have hbehind : NoDigit (exponentText ++ rest) ∧ '.' ∉ (exponentText ++ rest).head? := by
    cases hexponent with
    | none => exact ⟨hrest.noDigit, fun hpoint => (hrest '.' hpoint).2.1 rfl⟩
    | some hletter _ _ =>
      constructor
      · rintro _ ⟨⟩
        rcases hletter with rfl | rfl <;> rfl
      · rintro ⟨⟩
        rcases hletter with hletter | hletter <;> cases hletter
  refine ⟨?_, hbehind⟩
  cases hfraction with
  | none => exact hbehind.1
  | some _ =>
    rintro _ ⟨⟩
    rfl

/-- **The text of a literal** is scanned as that literal. -/
theorem Literal.scan_number {body : List Char} {literal : Literal}
    (h : SpellsNumber body literal) (hrest : Stops rest) :
    scan ended (body ++ rest) = .ok (literal, rest) := by
  obtain @⟨negative, whole, fractionText, exponentText, fraction, exponent, hwhole, hzero,
    hfraction, hexponent⟩ := h
  obtain ⟨hbehindWhole, hbehindFraction, hpoint⟩ :=
    noDigit_of_fraction hfraction hexponent hrest
  have hsigned : scanMinus ((if negative then ['-'] else []) ++
      (whole ++ (fractionText ++ exponentText)) ++ rest) =
        (negative, whole ++ (fractionText ++ (exponentText ++ rest))) := by
    simp only [List.append_assoc]
    cases negative with
    | true => rfl
    | false =>
      cases whole with
      | nil => exact absurd rfl hwhole.ne_nil
      | cons d whole =>
        have hdigit : d.isDigit = true := hwhole.isDigit d List.mem_cons_self
        show scanMinus (d :: _) = _
        rw [scanMinus]
        · rfl
        · intro after heq
          obtain rfl := (List.cons.inj heq).1
          cases hdigit
  rw [scan, hsigned]
  dsimp only
  rw [scanWhole_digits hwhole hzero hbehindWhole]
  dsimp only
  rw [scanFraction_fraction hfraction hbehindFraction hpoint]
  dsimp only
  rw [scanExponent_exponent hexponent hrest]

/-- A wanted number is the text of its literal. -/
theorem exists_of_readNumber {number : Number} (h : readNumber text = .ok (number, rest)) :
    ∃ body literal, text = body ++ rest ∧ SpellsNumber body literal ∧
      literal.value rest = .ok number := by
  unfold readNumber at h
  split at h
  · cases h
  · rename_i literal after hscan
    obtain ⟨value, hvalue, heq⟩ := map_eq_ok_iff.mp h
    obtain ⟨rfl, rfl⟩ := Prod.mk.inj heq
    obtain ⟨body, htext, hbody⟩ := Literal.exists_of_scan hscan
    exact ⟨body, literal, htext, hbody, hvalue⟩

/-- The text of a literal that has a value is read as this. -/
theorem readNumber_number {body : List Char} {literal : Literal} {number : Number}
    (h : SpellsNumber body literal) (hvalue : literal.value rest = .ok number)
    (hrest : Stops rest) : readNumber (body ++ rest) = .ok (number, rest) := by
  rw [readNumber, Literal.scan_number h hrest]
  dsimp only
  rw [hvalue]
  rfl

/-! ## Integers -/

/-- **An integer as it is written**: digits without point and exponent, and with a minus sign
only if they are not all zero. -/
structure Literal.IsInteger (literal : Literal) (n : Int) : Prop where
  fraction : literal.fraction = none
  exponent : literal.exponent = none
  value : n = if literal.negative then -(Nat.ofDigitChars 10 literal.whole 0 : Int)
    else Nat.ofDigitChars 10 literal.whole 0
  minus : literal.negative = true → n ≠ 0

/-- Digits are gathered to the end exactly if their value fits. -/
theorem gather_eq_iff {n value : Nat} {digits : List Char} (hn : n < Nat.pow 2 64) :
    gather n digits = (value, []) ↔
      value = Nat.ofDigitChars 10 digits n ∧ value < Nat.pow 2 64 := by
  induction digits generalizing n with
  | nil =>
    show (n, []) = (value, []) ↔ value = n ∧ _
    constructor
    · rintro ⟨⟩
      exact ⟨rfl, hn⟩
    · rintro ⟨rfl, -⟩
      rfl
  | cons d digits ih =>
    have hvalue : n * 10 + digitValue d = 10 * n + (d.toNat - '0'.toNat) := by
      rw [Nat.mul_comm]
      rfl
    rw [gather, Nat.ofDigitChars_cons, ← hvalue]
    by_cases hfits : n * 10 + digitValue d < Nat.pow 2 64
    · rw [if_pos hfits, ih hfits]
    · -- The digits so far are too large already, and more digits make them no smaller.
      rw [if_neg hfits]
      have hle := Text.le_ofDigitChars (n * 10 + digitValue d) digits
      constructor
      · rintro ⟨⟩
      · rintro ⟨rfl, hlt⟩
        exact absurd (Nat.lt_of_le_of_lt hle hlt) hfits

/-- Digits alone, if they fit, are an integer, unless the minus sign makes them a zero or
takes them too low. -/
theorem Literal.value_of_integer {literal : Literal} (hfraction : literal.fraction = none)
    (hexponent : literal.exponent = none)
    (hfits : Nat.ofDigitChars 10 literal.whole 0 < Nat.pow 2 64) (rest : List Char) :
    let digits := Nat.ofDigitChars 10 literal.whole 0
    literal.value rest =
      if !literal.negative then .ok (.whole digits)
      else if digits = 0 || Nat.pow 2 63 < digits then
        .ok (.real (-(UInt64.ofNat digits).toFloat))
      else .ok (.whole (-(digits : Int))) := by
  have hgather := (gather_eq_iff (show 0 < Nat.pow 2 64 by decide)).mpr ⟨rfl, hfits⟩
  simp only [value, hgather, hfraction, hexponent, Option.getD_none, gather, List.isEmpty_nil,
    Option.isNone_none, Bool.and_self, if_true]

/-- An integer is read from digits alone, and these fit. -/
theorem Literal.integer_of_value {literal : Literal} {n : Int}
    (h : literal.value rest = .ok (.whole n)) :
    literal.fraction = none ∧ literal.exponent = none ∧
      Nat.ofDigitChars 10 literal.whole 0 < Nat.pow 2 64 := by
  unfold value at h
  dsimp only at h
  split at h
  · rename_i hdigits
    simp only [Bool.and_eq_true, List.isEmpty_iff, Option.isNone_iff_eq_none] at hdigits
    obtain ⟨⟨hall, hfraction⟩, hexponent⟩ := hdigits
    have hgather : gather 0 literal.whole = ((gather 0 literal.whole).1, []) :=
      Prod.ext rfl hall
    obtain ⟨hvalue, hfits⟩ := (gather_eq_iff (by decide)).mp hgather
    exact ⟨hfraction, hexponent, hvalue ▸ hfits⟩
  · -- Whatever else a number is, it is read as a double or not at all.
    repeat' split at h
    all_goals cases h

/-- **A literal is read as an integer** exactly if it is one and fits 64 bits. -/
theorem Literal.value_eq_whole_iff {literal : Literal} {n : Int} :
    literal.value rest = .ok (.whole n) ↔
      literal.IsInteger n ∧ -(2 ^ 63 : Int) ≤ n ∧ n < 2 ^ 64 := by
  have h63 : Nat.pow 2 63 = 9223372036854775808 := by decide
  have h64 : Nat.pow 2 64 = 18446744073709551616 := by decide
  constructor
  · intro h
    obtain ⟨hfraction, hexponent, hfits⟩ := integer_of_value h
    rw [value_of_integer hfraction hexponent hfits] at h
    split at h
    · rename_i hnegative
      simp only [Bool.not_eq_true'] at hnegative
      obtain rfl := Number.whole.inj (Except.ok.inj h)
      refine ⟨⟨hfraction, hexponent, by rw [hnegative]; rfl, ?_⟩, by omega, by omega⟩
      rw [hnegative]
      rintro ⟨⟩
    · rename_i hnegative
      simp only [Bool.not_eq_true', Bool.not_eq_false] at hnegative
      split at h
      · cases h
      · rename_i hlow
        simp only [Bool.or_eq_true, decide_eq_true_eq, not_or] at hlow
        obtain rfl := Number.whole.inj (Except.ok.inj h)
        refine ⟨⟨hfraction, hexponent, by rw [hnegative]; rfl, ?_⟩, by omega, by omega⟩
        rintro -
        omega
  · rintro ⟨⟨hfraction, hexponent, hvalue, hminus⟩, hlow, hhigh⟩
    cases hnegative : literal.negative with
    | false =>
      rw [hnegative] at hvalue
      simp only [Bool.false_eq_true, if_false] at hvalue
      rw [value_of_integer hfraction hexponent (by omega), hnegative, hvalue]
      rfl
    | true =>
      have hnonzero := hminus hnegative
      rw [hnegative] at hvalue
      simp only [if_true] at hvalue
      rw [value_of_integer hfraction hexponent (by omega), hnegative, hvalue]
      rw [if_neg (by decide), if_neg]
      simp only [Bool.or_eq_true, decide_eq_true_eq]
      omega

end LiveRoom.Json
