import LiveRoom.Proofs.Text.Blank
import LiveRoom.Text.Numeral
import Mathlib.Data.Option.Basic

/-!
# What a numeral spells

A numeral is at most one plus sign and then one digit or more (`Text.Spells`).  What it
spells is a number of any size.  It has that value exactly if the number fits into a word
(`Text.numeral?_eq_some_iff`): zeros in front make no difference to that, and since a number
only grows with every digit, one that has outgrown the word does not come back into it.

Around a numeral there may be blanks, and trimming takes off just these
(`Text.numeral?_trimmed_eq_some_iff`).
-/

namespace LiveRoom.Text

/-! ## Digits -/

theorem le_ofDigitChars (n : Nat) (digits : List Char) : n ≤ Nat.ofDigitChars 10 digits n := by
  induction digits generalizing n with
  | nil => exact Nat.le_refl n
  | cons d digits ih =>
    rw [Nat.ofDigitChars_cons]
    refine Nat.le_trans ?_ (ih _)
    omega

theorem pushDigit?_eq_some_iff {number next : Nat} {digit : Char} :
    pushDigit? number digit = some next ↔
      digit.isDigit ∧ next = 10 * number + (digit.toNat - '0'.toNat) ∧ next < wordSize := by
  unfold pushDigit?
  simp only [Option.bind_eq_bind, Option.bind_eq_some_iff, Option.guard_eq_some',
    Nat.mul_comm number 10]
  constructor
  · rintro ⟨-, hdigit, -, -, -, hsum, ⟨⟩⟩
    exact ⟨hdigit, rfl, hsum⟩
  · rintro ⟨hdigit, rfl, hsum⟩
    -- Ten times the number is no larger than the sum.
    have htens := Nat.lt_of_le_of_lt (Nat.le_add_right _ _) hsum
    exact ⟨(), hdigit, (), htens, (), hsum, rfl⟩

/-- **Digits are taken to the end** exactly if the number that they spell fits. -/
theorem foldlM_pushDigit?_eq_some_iff {digits : List Char} {start number : Nat}
    (hstart : start < wordSize) :
    digits.foldlM pushDigit? start = some number ↔
      (∀ c ∈ digits, c.isDigit) ∧ number = Nat.ofDigitChars 10 digits start ∧
        number < wordSize := by
  induction digits generalizing start with
  | nil =>
    show some start = some number ↔ _ ∧ number = start ∧ _
    constructor
    · rintro ⟨⟩
      exact ⟨by simp, rfl, hstart⟩
    · rintro ⟨-, rfl, -⟩
      rfl
  | cons d digits ih =>
    rw [List.foldlM_cons, Nat.ofDigitChars_cons, List.forall_mem_cons]
    constructor
    · intro h
      obtain ⟨next, hnext, hothers⟩ := Option.bind_eq_some_iff.mp h
      obtain ⟨hdigit, rfl, hfits⟩ := pushDigit?_eq_some_iff.mp hnext
      obtain ⟨hall, hnumber, hlt⟩ := (ih hfits).mp hothers
      exact ⟨⟨hdigit, hall⟩, hnumber, hlt⟩
    · rintro ⟨⟨hdigit, hall⟩, hnumber, hlt⟩
      have hfits : 10 * start + (d.toNat - '0'.toNat) < wordSize := by
        refine Nat.lt_of_le_of_lt ?_ hlt
        rw [hnumber]
        exact le_ofDigitChars _ digits
      exact Option.bind_eq_some_iff.mpr
        ⟨_, pushDigit?_eq_some_iff.mpr ⟨hdigit, rfl, hfits⟩, (ih hfits).mpr ⟨hall, hnumber, hlt⟩⟩

/-! ## Numerals -/

/-- **A text spells a number**: at most one plus sign, and then one digit or more, of which
the number is the value.  There may be any number of zeros in front. -/
def Spells (number : Nat) (text : List Char) : Prop :=
  ∃ sign digits : List Char, text = sign ++ digits ∧ (sign = [] ∨ sign = ['+']) ∧
    digits ≠ [] ∧ (∀ c ∈ digits, c.isDigit) ∧ Nat.ofDigitChars 10 digits 0 = number

/-- Behind a sign, or where there is none, come the digits. -/
theorem afterPlus_append {sign digits : List Char} (hsign : sign = [] ∨ sign = ['+'])
    (hdigits : ∀ c ∈ digits, c.isDigit) : afterPlus (sign ++ digits) = digits := by
  rcases hsign with rfl | rfl
  · cases digits with
    | nil => rfl
    | cons d digits =>
      have hd : d ≠ '+' := by
        rintro rfl
        have := hdigits '+' List.mem_cons_self
        cases this
      rw [List.nil_append, afterPlus]
      rintro others heq
      exact hd (List.cons.inj heq).1
  · rfl

/-- Every text is a sign, or none, and what comes behind it. -/
theorem exists_sign (text : List Char) :
    ∃ sign, (sign = [] ∨ sign = ['+']) ∧ text = sign ++ afterPlus text := by
  unfold afterPlus
  split
  · exact ⟨['+'], .inr rfl, rfl⟩
  · exact ⟨[], .inl rfl, rfl⟩

/-- **A text has a value** exactly if it spells a number that fits into a word. -/
theorem numeral?_eq_some_iff {text : List Char} {number : Nat} :
    numeral? text = some number ↔ Spells number text ∧ number < wordSize := by
  have hzero : 0 < wordSize := by decide
  have htaken : numeral? text = some number ↔
      afterPlus text ≠ [] ∧ (afterPlus text).foldlM pushDigit? 0 = some number := by
    unfold numeral?
    cases afterPlus text <;> simp
  rw [htaken, foldlM_pushDigit?_eq_some_iff hzero]
  constructor
  · rintro ⟨hne, hdigits, hnumber, hfits⟩
    obtain ⟨sign, hsign, htext⟩ := exists_sign text
    exact ⟨⟨sign, afterPlus text, htext, hsign, hne, hdigits, hnumber.symm⟩, hfits⟩
  · rintro ⟨⟨sign, digits, rfl, hsign, hne, hdigits, hnumber⟩, hfits⟩
    rw [afterPlus_append hsign hdigits]
    exact ⟨hne, hdigits, hnumber.symm, hfits⟩

/-! ## Numerals with blanks around them -/

/-- **A typed text chooses a number**: blanks, a text that spells the number, blanks. -/
def Chooses (text : List Char) (number : Nat) : Prop :=
  ∃ lead numeral tail : List Char, text = lead ++ numeral ++ tail ∧
    (∀ c ∈ lead, isBlank c) ∧ (∀ c ∈ tail, isBlank c) ∧ Spells number numeral

theorem not_isBlank_of_spells {number : Nat} {text : List Char} (h : Spells number text) :
    ∀ c ∈ text, isBlank c = false := by
  have hdigit : ∀ c : Char, c.isDigit → isBlank c = false := by
    intro c hc
    obtain ⟨hlow, hhigh⟩ : 48 ≤ c.toNat ∧ c.toNat ≤ 57 := by
      simpa [Char.isDigit, UInt32.le_iff_toNat_le] using hc
    -- The digits lie between the space and the next blank, which is a control.
    simp only [isBlank, Ranges.has, blanks, List.any_cons, List.any_nil, Bool.or_false,
      Bool.or_eq_false_iff, Bool.and_eq_false_imp, decide_eq_true_eq, decide_eq_false_iff_not]
    omega
  obtain ⟨sign, digits, rfl, hsign, -, hdigits, -⟩ := h
  intro c hc
  rcases List.mem_append.mp hc with hc | hc
  · rcases hsign with rfl | rfl
    · cases hc
    · obtain rfl := List.mem_singleton.mp hc
      decide
  · exact hdigit c (hdigits c hc)

/-- **Trimming finds the numeral** in a typed text. -/
theorem chooses_iff {text : List Char} {number : Nat} :
    Chooses text number ↔ Spells number (trim text) := by
  constructor
  · rintro ⟨lead, numeral, tail, rfl, hlead, htail, hspells⟩
    have hplain := not_isBlank_of_spells hspells
    rw [trim_append hlead htail (fun c hc => hplain c (List.mem_of_mem_head? hc))
      fun c hc => hplain c (List.mem_of_mem_getLast? hc)]
    exact hspells
  · intro h
    obtain ⟨lead, tail, htext, hlead, htail⟩ := exists_append_trim text
    exact ⟨lead, trim text, tail, htext, hlead, htail, h⟩

end LiveRoom.Text
