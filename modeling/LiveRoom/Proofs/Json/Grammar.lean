import LiveRoom.Proofs.Json.Layout
import Mathlib.Data.List.TakeWhile

/-!
# What a JSON text is

The readers of this library take a text apart character by character.  Here is the other
side, which knows nothing of them: the grammar of JSON, as a relation between a text and
the value that it spells.

A `Term` is a value as it is **written**.  Its strings are kept as the pieces they are made
of and its numbers as their digits, since a value that nobody asks for is checked for its
form alone: an escape may stand for half a character there, and a number may be larger than
anything that fits.  `RawString.value?` says which characters a string stands for, if it
stands for any.

`Spells text term` says that the text is the term from its first character to its last.
Blanks may stand after an opening bracket, before a closing one and around every comma and
colon; `Document` allows them at both ends as well.
-/

namespace LiveRoom.Json

def Blanks (text : List Char) : Prop := ∀ c ∈ text, isBlank c = true

/-! ## Strings -/

/-- **A piece of a string** as it is written: a character, a letter that stands for one, or
a number of sixteen bits in hexadecimal digits. -/
inductive Piece where
  | plain (c : Char) (quote : c ≠ '"') (slash : c ≠ '\\') (low : 0x20 ≤ c.toNat)
  | letter (letter value : Char) (known : shortEscape letter = some value)
  | digits (a b c d : Char) (unit : Nat) (known : hexNumber a b c d = some unit)

def Piece.text : Piece → List Char
  | .plain c _ _ _ => [c]
  | .letter c _ _ => ['\\', c]
  | .digits a b c d _ _ => ['\\', 'u', a, b, c, d]

/-- **A string as it is written.** -/
abbrev RawString := List Piece

namespace RawString

/-- The text of a string with its quotes. -/
def quoted (raw : RawString) : List Char := '"' :: (raw.flatMap Piece.text ++ ['"'])

/-- **The characters of a string.**  A number that is half of a character needs the other
half right behind it. -/
def value? : RawString → Option (List Char)
  | [] => some []
  | .plain c _ _ _ :: raw => (value? raw).map (c :: ·)
  | .letter _ c _ :: raw => (value? raw).map (c :: ·)
  | .digits _ _ _ _ unit _ :: raw =>
    if Utf16.isTrail unit then none
    else if Utf16.isLead unit then
      match raw with
      | .digits _ _ _ _ trail _ :: raw =>
        if Utf16.isTrail trail then (value? raw).map (Utf16.paired unit trail :: ·) else none
      | _ => none
    else (value? raw).map (Char.ofNat unit :: ·)

end RawString

/-! ## Numbers -/

/-- One digit or more. -/
structure Digits (text : List Char) : Prop where
  ne_nil : text ≠ []
  isDigit : ∀ c ∈ text, c.isDigit = true

/-- The sign of an exponent, which may be left out. -/
inductive SpellsSign : List Char → (negative : Bool) → Prop where
  | none : SpellsSign [] false
  | plus : SpellsSign ['+'] false
  | minus : SpellsSign ['-'] true

/-- A point and digits, or nothing. -/
inductive SpellsFraction : List Char → Option (List Char) → Prop where
  | none : SpellsFraction [] none
  | some {digits : List Char} (h : Digits digits) : SpellsFraction ('.' :: digits) (some digits)

/-- A letter, a sign and digits, or nothing. -/
inductive SpellsExponent : List Char → Option (Bool × List Char) → Prop where
  | none : SpellsExponent [] none
  | some {letter : Char} {sign digits : List Char} {negative : Bool}
      (hletter : letter = 'e' ∨ letter = 'E') (hsign : SpellsSign sign negative)
      (h : Digits digits) : SpellsExponent (letter :: (sign ++ digits)) (some (negative, digits))

/-- **The text of a number.**  Its digits before the point start with a zero only if that is
all of them. -/
inductive SpellsNumber : List Char → Literal → Prop where
  | mk {negative : Bool} {whole fractionText exponentText : List Char}
      {fraction : Option (List Char)} {exponent : Option (Bool × List Char)}
      (hwhole : Digits whole) (hzero : whole.head? = some '0' → whole = ['0'])
      (hfraction : SpellsFraction fractionText fraction)
      (hexponent : SpellsExponent exponentText exponent) :
      SpellsNumber ((if negative then ['-'] else []) ++ (whole ++ (fractionText ++ exponentText)))
        ⟨negative, whole, fraction, exponent⟩

/-! ## Values -/

/-- **A JSON value as it is written**, the members of an object in their order. -/
inductive Term where
  | null
  | flag (value : Bool)
  | number (literal : Literal)
  | string (raw : RawString)
  | list (items : List Term)
  | object (members : List (RawString × Term))

section Items
variable {α : Type} (spells : List Char → α → Prop)

/-- What stands before an item: blanks, and between two items a comma. -/
inductive Separator : (first : Bool) → List Char → Prop where
  | blanks {before : List Char} (h : Blanks before) : Separator true before
  | comma {before after : List Char} (hbefore : Blanks before) (hafter : Blanks after) :
      Separator false (before ++ ',' :: after)

/-- **The items of a container**, from the first one on or those behind it, and the blanks
before the closing bracket. -/
inductive Items : (first : Bool) → List Char → List α → Prop where
  | none {first : Bool} {blanks : List Char} (h : Blanks blanks) : Items first blanks []
  | item {first : Bool} {separator body others : List Char} {item : α} {items : List α}
      (hseparator : Separator first separator) (h : spells body item)
      (hothers : Items false others items) :
      Items first (separator ++ (body ++ others)) (item :: items)

/-- **A member of an object**: its key, a colon and its value. -/
inductive Member : List Char → RawString × α → Prop where
  | mk {key : RawString} {before after body : List Char} {value : α}
      (hbefore : Blanks before) (hafter : Blanks after) (h : spells body value) :
      Member (key.quoted ++ (before ++ ':' :: (after ++ body))) (key, value)

end Items

/-- **The text of a value**, from its first character to its last. -/
inductive Spells : List Char → Term → Prop where
  | null : Spells ['n', 'u', 'l', 'l'] .null
  | flag (value : Bool) : Spells (flagWord value) (.flag value)
  | number {text : List Char} {literal : Literal} (h : SpellsNumber text literal) :
      Spells text (.number literal)
  | string (raw : RawString) : Spells raw.quoted (.string raw)
  | list {inner : List Char} {items : List Term} (h : Items Spells true inner items) :
      Spells ('[' :: (inner ++ [']'])) (.list items)
  | object {inner : List Char} {members : List (RawString × Term)}
      (h : Items (Member Spells) true inner members) :
      Spells ('\x7b' :: (inner ++ ['\x7d'])) (.object members)

/-- **A whole text** spells a value if it is that value with blanks around it. -/
def Document (text : List Char) (term : Term) : Prop :=
  ∃ before body after, Blanks before ∧ Blanks after ∧ text = before ++ (body ++ after) ∧
    Spells body term

theorem RawString.quoted_append (raw : RawString) (rest : List Char) :
    raw.quoted ++ rest = '"' :: (raw.flatMap Piece.text ++ '"' :: rest) := by
  rw [quoted, List.cons_append, List.append_assoc]
  rfl

/-! ## Blanks -/

section Blanks
variable {text before rest : List Char} {c : Char}

theorem blanks_nil : Blanks [] := List.forall_mem_nil _

theorem Blanks.append {after : List Char} (h : Blanks before) (h' : Blanks after) :
    Blanks (before ++ after) := by
  intro c hc
  rcases List.mem_append.mp hc with hc | hc
  · exact h c hc
  · exact h' c hc

/-- Blanks before a character that is none are passed over. -/
theorem skipBlank_blanks (h : Blanks before) (hc : isBlank c = false) (rest : List Char) :
    skipBlank (before ++ c :: rest) = c :: rest := by
  rw [skipBlank_append h, skipBlank_cons hc]

theorem skipBlank_eq_nil_of_blanks (h : Blanks text) : skipBlank text = [] := by
  rw [← List.append_nil text, skipBlank_append h]
  rfl

/-- What is passed over are blanks. -/
theorem exists_blanks_of_skipBlank (text : List Char) :
    ∃ before, Blanks before ∧ text = before ++ skipBlank text :=
  ⟨text.takeWhile isBlank, fun _ => List.mem_takeWhile_imp, List.takeWhile_append_dropWhile.symm⟩

theorem blanks_of_skipBlank_eq_nil (h : skipBlank text = []) : Blanks text := by
  obtain ⟨before, hbefore, htext⟩ := exists_blanks_of_skipBlank text
  rw [h, List.append_nil] at htext
  exact htext ▸ hbefore

theorem exists_blanks_of_skipBlank_eq (h : skipBlank text = rest) :
    ∃ before, Blanks before ∧ text = before ++ rest :=
  h ▸ exists_blanks_of_skipBlank text

theorem skipBlank_quoted (h : Blanks before) (raw : RawString) (rest : List Char) :
    skipBlank (before ++ (raw.quoted ++ rest)) =
      '"' :: (raw.flatMap Piece.text ++ '"' :: rest) := by
  rw [raw.quoted_append]
  exact skipBlank_blanks h rfl _

end Blanks

/-! ## Words -/

theorem eq_append_of_literal {word text rest : List Char} (h : literal word text = .ok rest) :
    text = word ++ rest := by
  induction word generalizing text with
  | nil =>
    cases h
    rfl
  | cons w word ih =>
    cases text with
    | nil => cases h
    | cons c text =>
      unfold literal at h
      split at h
      · rename_i hc
        rw [hc, ih h, List.cons_append]
      · cases h

theorem literal_append (word rest : List Char) : literal word (word ++ rest) = .ok rest := by
  induction word with
  | nil => rfl
  | cons w word ih => rw [List.cons_append, literal, if_pos rfl, ih]

/-! ## How a value starts -/

/-- A number starts with a minus sign or a digit. -/
theorem SpellsNumber.exists_cons {text : List Char} {literal : Literal}
    (h : SpellsNumber text literal) :
    ∃ c rest, text = c :: rest ∧ (c = '-' || c.isDigit) = true := by
  obtain @⟨negative, whole, fractionText, exponentText, _, _, hwhole, -, -, -⟩ := h
  cases negative with
  | true => exact ⟨'-', _, rfl, rfl⟩
  | false =>
    cases whole with
    | nil => exact absurd rfl hwhole.ne_nil
    | cons d whole =>
      have hdigit : d.isDigit = true := hwhole.isDigit d List.mem_cons_self
      exact ⟨d, _, rfl, by rw [hdigit, Bool.or_true]⟩

/-- Other characters do not start a number. -/
theorem ne_of_starts_number {c d : Char} (hc : (c = '-' || c.isDigit) = true)
    (hd : (d = '-' || d.isDigit) = false) : c ≠ d := by
  rintro rfl
  rw [hc] at hd
  cases hd

/-- **A value starts with no blank and with no closing bracket.** -/
theorem Spells.exists_cons {text : List Char} {term : Term} (h : Spells text term) :
    ∃ c rest, text = c :: rest ∧ isBlank c = false ∧ c ≠ ']' ∧ c ≠ '\x7d' := by
  cases h with
  | null => exact ⟨'n', _, rfl, by decide⟩
  | flag value => cases value <;> exact ⟨_, _, rfl, by decide⟩
  | string raw => exact ⟨'"', _, rfl, by decide⟩
  | list h => exact ⟨'[', _, rfl, by decide⟩
  | object h => exact ⟨'\x7b', _, rfl, by decide⟩
  | number h =>
    obtain ⟨c, rest, rfl, hc⟩ := h.exists_cons
    refine ⟨c, rest, rfl, ?_, ?_, ?_⟩
    · rw [Bool.eq_false_iff]
      intro hblank
      simp only [isBlank, Bool.or_eq_true, beq_iff_eq] at hblank
      rcases hblank with ((rfl | rfl) | rfl) | rfl <;> cases hc
    · rintro rfl
      cases hc
    · rintro rfl
      cases hc

end LiveRoom.Json
