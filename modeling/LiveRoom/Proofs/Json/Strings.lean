import LiveRoom.Json.Basic
import LiveRoom.Json.Token

/-!
# Strings both ways

A string that was written is read back, whatever its characters are and whatever follows
its closing quote (`Json.readString_quoted`).  Writing goes character by character, and so
does the proof: `Json.readString_escape` says that each character, escaped or not, comes
back as itself.
-/

namespace LiveRoom.Json

/-! ## One step of reading -/

theorem readString_quote (text : List Char) : readString ('"' :: text) = .ok ([], text) := by
  rw [readString]
  rfl

theorem readString_backslash {c : Char} {text rest : List Char}
    (h : escaped text = .ok (c, rest)) :
    readString ('\\' :: text) =
      (readString rest).map fun (values, rest) => (c :: values, rest) := by
  rw [readString, if_neg (by decide), if_pos rfl]
  split
  · rename_i fault hfault
    rw [h] at hfault
    cases hfault
  · rename_i value after hvalue
    rw [h] at hvalue
    cases hvalue
    rfl

/-- A character from the space on stands for itself, but for the quote and the backslash. -/
theorem readString_plain {c : Char} (hquote : c ≠ '"') (hslash : c ≠ '\\') (hlow : 0x20 ≤ c.toNat)
    (text : List Char) :
    readString (c :: text) = (readString text).map fun (values, rest) => (c :: values, rest) := by
  rw [readString, if_neg hquote, if_neg hslash, if_neg (Nat.not_lt.mpr hlow)]

/-! ## Escapes -/

theorem digit_digitChar : ∀ n < 16, hexNumber.digit n.digitChar = some n := by
  decide

/-- The four digits of a control character. -/
theorem unicodeEscape_control {c : Char} (h : c.toNat < 0x20) (text : List Char) :
    unicodeEscape ('0' :: '0' :: (c.toNat / 16).digitChar :: (c.toNat % 16).digitChar :: text) =
      .ok (c, text) := by
  have hzero : hexNumber.digit '0' = some 0 := rfl
  have hhigh := digit_digitChar (c.toNat / 16) (by omega)
  have hlow := digit_digitChar (c.toNat % 16) (by omega)
  have hnumber : hexNumber '0' '0' (c.toNat / 16).digitChar (c.toNat % 16).digitChar =
      some c.toNat := by
    simp only [hexNumber, hzero, hhigh, hlow, Option.bind_eq_bind, Option.bind_some, pure]
    congr 1
    omega
  have hchar : Char.ofNat c.toNat = c := Char.ofNat_toNat c
  have htrail : Utf16.isTrail c.toNat = false := by
    simp only [Utf16.isTrail, Bool.and_eq_false_iff, decide_eq_false_iff_not]
    omega
  have hlead : Utf16.isLead c.toNat = false := by
    simp only [Utf16.isLead, Bool.and_eq_false_iff, decide_eq_false_iff_not]
    omega
  simp [unicodeEscape, hexDigits, hnumber, htrail, hlead, hchar]

/-- **The three ways to write a character**: by a letter behind a backslash, by its number, or
as it is. -/
theorem escape_cases (c : Char) :
    (∃ letter, shortEscape letter = some c ∧ escape c = ['\\', letter]) ∨
    (c.toNat < 0x20 ∧ escape c =
      ['\\', 'u', '0', '0', (c.toNat / 16).digitChar, (c.toNat % 16).digitChar]) ∨
    (c ≠ '"' ∧ c ≠ '\\' ∧ 0x20 ≤ c.toNat ∧ escape c = [c]) := by
  unfold escape
  by_cases hquote : c = '"'
  · exact .inl ⟨'"', by rw [hquote]; rfl, if_pos hquote⟩
  rw [if_neg hquote]
  by_cases hslash : c = '\\'
  · exact .inl ⟨'\\', by rw [hslash]; rfl, if_pos hslash⟩
  rw [if_neg hslash]
  by_cases hback : c = '\x08'
  · exact .inl ⟨'b', by rw [hback]; rfl, if_pos hback⟩
  rw [if_neg hback]
  by_cases hfeed : c = '\x0c'
  · exact .inl ⟨'f', by rw [hfeed]; rfl, if_pos hfeed⟩
  rw [if_neg hfeed]
  by_cases hline : c = '\n'
  · exact .inl ⟨'n', by rw [hline]; rfl, if_pos hline⟩
  rw [if_neg hline]
  by_cases hreturn : c = '\r'
  · exact .inl ⟨'r', by rw [hreturn]; rfl, if_pos hreturn⟩
  rw [if_neg hreturn]
  by_cases htab : c = '\t'
  · exact .inl ⟨'t', by rw [htab]; rfl, if_pos htab⟩
  rw [if_neg htab]
  by_cases hlow : c.toNat < 0x20
  · exact .inr (.inl ⟨hlow, if_pos hlow⟩)
  · exact .inr (.inr ⟨hquote, hslash, Nat.not_lt.mp hlow, if_neg hlow⟩)

/-- **A character that was written is read.** -/
theorem readString_escape (c : Char) (text : List Char) :
    readString (escape c ++ text) =
      (readString text).map fun (values, rest) => (c :: values, rest) := by
  rcases escape_cases c with ⟨letter, hletter, hwritten⟩ | ⟨hlow, hwritten⟩ |
    ⟨hquote, hslash, hlow, hwritten⟩
  · have hescaped : escaped (letter :: text) = .ok (c, text) := by
      rw [escaped, hletter]
    rw [hwritten]
    exact readString_backslash hescaped
  · have hescaped : escaped
        ('u' :: '0' :: '0' :: (c.toNat / 16).digitChar :: (c.toNat % 16).digitChar :: text) =
          .ok (c, text) := unicodeEscape_control hlow text
    rw [hwritten]
    exact readString_backslash hescaped
  · rw [hwritten]
    exact readString_plain hquote hslash hlow text

/-- **A string that was written is read**, up to its closing quote. -/
theorem readString_quoted (value rest : List Char) :
    readString (value.flatMap escape ++ '"' :: rest) = .ok (value, rest) := by
  induction value with
  | nil => exact readString_quote rest
  | cons c value ih =>
    rw [List.flatMap_cons, List.append_assoc, readString_escape, ih]
    rfl

end LiveRoom.Json
