import LiveRoom.Json.Fault
import LiveRoom.Text.Numeral
import LiveRoom.Text.Utf16

/-!
# The tokens of JSON

Each function here takes one token off the head of a text and returns what
follows it, or the fault that stops it.  A token that is read takes at least one
character with it, which the length lemmas state; every loop over a text ends
because of them.

Strings are read in two ways.  `readString` reads a wanted string: its escapes must
spell characters, so a surrogate escape needs its partner.  `skipString` passes
over an unwanted one and asks only that the escapes are well formed.
-/

namespace LiveRoom.Json

/-- The result of reading at the head of a text: a value and what follows it. -/
abbrev Read (α : Type) := Except Fault (α × List Char)

theorem map_eq_ok_iff {α β : Type} {x : Except Fault α} {f : α → β} {b : β} :
    x.map f = .ok b ↔ ∃ a, x = .ok a ∧ f a = b := by
  cases x <;> simp [Except.map]

/-- The blanks of JSON: space, tab, line feed and carriage return. -/
def isBlank (c : Char) : Bool := c == ' ' || c == '\t' || c == '\n' || c == '\r'

/-- The text after its leading blanks. -/
def skipBlank (text : List Char) : List Char := text.dropWhile isBlank

theorem length_skipBlank_le (text : List Char) : (skipBlank text).length ≤ text.length :=
  (List.dropWhile_suffix _).length_le

theorem length_le_of_skipBlank_cons {text rest : List Char} {c : Char}
    (h : skipBlank text = c :: rest) : rest.length < text.length := by
  have := length_skipBlank_le text
  rw [h] at this
  exact this

/-! ## Words -/

/-- What follows `word` at the head of a text. -/
def literal : (word : List Char) → List Char → Except Fault (List Char)
  | [], text => .ok text
  | _ :: _, [] => .error (.at .endInValue [])
  | w :: word, c :: text =>
    if c = w then literal word text else .error (.after .expectedIdent (c :: text))

theorem length_le_of_literal {word text rest : List Char} (h : literal word text = .ok rest) :
    rest.length ≤ text.length := by
  induction word generalizing text with
  | nil => simp [literal] at h; simp [h]
  | cons w word ih =>
    cases text with
    | nil => simp [literal] at h
    | cons c text =>
      unfold literal at h
      split at h
      · exact Nat.le_succ_of_le (ih h)
      · simp at h

/-! ## Strings -/

/-- The number that four hexadecimal digits spell. -/
def hexNumber (a b c d : Char) : Option Nat := do
  return ((← digit a) * 16 + (← digit b)) * 256 + ((← digit c) * 16 + (← digit d))
where
  /-- The value of one digit. -/
  digit (c : Char) : Option Nat := Text.hexDigit? c.toNat

/-- Why four bytes are not four digits: the text ends, or one of them is no digit. -/
def hexFault (text : List Char) : Fault :=
  if Utf8.size text < 4 then .at .endInString [] else ⟨.invalidEscape, text, 4⟩

/-- The four hexadecimal digits of an escape. -/
def hexDigits : List Char → Read Nat
  | a :: b :: c :: d :: rest =>
    match hexNumber a b c d with
    | some n => .ok (n, rest)
    | none => .error (hexFault (a :: b :: c :: d :: rest))
  | text => .error (hexFault text)

/-- The character of a one-letter escape. -/
def shortEscape : Char → Option Char
  | '"' => some '"'
  | '\\' => some '\\'
  | '/' => some '/'
  | 'b' => some '\x08'
  | 'f' => some '\x0c'
  | 'n' => some '\n'
  | 'r' => some '\r'
  | 't' => some '\t'
  | _ => none

/-- The second half of a surrogate pair, after its first half. -/
def trailingSurrogate (lead : Nat) : List Char → Read Char
  | [] => .error (.at .endInString [])
  | '\\' :: [] => .error (.at .endInString [])
  | '\\' :: 'u' :: text =>
    match hexDigits text with
    | .error fault => .error fault
    | .ok (n, rest) =>
      if Utf16.isTrail n then .ok (Utf16.paired lead n, rest) else .error (.at .loneSurrogate rest)
  | '\\' :: c :: text => .error (.after .unpairedSurrogate (c :: text))
  | c :: text => .error (.after .unpairedSurrogate (c :: text))

/-- The character that the digits after `\u` spell, with its second half where it
has one. -/
def unicodeEscape (text : List Char) : Read Char :=
  match hexDigits text with
  | .error fault => .error fault
  | .ok (n, rest) =>
    if Utf16.isTrail n then .error (.at .loneSurrogate rest)
    else if Utf16.isLead n then trailingSurrogate n rest
    else .ok (Char.ofNat n, rest)

/-- The character that an escape spells, after its backslash. -/
def escaped : List Char → Read Char
  | [] => .error (.at .endInString [])
  | c :: text =>
    match shortEscape c with
    | some value => .ok (value, text)
    | none =>
      if c = 'u' then unicodeEscape text else .error (.after .invalidEscape (c :: text))

/-- What follows a well-formed escape, after its backslash. -/
def skipEscaped : List Char → Except Fault (List Char)
  | [] => .error (.at .endInString [])
  | c :: text =>
    match shortEscape c with
    | some _ => .ok text
    | none =>
      if c = 'u' then (hexDigits text).map (·.2)
      else .error (.after .invalidEscape (c :: text))

theorem length_lt_of_hexDigits {text rest : List Char} {n : Nat}
    (h : hexDigits text = .ok (n, rest)) : rest.length < text.length := by
  unfold hexDigits at h
  grind

theorem length_lt_of_trailingSurrogate {lead : Nat} {text rest : List Char} {c : Char}
    (h : trailingSurrogate lead text = .ok (c, rest)) : rest.length < text.length := by
  unfold trailingSurrogate at h
  split at h <;> try contradiction
  rename_i text
  cases hd : hexDigits text with
  | error fault => simp [hd] at h
  | ok p =>
    obtain ⟨n, r⟩ := p
    have := length_lt_of_hexDigits hd
    simp only [hd] at h
    split at h
    · simp only [Except.ok.injEq, Prod.mk.injEq] at h
      simp only [List.length_cons]
      rw [← h.2]
      omega
    · contradiction

theorem length_lt_of_unicodeEscape {text rest : List Char} {c : Char}
    (h : unicodeEscape text = .ok (c, rest)) : rest.length < text.length := by
  unfold unicodeEscape at h
  cases hd : hexDigits text with
  | error fault => simp [hd] at h
  | ok p =>
    obtain ⟨n, r⟩ := p
    have := length_lt_of_hexDigits hd
    simp only [hd] at h
    split at h
    · contradiction
    · split at h
      · exact Nat.lt_trans (length_lt_of_trailingSurrogate h) this
      · simp only [Except.ok.injEq, Prod.mk.injEq] at h
        rw [← h.2]
        exact this

theorem length_lt_of_escaped {text rest : List Char} {c : Char}
    (h : escaped text = .ok (c, rest)) : rest.length < text.length := by
  unfold escaped at h
  split at h
  · contradiction
  · split at h
    · simp only [Except.ok.injEq, Prod.mk.injEq] at h
      simp [← h.2]
    · split at h
      · exact Nat.lt_succ_of_lt (length_lt_of_unicodeEscape h)
      · contradiction

theorem length_lt_of_skipEscaped {text rest : List Char}
    (h : skipEscaped text = .ok rest) : rest.length < text.length := by
  unfold skipEscaped at h
  split at h
  · contradiction
  · split at h
    · simp only [Except.ok.injEq] at h
      simp [← h]
    · split at h
      · obtain ⟨⟨n, r⟩, hr, rfl⟩ := map_eq_ok_iff.1 h
        exact Nat.lt_succ_of_lt (length_lt_of_hexDigits hr)
      · contradiction

/-- **A wanted string**, after its opening quote. -/
def readString : List Char → Read (List Char)
  | [] => .error (.at .endInString [])
  | c :: text =>
    if c = '"' then .ok ([], text)
    else if c = '\\' then
      match h : escaped text with
      | .error fault => .error fault
      | .ok (value, rest) =>
        have := length_lt_of_escaped h
        (readString rest).map fun (values, rest) => (value :: values, rest)
    else if c.toNat < 0x20 then .error (.after .controlCharacter (c :: text))
    else (readString text).map fun (values, rest) => (c :: values, rest)
termination_by text => text.length

/-- **An unwanted string**, after its opening quote. -/
def skipString : List Char → Except Fault (List Char)
  | [] => .error (.at .endInString [])
  | c :: text =>
    if c = '"' then .ok text
    else if c = '\\' then
      match h : skipEscaped text with
      | .error fault => .error fault
      | .ok rest =>
        have := length_lt_of_skipEscaped h
        skipString rest
    else if c.toNat < 0x20 then .error (.at .controlCharacter (c :: text))
    else skipString text
termination_by text => text.length

theorem length_lt_of_readString {text rest value : List Char}
    (h : readString text = .ok (value, rest)) : rest.length < text.length := by
  fun_induction readString text generalizing value with
  | case1 => contradiction
  | case2 => simp only [Except.ok.injEq, Prod.mk.injEq] at h; simp [h.2]
  | case3 => contradiction
  | case4 text _ after _ hlt _ ih =>
    obtain ⟨⟨values, r⟩, hs, hv⟩ := map_eq_ok_iff.1 h
    simp only [Prod.mk.injEq] at hv
    have := ih (hv.2 ▸ hs)
    simp only [List.length_cons]
    omega
  | case5 => contradiction
  | case6 c text _ _ _ ih =>
    obtain ⟨⟨values, r⟩, hs, hv⟩ := map_eq_ok_iff.1 h
    simp only [Prod.mk.injEq] at hv
    have := ih (hv.2 ▸ hs)
    simp only [List.length_cons]
    omega

theorem length_lt_of_skipString {text rest : List Char}
    (h : skipString text = .ok rest) : rest.length < text.length := by
  fun_induction skipString text with
  | case1 => simp at h
  | case2 => simp at h; simp [h]
  | case3 => simp at h
  | case4 text hq r hr hlt ih => have := ih h; simp only [List.length_cons]; omega
  | case5 => simp at h
  | case6 c text _ _ _ ih => have := ih h; simp only [List.length_cons]; omega

end LiveRoom.Json
