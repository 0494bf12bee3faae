import LiveRoom.Proofs.Json.Grammar
import LiveRoom.Proofs.Json.Strings

/-!
# Strings and their pieces

A wanted string is read from exactly the texts of strings that stand for characters, and
what is read is those characters (`Json.exists_raw_of_readString`, `Json.readString_raw`).
An unwanted one is passed over whatever it stands for (`Json.exists_raw_of_skipString`,
`Json.skipString_raw`).
-/

namespace LiveRoom.Json

variable {text rest value : List Char}

/-! ## Digits -/

theorem hexDigits_cons {a b c d : Char} {unit : Nat} (known : hexNumber a b c d = some unit)
    (rest : List Char) : hexDigits (a :: b :: c :: d :: rest) = .ok (unit, rest) := by
  simp only [hexDigits, known]

theorem exists_of_hexDigits {unit : Nat} (h : hexDigits text = .ok (unit, rest)) :
    ∃ a b c d, text = a :: b :: c :: d :: rest ∧ hexNumber a b c d = some unit := by
  unfold hexDigits at h
  split at h
  · rename_i a b c d after
    split at h
    · rename_i n known
      cases h
      exact ⟨a, b, c, d, rfl, known⟩
    · cases h
  · cases h

/-! ## One escape -/

/-- The letter `u` announces digits. -/
theorem escaped_unicode {c : Char} (h : unicodeEscape text = .ok (c, rest)) :
    escaped ('u' :: text) = .ok (c, rest) := h

/-- Pieces that stand for one character, whatever comes behind them. -/
def Stands (pieces : RawString) (c : Char) : Prop :=
  ∀ raw value, RawString.value? raw = some value →
    RawString.value? (pieces ++ raw) = some (c :: value)

theorem stands_plain {c : Char} (quote : c ≠ '"') (slash : c ≠ '\\') (low : 0x20 ≤ c.toNat) :
    Stands [.plain c quote slash low] c := by
  intro raw value h
  simp [RawString.value?, h]

theorem stands_letter {letter c : Char} (known : shortEscape letter = some c) :
    Stands [.letter letter c known] c := by
  intro raw value h
  simp [RawString.value?, h]

theorem stands_digits {a b c d : Char} {unit : Nat} (known : hexNumber a b c d = some unit)
    (htrail : Utf16.isTrail unit = false) (hlead : Utf16.isLead unit = false) :
    Stands [.digits a b c d unit known] (Char.ofNat unit) := by
  intro raw value h
  show RawString.value? (.digits a b c d unit known :: raw) = _
  rw [RawString.value?.eq_def]
  simp [h, htrail, hlead]

theorem stands_pair {a b c d a' b' c' d' : Char} {lead trail : Nat}
    (known : hexNumber a b c d = some lead) (known' : hexNumber a' b' c' d' = some trail)
    (hnot : Utf16.isTrail lead = false) (hlead : Utf16.isLead lead = true)
    (htrail : Utf16.isTrail trail = true) :
    Stands [.digits a b c d lead known, .digits a' b' c' d' trail known']
      (Utf16.paired lead trail) := by
  intro raw value h
  simp [RawString.value?, h, hnot, hlead, htrail]

/-- The second half of a character is an escape of its own. -/
theorem exists_of_trailingSurrogate {lead : Nat} {c : Char}
    (h : trailingSurrogate lead text = .ok (c, rest)) :
    ∃ a₁ a₂ a₃ a₄ trail, text = '\\' :: 'u' :: a₁ :: a₂ :: a₃ :: a₄ :: rest ∧
      hexNumber a₁ a₂ a₃ a₄ = some trail ∧ Utf16.isTrail trail = true ∧
      c = Utf16.paired lead trail := by
  unfold trailingSurrogate at h
  split at h
  · cases h
  · cases h
  · split at h
    · cases h
    · rename_i trail after hdigits
      obtain ⟨a₁, a₂, a₃, a₄, rfl, known⟩ := exists_of_hexDigits hdigits
      split at h
      · rename_i htrail
        obtain ⟨hc, rfl⟩ := Prod.mk.inj (Except.ok.inj h)
        exact ⟨a₁, a₂, a₃, a₄, trail, rfl, known, htrail, hc.symm⟩
      · cases h
  · cases h
  · cases h

/-- The digits behind a `u` are one piece or two. -/
theorem exists_pieces_of_unicodeEscape {c : Char} (h : unicodeEscape text = .ok (c, rest)) :
    ∃ pieces : RawString, '\\' :: 'u' :: text = pieces.flatMap Piece.text ++ rest ∧
      Stands pieces c := by
  unfold unicodeEscape at h
  split at h
  · cases h
  · rename_i unit after hdigits
    obtain ⟨a₁, a₂, a₃, a₄, rfl, known⟩ := exists_of_hexDigits hdigits
    split at h
    · cases h
    · rename_i hnot
      rw [Bool.not_eq_true] at hnot
      split at h
      · rename_i hlead
        obtain ⟨b₁, b₂, b₃, b₄, trail, rfl, known', htrail, hc⟩ := exists_of_trailingSurrogate h
        rw [hc]
        exact ⟨[.digits a₁ a₂ a₃ a₄ unit known, .digits b₁ b₂ b₃ b₄ trail known'], rfl,
          stands_pair known known' hnot hlead htrail⟩
      · rename_i hlead
        rw [Bool.not_eq_true] at hlead
        obtain ⟨rfl, rfl⟩ := Prod.mk.inj (Except.ok.inj h)
        exact ⟨[.digits a₁ a₂ a₃ a₄ unit known], rfl, stands_digits known hnot hlead⟩

/-- **An escape that is read** is made of pieces that stand for its character. -/
theorem exists_pieces_of_escaped {c : Char} (h : escaped text = .ok (c, rest)) :
    ∃ pieces : RawString, '\\' :: text = pieces.flatMap Piece.text ++ rest ∧ Stands pieces c := by
  unfold escaped at h
  split at h
  · cases h
  · rename_i letter after
    split at h
    · rename_i value known
      cases h
      exact ⟨[.letter letter c known], rfl, stands_letter known⟩
    · split at h
      · rename_i hu
        subst hu
        exact exists_pieces_of_unicodeEscape h
      · cases h

/-- An escape that is passed over is a piece. -/
theorem exists_piece_of_skipEscaped (h : skipEscaped text = .ok rest) :
    ∃ piece : Piece, '\\' :: text = piece.text ++ rest := by
  unfold skipEscaped at h
  split at h
  · cases h
  · rename_i letter after
    split at h
    · rename_i value known
      cases h
      exact ⟨.letter letter value known, rfl⟩
    · split at h
      · rename_i hu
        subst hu
        obtain ⟨⟨unit, behind⟩, hdigits, heq⟩ := map_eq_ok_iff.mp h
        obtain rfl : behind = rest := heq
        obtain ⟨a, b, c, d, rfl, known⟩ := exists_of_hexDigits hdigits
        exact ⟨.digits a b c d unit known, rfl⟩
      · cases h

/-! ## Whole strings -/

/-- **A wanted string is the text of its pieces**, which stand for what was read. -/
theorem exists_raw_of_readString (h : readString text = .ok (value, rest)) :
    ∃ raw : RawString, text = raw.flatMap Piece.text ++ '"' :: rest ∧
      raw.value? = some value := by
  fun_induction readString text generalizing value with
  | case1 => cases h
  | case2 text =>
    cases h
    exact ⟨[], rfl, rfl⟩
  | case3 => cases h
  | case4 text c after hescaped _ _ ih =>
    obtain ⟨⟨values, last⟩, hread, heq⟩ := map_eq_ok_iff.mp h
    cases heq
    obtain ⟨raw, rfl, hvalue⟩ := ih hread
    obtain ⟨pieces, htext, hstands⟩ := exists_pieces_of_escaped hescaped
    exact ⟨pieces ++ raw, by rw [htext, List.flatMap_append, List.append_assoc],
      hstands raw values hvalue⟩
  | case5 => cases h
  | case6 c text hquote hslash hlow ih =>
    obtain ⟨⟨values, last⟩, hread, heq⟩ := map_eq_ok_iff.mp h
    cases heq
    obtain ⟨raw, rfl, hvalue⟩ := ih hread
    exact ⟨.plain c hquote hslash (Nat.not_lt.mp hlow) :: raw, rfl,
      stands_plain hquote hslash (Nat.not_lt.mp hlow) raw values hvalue⟩

/-- **The text of pieces that stand for characters** is read as these. -/
theorem readString_raw {raw : RawString} (h : raw.value? = some value) (rest : List Char) :
    readString (raw.flatMap Piece.text ++ '"' :: rest) = .ok (value, rest) := by
  fun_induction RawString.value? raw generalizing value with
  | case1 =>
    cases h
    exact readString_quote rest
  | case2 c quote slash low raw ih =>
    obtain ⟨values, hvalues, rfl⟩ := Option.map_eq_some_iff.mp h
    show readString (c :: (raw.flatMap Piece.text ++ '"' :: rest)) = _
    rw [readString_plain quote slash low, ih hvalues]
    rfl
  | case3 letter c known raw ih =>
    obtain ⟨values, hvalues, rfl⟩ := Option.map_eq_some_iff.mp h
    have hescaped : escaped (letter :: (raw.flatMap Piece.text ++ '"' :: rest)) =
        .ok (c, raw.flatMap Piece.text ++ '"' :: rest) := by
      rw [escaped, known]
    show readString ('\\' :: letter :: (raw.flatMap Piece.text ++ '"' :: rest)) = _
    rw [readString_backslash hescaped, ih hvalues]
    rfl
  | case4 => cases h
  | case5 a b c d lead known hnot hlead a' b' c' d' trail known' raw htrail ih =>
    obtain ⟨values, hvalues, rfl⟩ := Option.map_eq_some_iff.mp h
    have hunicode : unicodeEscape (a :: b :: c :: d :: '\\' :: 'u' :: a' :: b' :: c' :: d' ::
        (raw.flatMap Piece.text ++ '"' :: rest)) =
          .ok (Utf16.paired lead trail, raw.flatMap Piece.text ++ '"' :: rest) := by
      simp only [unicodeEscape, hexDigits_cons known, if_neg hnot, if_pos hlead,
        trailingSurrogate, hexDigits_cons known', if_pos htrail]
    show readString ('\\' :: 'u' :: a :: b :: c :: d :: '\\' :: 'u' :: a' :: b' :: c' :: d' ::
      (raw.flatMap Piece.text ++ '"' :: rest)) = _
    rw [readString_backslash (escaped_unicode hunicode), ih hvalues]
    rfl
  | case6 => cases h
  | case7 => cases h
  | case8 a b c d unit known raw hnot hlead ih =>
    obtain ⟨values, hvalues, rfl⟩ := Option.map_eq_some_iff.mp h
    have hunicode : unicodeEscape (a :: b :: c :: d :: (raw.flatMap Piece.text ++ '"' :: rest)) =
        .ok (Char.ofNat unit, raw.flatMap Piece.text ++ '"' :: rest) := by
      simp only [unicodeEscape, hexDigits_cons known, if_neg hnot, if_neg hlead]
    show readString ('\\' :: 'u' :: a :: b :: c :: d ::
      (raw.flatMap Piece.text ++ '"' :: rest)) = _
    rw [readString_backslash (escaped_unicode hunicode), ih hvalues]
    rfl

theorem skipString_quote (rest : List Char) : skipString ('"' :: rest) = .ok rest := by
  rw [skipString]
  rfl

theorem skipString_backslash (h : skipEscaped text = .ok rest) :
    skipString ('\\' :: text) = skipString rest := by
  rw [skipString, if_neg (by decide), if_pos rfl]
  split
  · rename_i hfault
    rw [h] at hfault
    cases hfault
  · rename_i hvalue
    rw [h] at hvalue
    cases hvalue
    rfl

/-- **An unwanted string is the text of some pieces.** -/
theorem exists_raw_of_skipString (h : skipString text = .ok rest) :
    ∃ raw : RawString, text = raw.flatMap Piece.text ++ '"' :: rest := by
  fun_induction skipString text with
  | case1 => cases h
  | case2 text =>
    cases h
    exact ⟨[], rfl⟩
  | case3 => cases h
  | case4 text after hescaped _ hquote ih =>
    obtain ⟨raw, rfl⟩ := ih h
    obtain ⟨piece, htext⟩ := exists_piece_of_skipEscaped hescaped
    exact ⟨piece :: raw, by rw [htext, List.flatMap_cons, List.append_assoc]⟩
  | case5 => cases h
  | case6 c text hquote hslash hlow ih =>
    obtain ⟨raw, rfl⟩ := ih h
    exact ⟨.plain c hquote hslash (Nat.not_lt.mp hlow) :: raw, rfl⟩

/-- **The text of any pieces** is passed over. -/
theorem skipString_raw (raw : RawString) (rest : List Char) :
    skipString (raw.flatMap Piece.text ++ '"' :: rest) = .ok rest := by
  induction raw with
  | nil => exact skipString_quote rest
  | cons piece raw ih =>
    rw [List.flatMap_cons, List.append_assoc]
    cases piece with
    | plain c quote slash low =>
      show skipString (c :: (raw.flatMap Piece.text ++ '"' :: rest)) = _
      rw [skipString, if_neg quote, if_neg slash, if_neg (Nat.not_lt.mpr low), ih]
    | letter letter c known =>
      have hescaped : skipEscaped (letter :: (raw.flatMap Piece.text ++ '"' :: rest)) =
          .ok (raw.flatMap Piece.text ++ '"' :: rest) := by
        rw [skipEscaped, known]
      exact (skipString_backslash hescaped).trans ih
    | digits a b c d unit known =>
      have hescaped : skipEscaped ('u' :: a :: b :: c :: d ::
          (raw.flatMap Piece.text ++ '"' :: rest)) =
            .ok (raw.flatMap Piece.text ++ '"' :: rest) := by
        show (hexDigits _).map _ = _
        rw [hexDigits_cons known]
        rfl
      exact (skipString_backslash hescaped).trans ih

end LiveRoom.Json
