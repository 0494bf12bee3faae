import LiveRoom.Text.Utf8

/-!
# UTF-8 both ways

`Utf8.decode?` reads exactly the bytes that `Utf8.encode` writes: some bytes are the
encoding of a text if and only if they can be decoded, and then to that text
(`Utf8.decode?_eq_some_iff`).  So a text is never lost, and bytes are UTF-8 in one way
only.  An ASCII character is found by its byte (`Utf8.mem_encode_iff`).

All goes by one character at the head of some bytes.  `Utf8.next` takes back what
`String.utf8EncodeChar` puts there, in front of any bytes, and takes nothing else.
-/

namespace LiveRoom.Utf8

/-! ## Continuation bytes -/

/-- The bits that a continuation byte carries. -/
theorem toNat_and_mask (byte : UInt8) : (byte &&& 0x3F).toNat = byte.toNat % 64 := by
  rw [UInt8.toNat_and]
  exact Nat.and_two_pow_sub_one_eq_mod byte.toNat 6

theorem continued_cons {low high : UInt8} {n : Nat} (hlow : low.toNat ≤ n)
    (hhigh : n ≤ high.toNat) (count bits : Nat) (bytes : List UInt8) :
    continued (count + 1) low high bits (UInt8.ofNat n :: bytes) =
      continued count 0x80 0xBF (bits * 64 + n % 64) bytes := by
  have hn : (UInt8.ofNat n).toNat = n :=
    UInt8.toNat_ofNat_of_lt' (Nat.lt_of_le_of_lt hhigh high.toNat_lt)
  rw [continued, toNat_and_mask, hn, if_pos]
  simp [UInt8.le_iff_toNat_le, hn, hlow, hhigh]

theorem exists_of_continued {count bits : Nat} {low high : UInt8} {bytes rest : List UInt8}
    {c : Char} (h : continued (count + 1) low high bits bytes = (some c, rest)) :
    ∃ byte tail, bytes = byte :: tail ∧ low.toNat ≤ byte.toNat ∧ byte.toNat ≤ high.toNat ∧
      continued count 0x80 0xBF (bits * 64 + byte.toNat % 64) tail = (some c, rest) := by
  cases bytes with
  | nil => simp [continued] at h
  | cons byte tail =>
    rw [continued] at h
    split at h
    · rename_i hrange
      simp only [Bool.and_eq_true, decide_eq_true_eq, UInt8.le_iff_toNat_le] at hrange
      rw [toNat_and_mask] at h
      exact ⟨byte, tail, rfl, hrange.1, hrange.2, h⟩
    · cases h

/-! ## One character -/

/-- A bound for the byte behind a leading byte, which is another one behind one of them:
there the form would be overlong, or there would be a surrogate or no character. -/
def bound (lead special : Nat) (its other : UInt8) : UInt8 :=
  if lead = special then its else other

theorem toNat_bound (lead special : Nat) (its other : UInt8) :
    lead = special ∧ (bound lead special its other).toNat = its.toNat ∨
      lead ≠ special ∧ (bound lead special its other).toNat = other.toNat := by
  unfold bound
  split
  · exact .inl ⟨‹_›, rfl⟩
  · exact .inr ⟨‹_›, rfl⟩

/-- **Reading by the length of the form**: the leading byte tells how many bytes follow. -/
theorem next_eq (lead : UInt8) (bytes : List UInt8) :
    next lead bytes =
      if lead.toNat < 0x80 then (some (Char.ofNat lead.toNat), bytes)
      else if lead.toNat < 0xC2 then (none, bytes)
      else if lead.toNat < 0xE0 then continued 1 0x80 0xBF (lead.toNat - 0xC0) bytes
      else if lead.toNat < 0xF0 then
        continued 2 (bound lead.toNat 0xE0 0xA0 0x80) (bound lead.toNat 0xED 0x9F 0xBF)
          (lead.toNat - 0xE0) bytes
      else if lead.toNat < 0xF5 then
        continued 3 (bound lead.toNat 0xF0 0x90 0x80) (bound lead.toNat 0xF4 0x8F 0xBF)
          (lead.toNat - 0xF0) bytes
      else (none, bytes) := by
  -- Both sides ask the same about the leading byte, in a different order.
  unfold next bound
  generalize lead.toNat = n
  grind

/-- **A character that was written is read**, whatever follows it. -/
theorem next_encodeChar (c : Char) (rest : List UInt8) :
    ∃ lead bytes, String.utf8EncodeChar c = lead :: bytes ∧
      next lead (bytes ++ rest) = (some c, rest) := by
  have hvalid : c.val.toNat < 0xD800 ∨ 0xDFFF < c.val.toNat ∧ c.val.toNat < 0x110000 := c.valid
  have hchar : Char.ofNat c.val.toNat = c := Char.ofNat_toNat c
  have hlead : ∀ k, k < 256 → (UInt8.ofNat k).toNat = k := fun k hk =>
    UInt8.toNat_ofNat_of_lt' hk
  rw [String.utf8EncodeChar]
  generalize c.val.toNat = n at hvalid hchar
  by_cases hone : n ≤ 0x7F
  · refine ⟨UInt8.ofNat n, [], if_pos hone, ?_⟩
    rw [next_eq, hlead n (by omega), if_pos (by omega), hchar]
    rfl
  by_cases htwo : n ≤ 0x7FF
  · refine ⟨_, _, (if_neg hone).trans (if_pos htwo), ?_⟩
    -- The bits that the bytes carry make up the number again.
    have hn : (n / 64 % 32 + 192 - 192) * 64 + (n % 64 + 128) % 64 = n := by omega
    rw [next_eq, hlead _ (by omega), if_neg (by omega), if_neg (by omega), if_pos (by omega),
      List.cons_append, continued_cons (by simp) (by simp; omega), continued, hn, hchar]
    rfl
  by_cases hthree : n ≤ 0xFFFF
  · refine ⟨_, _, (if_neg hone).trans ((if_neg htwo).trans (if_pos hthree)), ?_⟩
    have hn : ((n / 4096 % 16 + 224 - 224) * 64 + (n / 64 % 64 + 128) % 64) * 64 +
        (n % 64 + 128) % 64 = n := by omega
    -- A number that needs three bytes is no overlong form, and a character is no surrogate.
    have hlow : (bound (n / 4096 % 16 + 224) 0xE0 0xA0 0x80).toNat ≤ n / 64 % 64 + 128 := by
      have := toNat_bound (n / 4096 % 16 + 224) 0xE0 0xA0 0x80
      simp at this
      omega
    have hhigh : n / 64 % 64 + 128 ≤ (bound (n / 4096 % 16 + 224) 0xED 0x9F 0xBF).toNat := by
      have := toNat_bound (n / 4096 % 16 + 224) 0xED 0x9F 0xBF
      simp at this
      omega
    rw [next_eq, hlead _ (by omega), if_neg (by omega), if_neg (by omega), if_neg (by omega),
      if_pos (by omega), List.cons_append, List.cons_append,
      continued_cons hlow hhigh,
      continued_cons (by simp) (by simp; omega), continued, hn, hchar]
    rfl
  · refine ⟨_, _, (if_neg hone).trans ((if_neg htwo).trans (if_neg hthree)), ?_⟩
    have hn : (((n / 262144 % 8 + 240 - 240) * 64 + (n / 4096 % 64 + 128) % 64) * 64 +
        (n / 64 % 64 + 128) % 64) * 64 + (n % 64 + 128) % 64 = n := by omega
    -- Likewise with four bytes, where the upper bound is that of all characters.
    have hlow : (bound (n / 262144 % 8 + 240) 0xF0 0x90 0x80).toNat ≤ n / 4096 % 64 + 128 := by
      have := toNat_bound (n / 262144 % 8 + 240) 0xF0 0x90 0x80
      simp at this
      omega
    have hhigh : n / 4096 % 64 + 128 ≤ (bound (n / 262144 % 8 + 240) 0xF4 0x8F 0xBF).toNat := by
      have := toNat_bound (n / 262144 % 8 + 240) 0xF4 0x8F 0xBF
      simp at this
      omega
    rw [next_eq, hlead _ (by omega), if_neg (by omega), if_neg (by omega), if_neg (by omega),
      if_neg (by omega), if_pos (by omega), List.cons_append, List.cons_append,
      List.cons_append,
      continued_cons hlow hhigh,
      continued_cons (by simp) (by simp; omega),
      continued_cons (by simp) (by simp; omega), continued, hn, hchar]
    rfl

theorem encodeChar_ofNat {n : Nat} (h : n.isValidChar) :
    String.utf8EncodeChar (Char.ofNat n) =
      if n ≤ 0x7F then [UInt8.ofNat n]
      else if n ≤ 0x7FF then [UInt8.ofNat (n / 64 % 32 + 192), UInt8.ofNat (n % 64 + 128)]
      else if n ≤ 0xFFFF then
        [UInt8.ofNat (n / 4096 % 16 + 224), UInt8.ofNat (n / 64 % 64 + 128),
          UInt8.ofNat (n % 64 + 128)]
      else
        [UInt8.ofNat (n / 262144 % 8 + 240), UInt8.ofNat (n / 4096 % 64 + 128),
          UInt8.ofNat (n / 64 % 64 + 128), UInt8.ofNat (n % 64 + 128)] := by
  have hval : (Char.ofNat n).val.toNat = n := by
    rw [Char.ofNat, dif_pos h]
    rfl
  rw [String.utf8EncodeChar, hval]

/-- **Nothing else is read** as a character. -/
theorem eq_encodeChar_of_next {lead : UInt8} {bytes rest : List UInt8} {c : Char}
    (h : next lead bytes = (some c, rest)) :
    lead :: bytes = String.utf8EncodeChar c ++ rest := by
  have hbyte : ∀ (byte : UInt8) (k : Nat), k = byte.toNat → UInt8.ofNat k = byte := by
    rintro byte _ rfl
    exact UInt8.ofNat_toNat
  rw [next_eq] at h
  by_cases hone : lead.toNat < 0x80
  · rw [if_pos hone] at h
    cases h
    rw [encodeChar_ofNat (Or.inl (by omega)), if_pos (by omega), hbyte lead _ rfl]
    rfl
  rw [if_neg hone] at h
  by_cases hnone : lead.toNat < 0xC2
  · rw [if_pos hnone] at h
    cases h
  rw [if_neg hnone] at h
  by_cases htwo : lead.toNat < 0xE0
  · rw [if_pos htwo] at h
    obtain ⟨second, tail, rfl, hlow, hhigh, h⟩ := exists_of_continued h
    cases h
    simp at hlow hhigh
    rw [encodeChar_ofNat (Or.inl (by omega)), if_neg (by omega), if_pos (by omega),
      hbyte lead _ (by omega), hbyte second _ (by omega)]
    rfl
  rw [if_neg htwo] at h
  by_cases hthree : lead.toNat < 0xF0
  · rw [if_pos hthree] at h
    obtain ⟨second, tail, rfl, hlow, hhigh, h⟩ := exists_of_continued h
    obtain ⟨third, tail, rfl, hlow', hhigh', h⟩ := exists_of_continued h
    cases h
    have hleast := toNat_bound lead.toNat 0xE0 0xA0 0x80
    have hgreatest := toNat_bound lead.toNat 0xED 0x9F 0xBF
    simp at hleast hgreatest hlow' hhigh'
    rw [encodeChar_ofNat (by unfold Nat.isValidChar; omega), if_neg (by omega),
      if_neg (by omega), if_pos (by omega), hbyte lead _ (by omega), hbyte second _ (by omega),
      hbyte third _ (by omega)]
    rfl
  rw [if_neg hthree] at h
  by_cases hfour : lead.toNat < 0xF5
  · rw [if_pos hfour] at h
    obtain ⟨second, tail, rfl, hlow, hhigh, h⟩ := exists_of_continued h
    obtain ⟨third, tail, rfl, hlow', hhigh', h⟩ := exists_of_continued h
    obtain ⟨fourth, tail, rfl, hlow'', hhigh'', h⟩ := exists_of_continued h
    cases h
    have hleast := toNat_bound lead.toNat 0xF0 0x90 0x80
    have hgreatest := toNat_bound lead.toNat 0xF4 0x8F 0xBF
    simp at hleast hgreatest hlow' hhigh' hlow'' hhigh''
    rw [encodeChar_ofNat (by unfold Nat.isValidChar; omega), if_neg (by omega),
      if_neg (by omega), if_neg (by omega), hbyte lead _ (by omega),
      hbyte second _ (by omega), hbyte third _ (by omega), hbyte fourth _ (by omega)]
    rfl
  · rw [if_neg hfour] at h
    cases h

/-! ## Texts -/

theorem encode_append (first second : List Char) :
    encode (first ++ second) = encode first ++ encode second :=
  List.flatMap_append

/-- **A text that was written is read.** -/
theorem decode?_encode (text : List Char) : decode? (encode text) = some text := by
  induction text with
  | nil => simp [encode, decode?]
  | cons c text ih =>
    obtain ⟨lead, bytes, hc, hnext⟩ := next_encodeChar c (encode text)
    have hencode : encode (c :: text) = lead :: (bytes ++ encode text) := by
      rw [encode, List.flatMap_cons, hc]
      rfl
    rw [hencode, decode?, hnext]
    exact congrArg (Option.map (c :: ·)) ih

/-- **Bytes are UTF-8 exactly if they are the encoding of a text**, and then they are read
as that text. -/
theorem decode?_eq_some_iff {bytes : List UInt8} {text : List Char} :
    decode? bytes = some text ↔ bytes = encode text := by
  constructor
  · intro h
    fun_induction decode? bytes generalizing text with
    | case1 =>
      cases h
      rfl
    | case2 lead bytes hnext => cases h
    | case3 lead bytes c hnext ih =>
      obtain ⟨others, hothers, rfl⟩ := Option.map_eq_some_iff.mp h
      have hbytes : lead :: bytes = String.utf8EncodeChar c ++ (next lead bytes).2 :=
        eq_encodeChar_of_next (Prod.ext hnext rfl)
      rw [hbytes, ih hothers]
      rfl
  · rintro rfl
    exact decode?_encode text

/-- Where nothing is lost, both decoders read the same. -/
theorem decodeLossy_of_decode? {bytes : List UInt8} {text : List Char}
    (h : decode? bytes = some text) : decodeLossy bytes = text := by
  fun_induction decode? bytes generalizing text with
  | case1 =>
    cases h
    rw [decodeLossy]
  | case2 lead bytes hnext => cases h
  | case3 lead bytes c hnext ih =>
    obtain ⟨others, hothers, rfl⟩ := Option.map_eq_some_iff.mp h
    rw [decodeLossy, hnext, ih hothers]
    rfl

/-! ## ASCII -/

/-- Bytes of ASCII are read one by one. -/
theorem decodeLossy_of_ascii {bytes : List UInt8} (h : ∀ byte ∈ bytes, byte.toNat < 0x80) :
    decodeLossy bytes = bytes.map fun byte => Char.ofNat byte.toNat := by
  induction bytes with
  | nil => rw [decodeLossy, List.map_nil]
  | cons lead bytes ih =>
    have hnext : next lead bytes = (some (Char.ofNat lead.toNat), bytes) :=
      if_pos (h lead List.mem_cons_self)
    rw [decodeLossy, hnext, ih fun byte hbyte => h byte (List.mem_cons_of_mem lead hbyte)]
    rfl

/-- A character that is read of them stands for its own byte. -/
theorem mem_of_mem_decodeLossy {bytes : List UInt8} (h : ∀ byte ∈ bytes, byte.toNat < 0x80)
    {c : Char} (hc : c ∈ decodeLossy bytes) : UInt8.ofNat c.toNat ∈ bytes := by
  rw [decodeLossy_of_ascii h] at hc
  obtain ⟨byte, hbyte, rfl⟩ := List.mem_map.mp hc
  have hvalid : byte.toNat.isValidChar := .inl (Nat.lt_trans (h byte hbyte) (by decide))
  have hnumber : (Char.ofNat byte.toNat).toNat = byte.toNat := by
    rw [Char.ofNat, dif_pos hvalid]
    rfl
  rwa [hnumber, UInt8.ofNat_toNat]

theorem encodeChar_of_ascii {c : Char} (h : c.toNat < 0x80) :
    String.utf8EncodeChar c = [UInt8.ofNat c.toNat] := by
  have hone : c.val.toNat ≤ 0x7F := Nat.le_of_lt_succ h
  rw [String.utf8EncodeChar, if_pos hone]
  rfl

theorem le_of_mem_encodeChar {c : Char} (h : 0x80 ≤ c.toNat) {byte : UInt8}
    (hbyte : byte ∈ String.utf8EncodeChar c) : 0x80 ≤ byte.toNat := by
  have hmore : ¬ c.val.toNat ≤ 0x7F := Nat.not_le.mpr h
  have hhigh : ∀ k, 0x80 ≤ k → k < 0x100 → 0x80 ≤ (UInt8.ofNat k).toNat := by
    intro k hle hlt
    rwa [UInt8.toNat_ofNat_of_lt' hlt]
  rw [String.utf8EncodeChar, if_neg hmore] at hbyte
  generalize c.val.toNat = n at hbyte
  split at hbyte
  · simp only [List.mem_cons, List.not_mem_nil, or_false] at hbyte
    rcases hbyte with rfl | rfl <;> exact hhigh _ (by omega) (by omega)
  · split at hbyte
    · simp only [List.mem_cons, List.not_mem_nil, or_false] at hbyte
      rcases hbyte with rfl | rfl | rfl <;> exact hhigh _ (by omega) (by omega)
    · simp only [List.mem_cons, List.not_mem_nil, or_false] at hbyte
      rcases hbyte with rfl | rfl | rfl | rfl <;> exact hhigh _ (by omega) (by omega)

/-- **An ASCII character is in a text** exactly if its byte is in the encoding: bytes can be
searched for it without being decoded. -/
theorem mem_encode_iff {text : List Char} {c : Char} (h : c.toNat < 0x80) :
    UInt8.ofNat c.toNat ∈ encode text ↔ c ∈ text := by
  have hbyte : ∀ {d : Char}, d.toNat < 0x80 → (UInt8.ofNat d.toNat).toNat = d.toNat := fun hd =>
    UInt8.toNat_ofNat_of_lt' (Nat.lt_trans hd (by decide))
  rw [encode, List.mem_flatMap]
  constructor
  · rintro ⟨d, hd, hmem⟩
    have hascii : d.toNat < 0x80 := by
      rw [← Nat.not_le]
      intro hle
      have := le_of_mem_encodeChar hle hmem
      rw [hbyte h] at this
      omega
    rw [encodeChar_of_ascii hascii, List.mem_singleton] at hmem
    have hsame : c.toNat = d.toNat := by rw [← hbyte h, hmem, hbyte hascii]
    rwa [Char.toNat_inj.mp hsame]
  · intro hc
    exact ⟨c, hc, encodeChar_of_ascii h ▸ List.mem_singleton_self _⟩

end LiveRoom.Utf8
