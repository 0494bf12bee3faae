import LiveRoom.Http.Library
import LiveRoom.Proofs.Http.Reply

/-!
# The library of the program can be relied on

`Library.standard` abides by what a client relies on.  Plain answers are read as they are meant
(`Reply.ofBytes_reply`).  A media type without a semicolon names no charset, so the body behind
it is UTF-8, and unless it begins with a byte order mark it is read as the text that it encodes
(`Charset.decode_encode`).
-/

namespace LiveRoom.Http

namespace Charset

/-! ## Media types without parameters -/

theorem mediaParts_of_not_mem {text : List Char} (h : ';' ∉ text) (quoted : Bool) :
    mediaParts quoted text = [text] := by
  induction text generalizing quoted with
  | nil => rfl
  | cons c text ih =>
    simp only [List.mem_cons, not_or] at h
    have hsemicolon : ¬ (c = ';' && !quoted) = true := by simp [Ne.symm h.1]
    rw [mediaParts, if_neg hsemicolon, ih h.2]

theorem name?_of_not_mem {mediaType : List Char} (h : ';' ∉ mediaType) :
    name? mediaType = none := by
  rw [name?, mediaParts_of_not_mem h]
  dsimp only
  split
  · rfl
  · rfl

/-- **Without parameters of the media type** the charset is UTF-8. -/
theorem ofHead_of_not_mem {head : Head}
    (h : ∀ value ∈ head.values "content-type", 0x3B ∉ value) : ofHead head = .utf8 := by
  rw [ofHead]
  cases hvalues : head.values "content-type" with
  | nil => rfl
  | cons value values =>
    have hvalue : 0x3B ∉ value := h value (hvalues ▸ List.mem_cons_self)
    rw [List.head?_cons]
    dsimp only
    split
    · rename_i hvisible
      -- The value is ASCII, so a semicolon in its text would be the byte of one.
      have hascii : ∀ byte ∈ value, byte.toNat < 0x80 := by
        intro byte hbyte
        have := List.all_eq_true.mp hvisible byte hbyte
        simp only [Bool.or_eq_true, beq_iff_eq, Bool.and_eq_true, decide_eq_true_eq,
          UInt8.lt_iff_toNat_lt] at this
        rcases this with rfl | ⟨-, hlt⟩
        · decide
        · exact Nat.lt_trans hlt (by decide)
      have hname : ';' ∉ Utf8.decodeLossy value :=
        fun hmem => hvalue (Utf8.mem_of_mem_decodeLossy hascii hmem)
      rw [name?_of_not_mem hname]
      rfl
    · rfl

/-! ## Byte order marks -/

/-- **A text without a byte order mark** is read as it was written. -/
theorem decode_encode {content : List Char} (h : content.head? ≠ some '\uFEFF') :
    decode .utf8 (Utf8.encode content) = content := by
  have hread : Utf8.decode? (Utf8.encode content) = some content := Utf8.decode?_encode content
  -- No other text begins with the bytes of a mark, in whichever charset that is one.
  unfold decode
  split
  · rename_i bytes hbytes
    have hnext : Utf8.next 0xEF (0xBB :: 0xBF :: bytes) = (some '\uFEFF', bytes) := rfl
    rw [hbytes, Utf8.decode?, hnext] at hread
    obtain ⟨others, -, rfl⟩ := Option.map_eq_some_iff.mp hread
    exact absurd rfl h
  · rename_i bytes hbytes
    have hnext : Utf8.next 0xFE (0xFF :: bytes) = (none, 0xFF :: bytes) := rfl
    rw [hbytes, Utf8.decode?, hnext] at hread
    cases hread
  · rename_i bytes hbytes
    have hnext : Utf8.next 0xFF (0xFE :: bytes) = (none, 0xFE :: bytes) := rfl
    rw [hbytes, Utf8.decode?, hnext] at hread
    cases hread
  · exact Utf8.decodeLossy_of_decode? hread

end Charset

/-- **The library of the program** can be relied on. -/
theorem Library.lawful_standard : standard.Lawful where
  read_nil := by
    show Reply.ofBytes [] = _
    rw [Reply.ofBytes]
    rfl
  read_reply h := Reply.ofBytes_reply h
  text_encode {head content} htype hmark := by
    show (Charset.ofHead head).decode (Utf8.encode content) = content
    rw [Charset.ofHead_of_not_mem htype, Charset.decode_encode hmark]
  redirects_le := Nat.le_refl 10

end LiveRoom.Http
