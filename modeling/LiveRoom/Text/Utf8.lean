/-!
# UTF-8

Input streams, files, environment values and bodies are bytes.  `Utf8.next`
reads one character at the head of a byte list, following the table of
well-formed sequences of the Unicode standard: it never accepts an overlong form,
a surrogate or a number beyond U+10FFFF.  Where the bytes spell no character it
gives up on the longest beginning of a well-formed sequence, at least one byte.

Two decoders come from it: `decode?` refuses a list with any such place, and
`decodeLossy` puts U+FFFD there and goes on.  `encode` is the way back.
-/

namespace LiveRoom.Utf8

/-- The bytes of a text. -/
def encode (text : List Char) : List UInt8 := text.flatMap String.utf8EncodeChar

/-- The number of bytes of a text. -/
def size (text : List Char) : Nat := text.foldr (fun c size => c.utf8Size + size) 0

/-- The rest of one sequence: `count` continuation bytes, the first of them from
`low` to `high`, added to the bits read so far.  The second part is what follows
the bytes used. -/
def continued : (count : Nat) → (low high : UInt8) → (bits : Nat) → List UInt8 →
    Option Char × List UInt8
  | 0, _, _, bits, bytes => (some (Char.ofNat bits), bytes)
  | _ + 1, _, _, _, [] => (none, [])
  | count + 1, low, high, bits, byte :: bytes =>
    if low ≤ byte && byte ≤ high then
      continued count 0x80 0xBF (bits * 64 + (byte &&& 0x3F).toNat) bytes
    else (none, byte :: bytes)

/-- **One character** at the head of `lead :: bytes`, or `none` where the bytes
spell none, with what follows the bytes used. -/
def next (lead : UInt8) (bytes : List UInt8) : Option Char × List UInt8 :=
  let n := lead.toNat
  if n < 0x80 then (some (Char.ofNat n), bytes)
  else if n < 0xC2 then (none, bytes)
  else if n < 0xE0 then continued 1 0x80 0xBF (n - 0xC0) bytes
  else if n = 0xE0 then continued 2 0xA0 0xBF 0 bytes
  else if n = 0xED then continued 2 0x80 0x9F 0xD bytes
  else if n < 0xF0 then continued 2 0x80 0xBF (n - 0xE0) bytes
  else if n = 0xF0 then continued 3 0x90 0xBF 0 bytes
  else if n < 0xF4 then continued 3 0x80 0xBF (n - 0xF0) bytes
  else if n = 0xF4 then continued 3 0x80 0x8F 4 bytes
  else (none, bytes)

theorem length_continued_le (count : Nat) (low high : UInt8) (bits : Nat) (bytes : List UInt8) :
    (continued count low high bits bytes).2.length ≤ bytes.length := by
  induction count generalizing low high bits bytes with
  | zero => simp [continued]
  | succ count ih =>
    cases bytes with
    | nil => simp [continued]
    | cons byte bytes =>
      unfold continued
      split
      · exact Nat.le_succ_of_le (ih ..)
      · exact Nat.le_refl _

theorem length_next_le (lead : UInt8) (bytes : List UInt8) :
    (next lead bytes).2.length ≤ bytes.length := by
  unfold next
  grind [length_continued_le]

/-- The text that the bytes spell, when every byte belongs to a well-formed
sequence. -/
def decode? : List UInt8 → Option (List Char)
  | [] => some []
  | lead :: bytes =>
    match (next lead bytes).1 with
    | none => none
    | some c => (decode? (next lead bytes).2).map (c :: ·)
termination_by bytes => bytes.length
decreasing_by exact Nat.lt_succ_of_le (length_next_le lead bytes)

/-- The text that the bytes spell, with U+FFFD wherever they spell no character. -/
def decodeLossy : List UInt8 → List Char
  | [] => []
  | lead :: bytes =>
    ((next lead bytes).1.getD '\uFFFD') :: decodeLossy (next lead bytes).2
termination_by bytes => bytes.length
decreasing_by exact Nat.lt_succ_of_le (length_next_le lead bytes)

end LiveRoom.Utf8
