/-!
# The head of an answer

An answer begins with a line that names the version of the protocol and the status,
followed by header lines and an empty line.  Lines end with a line feed, with or
without a carriage return in front of it.

The head is read byte by byte.  The first byte that cannot stand where it stands is
the fault; if there is none but the bytes end, the connection was closed too early.

A head has at most `Head.headerLimit` headers and `Head.sizeLimit` bytes.  Otherwise it is
too large, whatever comes behind these.
-/

namespace LiveRoom.Http

/-- **Why the head of an answer cannot be read.** -/
inductive HeadFault where
  | closed
  | version
  | status
  | header
  | contentLength
  | transferEncoding
  | tooLarge
  /-- Anything else, in the words of whoever read it. -/
  | other (message : String)
  deriving DecidableEq, Repr

/-- The fault in words. -/
def HeadFault.message : HeadFault → String
  | .closed => "connection closed before message completed"
  | .version => "invalid HTTP version parsed"
  | .status => "invalid HTTP status-code parsed"
  | .header => "invalid HTTP header parsed"
  | .contentLength => "invalid content-length parsed"
  | .transferEncoding => "unexpected transfer-encoding parsed"
  | .tooLarge => "message head is too large"
  | .other message => message

/-- **A header**: its name in lower case, and its value without the blanks around it. -/
structure Header where
  name : List UInt8
  value : List UInt8
  deriving DecidableEq, Repr

/-- **The head of an answer.** -/
structure Head where
  /-- Whether the version is the older one, 1.0. -/
  legacy : Bool
  status : Nat
  headers : List Header
  deriving DecidableEq, Repr

/-- The bytes of an ASCII text. -/
def ascii (text : String) : List UInt8 := text.toList.map fun c => UInt8.ofNat c.toNat

/-- A byte with upper-case letters lowered. -/
def lowerByte (byte : UInt8) : UInt8 :=
  if 0x41 ≤ byte && byte ≤ 0x5A then byte + 0x20 else byte

/-- The values of the headers of a name, in order. -/
def Head.values (head : Head) (name : String) : List (List UInt8) :=
  (head.headers.filter fun header => header.name = ascii name).map (·.value)

namespace Head

/-! ## The status line -/

/-- The end of a line. -/
def lineEnd (fault : HeadFault) : List UInt8 → Except HeadFault (List UInt8)
  | [] => .error .closed
  | 0x0A :: bytes => .ok bytes
  | [0x0D] => .error .closed
  | 0x0D :: 0x0A :: bytes => .ok bytes
  | _ => .error fault

/-- Bytes that must be there. -/
def expect (fault : HeadFault) : (expected : List UInt8) → List UInt8 →
    Except HeadFault (List UInt8)
  | [], bytes => .ok bytes
  | _ :: _, [] => .error .closed
  | first :: expected, byte :: bytes =>
    if byte = first then expect fault expected bytes else .error fault

/-- Empty lines in front of the head. -/
def skipEmptyLines : List UInt8 → Except HeadFault (List UInt8)
  | 0x0A :: bytes => skipEmptyLines bytes
  | 0x0D :: 0x0A :: bytes => skipEmptyLines bytes
  | [0x0D] => .error .closed
  | 0x0D :: _ => .error .header
  | bytes => .ok bytes

/-- The version, and whether it is the older one. -/
def version (bytes : List UInt8) : Except HeadFault (Bool × List UInt8) :=
  match expect .version (ascii "HTTP/1.") bytes with
  | .error fault => .error fault
  | .ok [] => .error .closed
  | .ok (0x30 :: rest) => .ok (true, rest)
  | .ok (0x31 :: rest) => .ok (false, rest)
  | .ok _ => .error .version

/-- So many decimal digits, added to the number read so far. -/
def digits : (count : Nat) → (number : Nat) → List UInt8 → Except HeadFault (Nat × List UInt8)
  | 0, number, bytes => .ok (number, bytes)
  | _ + 1, _, [] => .error .closed
  | count + 1, number, byte :: bytes =>
    if 0x30 ≤ byte && byte ≤ 0x39 then
      digits count (number * 10 + (byte.toNat - 0x30)) bytes
    else .error .status

/-- Whether a byte may stand in free text: a tab, or anything but a control. -/
def isTextByte (byte : UInt8) : Bool := byte == 0x09 || (0x20 ≤ byte && byte != 0x7F)

/-- What follows the status: perhaps a phrase, and the end of the line. -/
def phrase : List UInt8 → Except HeadFault (List UInt8)
  | 0x20 :: bytes => lineEnd .status (bytes.dropWhile isTextByte)
  | bytes => lineEnd .status bytes

/-! ## Header lines -/

/-- A space or a tab. -/
def isSpace (byte : UInt8) : Bool := byte == 0x20 || byte == 0x09

/-- Bytes without the blanks around them. -/
def stripped (bytes : List UInt8) : List UInt8 :=
  ((bytes.dropWhile isSpace).reverse.dropWhile isSpace).reverse

/-- The marks that may stand in the name of a header. -/
def nameMarks : List UInt8 := ascii "!#$%&'*+-.^_`|~"

/-- Whether a byte may stand in the name of a header. -/
def isNameByte (byte : UInt8) : Bool :=
  (0x30 ≤ byte && byte ≤ 0x39) || (0x61 ≤ lowerByte byte && lowerByte byte ≤ 0x7A) ||
    nameMarks.contains byte

/-- **One header line.** -/
def headerLine (bytes : List UInt8) : Except HeadFault (Header × List UInt8) :=
  let name := bytes.takeWhile isNameByte
  match bytes.dropWhile isNameByte with
  | [] => .error .closed
  | colon :: rest =>
    if name = [] || colon != 0x3A then .error .header
    else
      let rest := rest.dropWhile isSpace
      let value := (rest.takeWhile isTextByte).reverse.dropWhile isSpace
      (lineEnd .header (rest.dropWhile isTextByte)).map fun after =>
        (⟨name.map lowerByte, value.reverse⟩, after)

theorem length_lineEnd_le {fault : HeadFault} {bytes rest : List UInt8}
    (h : lineEnd fault bytes = .ok rest) : rest.length ≤ bytes.length := by
  unfold lineEnd at h
  split at h <;> grind

theorem length_headerLine_lt {bytes : List UInt8} {found : Header × List UInt8}
    (h : headerLine bytes = .ok found) : found.2.length < bytes.length := by
  have hdrop := (List.dropWhile_suffix isNameByte (l := bytes)).length_le
  unfold headerLine at h
  dsimp only at h
  split at h
  · contradiction
  · rename_i colon rest heq
    rw [heq] at hdrop
    split at h
    · contradiction
    · cases hend : lineEnd .header ((rest.dropWhile isSpace).dropWhile isTextByte) with
      | error fault => simp [hend, Except.map] at h
      | ok after =>
        have hle := length_lineEnd_le hend
        have htext := (List.dropWhile_suffix isTextByte (l := rest.dropWhile isSpace)).length_le
        have hspace := (List.dropWhile_suffix isSpace (l := rest)).length_le
        rw [hend] at h
        cases h
        simp only [List.length_cons] at hdrop
        dsimp only
        omega

/-- Whether the empty line behind the headers begins here. -/
def isAtEnd (bytes : List UInt8) : Bool :=
  bytes.head? == some 0x0A || bytes.head? == some 0x0D

/-- The fault of a header line that there is no room for. -/
def surplus : List UInt8 → HeadFault
  | [] => .closed
  | byte :: _ => if isNameByte byte then .tooLarge else .header

/-- **Header lines** up to the empty line, at most so many. -/
def headerLines : (room : Nat) → List UInt8 → Except HeadFault (List Header × List UInt8)
  | 0, bytes =>
    if isAtEnd bytes then (lineEnd .header bytes).map fun rest => ([], rest)
    else .error (surplus bytes)
  | room + 1, bytes =>
    if isAtEnd bytes then (lineEnd .header bytes).map fun rest => ([], rest)
    else
      match headerLine bytes with
      | .error fault => .error fault
      | .ok found =>
        (headerLines room found.2).map fun others => (found.1 :: others.1, others.2)

theorem length_headerLines_le {room : Nat} {bytes : List UInt8}
    {found : List Header × List UInt8} (h : headerLines room bytes = .ok found) :
    found.2.length ≤ bytes.length := by
  have hempty : ∀ {bytes found}, (lineEnd .header bytes).map
      (fun rest => (([] : List Header), rest)) = .ok found → found.2.length ≤ bytes.length := by
    intro bytes found h
    cases hrest : lineEnd .header bytes with
    | error fault => simp [hrest, Except.map] at h
    | ok rest =>
      rw [hrest] at h
      cases h
      exact length_lineEnd_le hrest
  induction room generalizing bytes found with
  | zero =>
    rw [headerLines] at h
    split at h
    · exact hempty h
    · contradiction
  | succ room ih =>
    rw [headerLines] at h
    split at h
    · exact hempty h
    · cases hline : headerLine bytes with
      | error fault => simp [hline] at h
      | ok line =>
        cases hrest : headerLines room line.2 with
        | error fault => simp [hline, hrest, Except.map] at h
        | ok rest =>
          have hothers := ih hrest
          simp only [hline, hrest, Except.map] at h
          cases h
          exact Nat.le_trans hothers (Nat.le_of_lt (length_headerLine_lt hline))

/-! ## The whole head -/

/-- The most headers that a head may have. -/
def headerLimit : Nat := 100

/-- The most bytes that a head may have. -/
def sizeLimit : Nat := 417792

/-- The head at the start of some bytes, whatever their number, and what follows it. -/
def read (bytes : List UInt8) : Except HeadFault (Head × List UInt8) := do
  let bytes ← skipEmptyLines bytes
  let (legacy, bytes) ← version bytes
  let bytes ← expect .version [0x20] bytes
  let (status, bytes) ← digits 3 0 bytes
  let bytes ← phrase bytes
  let (headers, bytes) ← headerLines headerLimit bytes
  if status < 100 then .error .status else return (⟨legacy, status, headers⟩, bytes)

/-- **The head** at the start of some bytes, and what follows it. -/
def ofBytes (bytes : List UInt8) : Except HeadFault (Head × List UInt8) :=
  match read (bytes.take sizeLimit) with
  | .error .closed => .error (if bytes.length < sizeLimit then .closed else .tooLarge)
  | .error fault => .error fault
  | .ok found => .ok (found.1, found.2 ++ bytes.drop sizeLimit)

theorem length_skipEmptyLines_le {bytes rest : List UInt8}
    (h : skipEmptyLines bytes = .ok rest) : rest.length ≤ bytes.length := by
  fun_induction skipEmptyLines bytes with
  | case1 bytes ih => exact Nat.le_succ_of_le (ih h)
  | case2 bytes ih => exact Nat.le_succ_of_le (Nat.le_succ_of_le (ih h))
  | case3 => contradiction
  | case4 => contradiction
  | case5 bytes => cases h; exact Nat.le_refl _

theorem length_expect {fault : HeadFault} {expected bytes rest : List UInt8}
    (h : expect fault expected bytes = .ok rest) :
    rest.length + expected.length = bytes.length := by
  fun_induction expect fault expected bytes with
  | case1 bytes => cases h; rfl
  | case2 => contradiction
  | case3 expected byte bytes ih =>
    have := ih h
    simp only [List.length_cons]
    omega
  | case4 => contradiction

theorem length_version_le {bytes : List UInt8} {found : Bool × List UInt8}
    (h : version bytes = .ok found) : found.2.length ≤ bytes.length := by
  unfold version at h
  cases hrest : expect .version (ascii "HTTP/1.") bytes with
  | error fault => simp [hrest] at h
  | ok rest =>
    have := length_expect hrest
    rw [hrest] at h
    split at h <;> grind

theorem length_digits_le {count number : Nat} {bytes : List UInt8} {found : Nat × List UInt8}
    (h : digits count number bytes = .ok found) : found.2.length ≤ bytes.length := by
  fun_induction digits count number bytes with
  | case1 number bytes => cases h; exact Nat.le_refl _
  | case2 => contradiction
  | case3 count number byte bytes hdigit ih => exact Nat.le_succ_of_le (ih h)
  | case4 => contradiction

theorem length_phrase_le {bytes rest : List UInt8} (h : phrase bytes = .ok rest) :
    rest.length ≤ bytes.length := by
  unfold phrase at h
  split at h
  · rename_i bytes
    have := (List.dropWhile_suffix isTextByte (l := bytes)).length_le
    have := length_lineEnd_le h
    simp only [List.length_cons]
    omega
  · exact length_lineEnd_le h

theorem length_read_lt {bytes : List UInt8} {found : Head × List UInt8}
    (h : read bytes = .ok found) : found.2.length < bytes.length := by
  unfold read at h
  cases h₁ : skipEmptyLines bytes with
  | error fault => simp [h₁, bind, Except.bind] at h
  | ok start =>
  cases h₂ : version start with
  | error fault => simp [h₁, h₂, bind, Except.bind] at h
  | ok version =>
  cases h₃ : expect .version [0x20] version.2 with
  | error fault => simp [h₁, h₂, h₃, bind, Except.bind] at h
  | ok space =>
  cases h₄ : digits 3 0 space with
  | error fault => simp [h₁, h₂, h₃, h₄, bind, Except.bind] at h
  | ok status =>
  cases h₅ : phrase status.2 with
  | error fault => simp [h₁, h₂, h₃, h₄, h₅, bind, Except.bind] at h
  | ok line =>
  cases h₆ : headerLines headerLimit line with
  | error fault => simp [h₁, h₂, h₃, h₄, h₅, h₆, bind, Except.bind] at h
  | ok lines =>
    have := length_skipEmptyLines_le h₁
    have := length_version_le h₂
    have := length_expect h₃
    have := length_digits_le h₄
    have := length_phrase_le h₅
    have := length_headerLines_le h₆
    simp only [h₁, h₂, h₃, h₄, h₅, h₆, bind, Except.bind] at h
    split at h
    · contradiction
    · cases h
      simp only [List.length_cons, List.length_nil] at *
      omega

/-- Reading a head uses up some bytes. -/
theorem length_ofBytes_lt {bytes : List UInt8} {found : Head × List UInt8}
    (h : ofBytes bytes = .ok found) : found.2.length < bytes.length := by
  unfold ofBytes at h
  split at h
  · contradiction
  · contradiction
  · rename_i start hstart
    cases h
    have hlt := length_read_lt hstart
    have hsplit := congrArg List.length (List.take_append_drop sizeLimit bytes)
    simp only [List.length_append] at *
    omega

end Head

end LiveRoom.Http
