import LiveRoom.Http.Head
import LiveRoom.Text.Numeral
import LiveRoom.Text.Pieces

/-!
# The body of an answer

The head says how the body is framed: it may be empty by the status, come in chunks,
have an announced length, or go on until the connection ends.  Of an announced length
and of chunks every byte must come; otherwise the body cannot be read, although the
answer itself was.

A chunk is its size in hexadecimal on a line of its own, that many bytes, and the end
of a line.  The size zero ends the chunks; lines that follow it mean nothing here.

Answers that only inform about the progress of the request (statuses from 100 on) come
before the real one and are passed over.
-/

namespace LiveRoom.Http

/-- **Why a body cannot be read.** -/
inductive BodyFault where
  /-- The connection ended inside the announced bytes. -/
  | short
  /-- The connection ended between chunks. -/
  | unfinished
  | sizeMissing
  | sizeMalformed
  | sizeTooLarge
  | afterSize
  | breakInExtension
  | sizeEnd
  | dataReturn
  | dataEnd
  | trailerEnd
  | lastEnd
  /-- Anything else, in the words of whoever read it. -/
  | other (message : String)
  deriving DecidableEq, Repr

/-- The fault in words. -/
def BodyFault.message : BodyFault → String
  | .short => "end of file before message length reached"
  | .unfinished => "unexpected EOF during chunk size line"
  | .sizeMissing => "Invalid chunk size line: missing size digit"
  | .sizeMalformed => "Invalid chunk size line: Invalid Size"
  | .sizeTooLarge => "invalid chunk size: overflow"
  | .afterSize => "Invalid chunk size linear white space"
  | .breakInExtension => "invalid chunk extension contains newline"
  | .sizeEnd => "Invalid chunk size LF"
  | .dataReturn => "Invalid chunk body CR"
  | .dataEnd => "Invalid chunk body LF"
  | .trailerEnd => "Invalid trailer end LF"
  | .lastEnd => "Invalid chunk end LF"
  | .other message => message

/-- **An answer**: its head, and its body if it could be read. -/
structure Reply where
  head : Head
  body : Except BodyFault (List UInt8)

/-- **How the body is framed.** -/
inductive Framing where
  | empty
  | length (count : Nat)
  | chunks
  | untilEnd
  deriving DecidableEq, Repr

/-! ## Framing -/

/-- The items of a list between commas, without the blanks around them. -/
def listItems (bytes : List UInt8) : List (List UInt8) :=
  (Text.pieces (· == 0x2C) bytes).map fun item =>
    ((item.dropWhile Head.isSpace).reverse.dropWhile Head.isSpace).reverse

/-- The number that decimal digits spell, below 2⁶⁴. -/
def decimal? (bytes : List UInt8) : Option Nat :=
  if bytes ≠ [] ∧ bytes.all fun byte => 0x30 ≤ byte && byte ≤ 0x39 then
    let number := bytes.foldl (fun number byte => number * 10 + (byte.toNat - 0x30)) 0
    if number < Nat.pow 2 64 then some number else none
  else none

/-- The length that one or several headers announce; they must agree. -/
def announced? (values : List (List UInt8)) : Option Nat :=
  match (values.flatMap listItems).mapM decimal? with
  | some (first :: others) => if others.all (· = first) then some first else none
  | _ => none

/-- The longest body that a head may announce. -/
def longestBody : Nat := Nat.pow 2 64 - 3

/-- **The framing that a head demands.** -/
def Head.framing (head : Head) : Except HeadFault Framing :=
  if head.status = 101 ∨ head.status = 204 ∨ head.status = 304 then .ok .empty
  else
    match (head.values "transfer-encoding").getLast? with
    | some codings =>
      if head.legacy then .error .transferEncoding
      else if ((listItems codings).getLast?.getD []).map lowerByte = ascii "chunked" then
        .ok .chunks
      else .ok .untilEnd
    | none =>
      match head.values "content-length" with
      | [] => .ok .untilEnd
      | values =>
        match announced? values with
        | some count => if longestBody < count then .error .tooLarge else .ok (.length count)
        | none => .error .contentLength

/-! ## Chunks -/

/-- The value of a byte that is a hexadecimal digit. -/
def hexValue? (byte : UInt8) : Option Nat := Text.hexDigit? byte.toNat

/-- A line feed that must be there. -/
def lineFeed (fault : BodyFault) : List UInt8 → Except BodyFault (List UInt8)
  | [] => .error .unfinished
  | byte :: bytes => if byte = 0x0A then .ok bytes else .error fault

/-- What follows the digits of a size, up to the end of the line. -/
def sizeRest (blank : Bool) : List UInt8 → Except BodyFault (List UInt8)
  | [] => .error .unfinished
  | 0x0D :: bytes => lineFeed .sizeEnd bytes
  | 0x3B :: bytes =>
    match bytes.dropWhile fun byte => byte != 0x0D && byte != 0x0A with
    | [] => .error .unfinished
    | byte :: rest => if byte = 0x0D then lineFeed .sizeEnd rest else .error .breakInExtension
  | byte :: bytes =>
    if Head.isSpace byte then sizeRest true bytes
    else .error (if blank then .afterSize else .sizeMalformed)

/-- The line that gives the size of a chunk. -/
def sizeLine (bytes : List UInt8) : Except BodyFault (Nat × List UInt8) :=
  let digits := bytes.takeWhile fun byte => (hexValue? byte).isSome
  let rest := bytes.dropWhile fun byte => (hexValue? byte).isSome
  let size := (digits.filterMap hexValue?).foldl (fun size digit => size * 16 + digit) 0
  if digits = [] then .error (if rest = [] then .unfinished else .sizeMissing)
  else if Nat.pow 2 64 ≤ size then .error .sizeTooLarge
  else (sizeRest false rest).map fun rest => (size, rest)

/-- The end of the line behind the bytes of a chunk. -/
def dataEnd : List UInt8 → Except BodyFault (List UInt8)
  | [] => .error .unfinished
  | byte :: bytes => if byte = 0x0D then lineFeed .dataEnd bytes else .error .dataReturn

/-- The lines behind the last chunk, up to an empty one. -/
def trailer : (start : Bool) → List UInt8 → Except BodyFault Unit
  | _, [] => .error .unfinished
  | start, 0x0D :: bytes =>
    match bytes with
    | [] => .error .unfinished
    | byte :: bytes =>
      if byte = 0x0A then (if start then .ok () else trailer true bytes)
      else .error (if start then .lastEnd else .trailerEnd)
  | _, _ :: bytes => trailer false bytes

theorem length_lineFeed_le {fault : BodyFault} {bytes rest : List UInt8}
    (h : lineFeed fault bytes = .ok rest) : rest.length ≤ bytes.length := by
  unfold lineFeed at h
  split at h <;> grind

theorem length_sizeRest_le {blank : Bool} {bytes rest : List UInt8}
    (h : sizeRest blank bytes = .ok rest) : rest.length ≤ bytes.length := by
  fun_induction sizeRest blank bytes with
  | case1 => contradiction
  | case2 blank bytes => exact Nat.le_succ_of_le (length_lineFeed_le h)
  | case3 => contradiction
  | case4 blank bytes rest' hdrop =>
    have hlen := (List.dropWhile_suffix (fun byte => byte != 0x0D && byte != 0x0A)
      (l := bytes)).length_le
    have := length_lineFeed_le h
    rw [hdrop] at hlen
    simp only [List.length_cons] at *
    omega
  | case5 => contradiction
  | case6 blank byte bytes _ _ hspace ih => exact Nat.le_succ_of_le (ih h)
  | case7 => contradiction

theorem length_sizeLine_lt {bytes : List UInt8} {found : Nat × List UInt8}
    (h : sizeLine bytes = .ok found) : found.2.length < bytes.length := by
  have hsplit := congrArg List.length
    (List.takeWhile_append_dropWhile (p := fun byte => (hexValue? byte).isSome) (l := bytes))
  rw [List.length_append] at hsplit
  unfold sizeLine at h
  dsimp only at h
  split at h
  · contradiction
  · rename_i hdigits
    have hpos := List.length_pos_iff.2 hdigits
    split at h
    · contradiction
    · cases hrest : sizeRest false (bytes.dropWhile fun byte => (hexValue? byte).isSome) with
      | error fault => simp [hrest, Except.map] at h
      | ok rest =>
        have := length_sizeRest_le hrest
        rw [hrest] at h
        cases h
        dsimp only
        omega

theorem length_dataEnd_le {bytes rest : List UInt8} (h : dataEnd bytes = .ok rest) :
    rest.length ≤ bytes.length := by
  unfold dataEnd at h
  split at h
  · contradiction
  · split at h
    · exact Nat.le_succ_of_le (length_lineFeed_le h)
    · contradiction

/-- **The bytes that chunks hold.** -/
def unchunked (bytes : List UInt8) : Except BodyFault (List UInt8) :=
  match h : sizeLine bytes with
  | .error fault => .error fault
  | .ok (size, data) =>
    if size = 0 then (trailer true data).map fun _ => []
    else if data.length < size then .error .short
    else
      match hend : dataEnd (data.drop size) with
      | .error fault => .error fault
      | .ok rest =>
        have : rest.length < bytes.length := by
          have hsize := length_sizeLine_lt h
          have hdata := length_dataEnd_le hend
          rw [List.length_drop] at hdata
          dsimp only at hsize
          omega
        (unchunked rest).map (data.take size ++ ·)
termination_by bytes.length

/-! ## Answers -/

/-- **The body** that follows a head. -/
def Framing.body : Framing → List UInt8 → Except BodyFault (List UInt8)
  | .empty, _ => .ok []
  | .length count, bytes => if bytes.length < count then .error .short else .ok (bytes.take count)
  | .chunks, bytes => unchunked bytes
  | .untilEnd, bytes => .ok bytes

/-- Whether a status only informs about progress. -/
def isProgress (status : Nat) : Bool := status < 200 && status != 101

/-- **The answer** in the bytes of a connection. -/
def Reply.ofBytes (bytes : List UInt8) : Except HeadFault Reply :=
  match h : Head.ofBytes bytes with
  | .error fault => .error fault
  | .ok found =>
    have := Head.length_ofBytes_lt h
    if isProgress found.1.status then ofBytes found.2
    else found.1.framing.map fun framing => ⟨found.1, framing.body found.2⟩
termination_by bytes.length

end LiveRoom.Http
