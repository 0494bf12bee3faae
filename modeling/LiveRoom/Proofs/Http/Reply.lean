import LiveRoom.Http.Service
import LiveRoom.Proofs.Text.Utf8
import Mathlib.Data.List.TakeWhile

/-!
# Answers that are read as they are written

A service writes an answer as a status, header lines, a length and a body.  Reading these
bytes gives the same status, the headers with their names in lower case and without the
blanks around their values, and the body, unless the length that was announced is too
large: `Reply.ofBytes_reply`.

This is so for the statuses that end the wait for an answer (from 200 on) and for headers
that are legible and leave the framing of the body to the service, if there are not too many
of them (`IsPlain`).
-/

namespace LiveRoom.Http

/-! ## Digits as bytes -/

def byteOf (c : Char) : UInt8 := UInt8.ofNat c.toNat

/-- The byte of a digit lies between those of 0 and 9. -/
theorem byteOf_digit {c : Char} (h : c.isDigit) :
    (byteOf c).toNat = c.toNat ∧ (0x30 ≤ byteOf c && byteOf c ≤ 0x39) = true := by
  simp only [Char.isDigit, ge_iff_le, UInt32.le_iff_toNat_le, Bool.and_eq_true,
    decide_eq_true_eq] at h
  have hlow : 0x30 ≤ c.toNat := h.1
  have hhigh : c.toNat ≤ 0x39 := h.2
  have hbyte : (byteOf c).toNat = c.toNat :=
    UInt8.toNat_ofNat_of_lt' (Nat.lt_of_le_of_lt hhigh (by decide))
  refine ⟨hbyte, ?_⟩
  simp only [Bool.and_eq_true, decide_eq_true_eq, UInt8.le_iff_toNat_le, hbyte]
  exact ⟨hlow, hhigh⟩

/-- The byte of a digit is text, and neither a blank nor a comma. -/
theorem byteOf_digit_plain {c : Char} (h : c.isDigit) :
    Head.isTextByte (byteOf c) ∧ Head.isSpace (byteOf c) = false ∧
      (byteOf c == 0x2C) = false := by
  have hdigit := (byteOf_digit h).2
  simp only [Bool.and_eq_true, decide_eq_true_eq, UInt8.le_iff_toNat_le] at hdigit
  have hall : ∀ n : Fin 0x3A, 0x30 ≤ n.val → Head.isTextByte (UInt8.ofNat n.val) ∧
      Head.isSpace (UInt8.ofNat n.val) = false ∧ (UInt8.ofNat n.val == 0x2C) = false := by decide
  have hbyte := hall ⟨(byteOf c).toNat, Nat.lt_succ_of_le hdigit.2⟩ hdigit.1
  rwa [UInt8.ofNat_toNat] at hbyte

theorem encode_digits {digits : List Char} (h : ∀ c ∈ digits, c.isDigit) :
    Utf8.encode digits = digits.map byteOf := by
  induction digits with
  | nil => rfl
  | cons c digits ih =>
    have hchar : String.utf8EncodeChar c = [byteOf c] := by
      have hdigit := h c List.mem_cons_self
      simp only [Char.isDigit, ge_iff_le, UInt32.le_iff_toNat_le, Bool.and_eq_true,
        decide_eq_true_eq] at hdigit
      exact if_pos (Nat.le_trans hdigit.2 (by decide))
    rw [Utf8.encode, List.flatMap_cons, hchar]
    exact congrArg (byteOf c :: ·) (ih fun d hd => h d (List.mem_cons_of_mem c hd))

theorem isDigit_of_mem_toDigits (n : Nat) : ∀ c ∈ Nat.toDigits 10 n, c.isDigit :=
  fun _ hc => Nat.isDigit_of_mem_toDigits (by decide) (by decide) hc

theorem encode_toString (n : Nat) :
    Utf8.encode (toString n).toList = (Nat.toDigits 10 n).map byteOf := by
  rw [show (toString n).toList = Nat.toDigits 10 n from Nat.toList_repr]
  exact encode_digits (isDigit_of_mem_toDigits n)

/-- **So many digits** are read as the number that they spell. -/
theorem Head.digits_map {digits : List Char} (h : ∀ c ∈ digits, c.isDigit) (number : Nat)
    (rest : List UInt8) :
    Head.digits digits.length number (digits.map byteOf ++ rest) =
      .ok (Nat.ofDigitChars 10 digits number, rest) := by
  induction digits generalizing number with
  | nil => rfl
  | cons c digits ih =>
    obtain ⟨hvalue, hdigit⟩ := byteOf_digit (h c List.mem_cons_self)
    rw [List.length_cons, List.map_cons, List.cons_append, Head.digits, if_pos hdigit, hvalue,
      ih (fun d hd => h d (List.mem_cons_of_mem c hd)), Nat.ofDigitChars_cons, Nat.mul_comm]
    rfl

/-- The value of digits, taken byte by byte. -/
theorem foldl_map_byteOf {digits : List Char} (h : ∀ c ∈ digits, c.isDigit) (number : Nat) :
    (digits.map byteOf).foldl (fun number byte => number * 10 + (byte.toNat - 0x30)) number =
      Nat.ofDigitChars 10 digits number := by
  induction digits generalizing number with
  | nil => rfl
  | cons c digits ih =>
    rw [List.map_cons, List.foldl_cons, ih fun d hd => h d (List.mem_cons_of_mem c hd),
      (byteOf_digit (h c List.mem_cons_self)).1, Nat.ofDigitChars_cons, Nat.mul_comm]
    rfl

/-- **A numeral in a header** is read as its number, if that is not too large. -/
theorem decimal?_toDigits {n : Nat} (h : n < Nat.pow 2 64) :
    decimal? ((Nat.toDigits 10 n).map byteOf) = some n := by
  have hne : (Nat.toDigits 10 n).map byteOf ≠ [] := by simp [Nat.toDigits_ne_nil]
  have hall : ((Nat.toDigits 10 n).map byteOf).all
      (fun byte => 0x30 ≤ byte && byte ≤ 0x39) = true := by
    rw [List.all_map, List.all_eq_true]
    exact fun c hc => (byteOf_digit (isDigit_of_mem_toDigits n c hc)).2
  have hvalue : Nat.ofDigitChars 10 (Nat.toDigits 10 n) 0 = n :=
    Nat.ofDigitChars_toDigits (by decide) (by decide)
  rw [decimal?, if_pos ⟨hne, hall⟩, foldl_map_byteOf (isDigit_of_mem_toDigits n), hvalue, if_pos h]

/-! ## Header lines -/

namespace Head

theorem stripped_eq_self {bytes : List UInt8} (h : ∀ byte ∈ bytes, isSpace byte = false) :
    stripped bytes = bytes := by
  have hdrop : ∀ list : List UInt8, (∀ byte ∈ list, isSpace byte = false) →
      list.dropWhile isSpace = list := by
    intro list hlist
    cases list with
    | nil => rfl
    | cons byte list => exact List.dropWhile_cons_of_neg (by simp [hlist byte List.mem_cons_self])
  rw [stripped, hdrop bytes h, hdrop bytes.reverse (by simpa using h), List.reverse_reverse]

/-- Blanks are dropped up to something else. -/
theorem dropWhile_append_cons {p : UInt8 → Bool} {ending : UInt8} (h : ¬ p ending)
    (bytes rest : List UInt8) :
    (bytes ++ ending :: rest).dropWhile p = bytes.dropWhile p ++ ending :: rest := by
  induction bytes with
  | nil => exact List.dropWhile_cons_of_neg h
  | cons byte bytes ih =>
    cases hbyte : p byte with
    | true => simp [hbyte, ih]
    | false => simp [hbyte]

/-- **A header line** is read as its name in lower case and its value. -/
theorem headerLine_append {name value : List UInt8} (hne : name ≠ [])
    (hname : ∀ byte ∈ name, isNameByte byte) (hvalue : ∀ byte ∈ value, isTextByte byte)
    (rest : List UInt8) :
    headerLine (name ++ 0x3A :: 0x20 :: (value ++ 0x0D :: 0x0A :: rest)) =
      .ok (⟨name.map lowerByte, stripped value⟩, rest) := by
  have hcolon : ¬ isNameByte 0x3A := by decide
  have hreturn : ¬ isTextByte 0x0D := by decide
  have htext : ∀ byte ∈ value.dropWhile isSpace, isTextByte byte := fun byte hbyte =>
    hvalue byte ((List.dropWhile_suffix _).subset hbyte)
  have hblanks : (0x20 :: (value ++ 0x0D :: 0x0A :: rest)).dropWhile isSpace =
      value.dropWhile isSpace ++ 0x0D :: 0x0A :: rest := by
    rw [List.dropWhile_cons_of_pos (by decide)]
    exact dropWhile_append_cons (by decide) value _
  have hend : lineEnd .header (0x0D :: 0x0A :: rest) = .ok rest := rfl
  rw [headerLine, List.takeWhile_append_of_pos hname, List.takeWhile_cons_of_neg hcolon,
    List.append_nil, List.dropWhile_append_of_pos hname, List.dropWhile_cons_of_neg hcolon]
  simp only [hne, hblanks, List.takeWhile_append_of_pos htext,
    List.takeWhile_cons_of_neg hreturn, List.dropWhile_append_of_pos htext,
    List.dropWhile_cons_of_neg hreturn, hend, List.append_nil]
  rfl

end Head

theorem Answer.line_header (name value : String) :
    Answer.line (name ++ ": " ++ value) = Utf8.encode name.toList ++
      0x3A :: 0x20 :: (Utf8.encode value.toList ++ [0x0D, 0x0A]) := by
  have hcolon : Utf8.encode ": ".toList = [0x3A, 0x20] := by decide
  simp only [Answer.line, String.toList_append, Utf8.encode_append, hcolon, List.append_assoc,
    List.cons_append, List.nil_append]

/-- A header line in front of others. -/
theorem Head.headerLines_of_line {room : Nat} {bytes : List UInt8} {found : Header × List UInt8}
    (hline : Head.headerLine bytes = .ok found) (hhead : Head.isAtEnd bytes = false) :
    Head.headerLines (room + 1) bytes =
      (Head.headerLines room found.2).map fun others => (found.1 :: others.1, others.2) := by
  rw [Head.headerLines, hhead, hline]
  rfl

/-- **Legible headers** are read one by one, up to the empty line, if there is room for them. -/
theorem Head.headerLines_append {headers : List (String × String)} {room : Nat}
    (h : ∀ header ∈ headers, IsLegible header) (hroom : headers.length ≤ room)
    (rest : List UInt8) :
    Head.headerLines room
        (headers.flatMap (fun header => Answer.line (header.1 ++ ": " ++ header.2)) ++
          (Answer.line "" ++ rest)) =
      .ok (headers.map fun header => Header.ofTexts header.1 header.2, rest) := by
  induction headers generalizing room with
  | nil => cases room <;> rfl
  | cons header headers ih =>
    obtain ⟨room, rfl⟩ := Nat.exists_eq_add_of_le' (Nat.le_trans (Nat.le_add_left 1 _) hroom)
    obtain ⟨hne, hname, -, hvalue⟩ := h header List.mem_cons_self
    have hothers := ih (fun other hother => h other (List.mem_cons_of_mem header hother))
      (Nat.le_of_succ_le_succ hroom)
    have hbytes : Utf8.encode header.1.toList ≠ [] := by
      intro hnil
      have hdecode := Utf8.decode?_encode header.1.toList
      rw [hnil, Utf8.decode?] at hdecode
      exact hne (String.toList_eq_nil_iff.mp (Option.some.inj hdecode).symm)
    rw [List.flatMap_cons, Answer.line_header, List.append_assoc, List.append_assoc,
      List.cons_append, List.cons_append, List.append_assoc]
    have hline := Head.headerLine_append hbytes hname hvalue
      (headers.flatMap (fun header => Answer.line (header.1 ++ ": " ++ header.2)) ++
        (Answer.line "" ++ rest))
    obtain ⟨first, name, hfirst⟩ := List.exists_cons_of_ne_nil hbytes
    have hnamed : Head.isNameByte first := hname first (hfirst ▸ List.mem_cons_self)
    refine (Head.headerLines_of_line hline ?_).trans ?_
    · rw [hfirst, Head.isAtEnd, Bool.or_eq_false_iff]
      constructor
      · rw [beq_eq_false_iff_ne]
        rintro ⟨⟩
        cases hnamed
      · rw [beq_eq_false_iff_ne]
        rintro ⟨⟩
        cases hnamed
    · rw [hothers]
      rfl

/-! ## Whole answers -/

/-- The bytes in front of a body in their parts. -/
theorem Answer.headBytes_eq (status : Nat) (headers : List (String × String)) (length : Nat) :
    Answer.headBytes status headers length =
      ascii "HTTP/1." ++ 0x31 :: 0x20 :: ((Nat.toDigits 10 status).map byteOf ++
        0x20 :: 0x0D :: 0x0A ::
          ((writtenHeaders headers length).flatMap
              (fun header => Answer.line (header.1 ++ ": " ++ header.2)) ++ Answer.line "")) := by
  have hversion : Utf8.encode "HTTP/1.1 ".toList = ascii "HTTP/1." ++ [0x31, 0x20] := by decide
  have hspace : Utf8.encode " ".toList = [0x20] := by decide
  have hfirst : Answer.line ("HTTP/1.1 " ++ toString status ++ " ") =
      ascii "HTTP/1." ++ 0x31 :: 0x20 :: ((Nat.toDigits 10 status).map byteOf ++
        [0x20, 0x0D, 0x0A]) := by
    simp only [Answer.line, String.toList_append, Utf8.encode_append, hversion, encode_toString,
      hspace, List.append_assoc, List.cons_append, List.nil_append]
  rw [Answer.headBytes, hfirst]
  simp only [List.append_assoc, List.cons_append, List.nil_append]

/-- **The status line** of an answer is read as its status. -/
theorem Head.read_statusLine {status : Nat} (hge : 100 ≤ status) (hle : status ≤ 999)
    {bytes rest : List UInt8} {headers : List Header}
    (h : Head.headerLines Head.headerLimit bytes = .ok (headers, rest)) :
    Head.read (ascii "HTTP/1." ++ 0x31 :: 0x20 :: ((Nat.toDigits 10 status).map byteOf ++
      0x20 :: 0x0D :: 0x0A :: bytes)) = .ok (⟨false, status, headers⟩, rest) := by
  have hlength : (Nat.toDigits 10 status).length = 3 :=
    Nat.le_antisymm ((Nat.length_toDigits_le_iff (by decide) (by decide)).mpr (by omega))
      (Nat.lt_of_not_le fun hle =>
        absurd ((Nat.length_toDigits_le_iff (by decide) (by decide)).mp hle) (by omega))
  have hvalue : Nat.ofDigitChars 10 (Nat.toDigits 10 status) 0 = status :=
    Nat.ofDigitChars_toDigits (by decide) (by decide)
  have hdigits : ∀ after : List UInt8,
      Head.digits 3 0 ((Nat.toDigits 10 status).map byteOf ++ after) = .ok (status, after) := by
    intro after
    have hread := Head.digits_map (isDigit_of_mem_toDigits status) 0 after
    rwa [hlength, hvalue] at hread
  have hskip : ∀ after : List UInt8, Head.skipEmptyLines (ascii "HTTP/1." ++ after) =
      .ok (ascii "HTTP/1." ++ after) := fun _ => rfl
  have hversion : ∀ after : List UInt8, Head.version (ascii "HTTP/1." ++ 0x31 :: after) =
      .ok (false, after) := fun _ => rfl
  have hspace : ∀ after : List UInt8, Head.expect .version [0x20] (0x20 :: after) = .ok after :=
    fun _ => rfl
  have hphrase : Head.phrase (0x20 :: 0x0D :: 0x0A :: bytes) = .ok bytes := rfl
  have hstatus : ¬ status < 100 := Nat.not_lt.mpr hge
  simp only [Head.read, hskip, hversion, hspace, hdigits, hphrase, h, bind, Except.bind,
    if_neg hstatus]
  rfl

/-- **A head that is not too long** is read, whatever follows it. -/
theorem Head.ofBytes_append {front : List UInt8} {head : Head}
    (hread : ∀ rest, Head.read (front ++ rest) = .ok (head, rest))
    (hlength : front.length ≤ Head.sizeLimit) (rest : List UInt8) :
    Head.ofBytes (front ++ rest) = .ok (head, rest) := by
  rw [Head.ofBytes, List.take_append, List.take_of_length_le hlength, hread,
    List.drop_append, List.drop_of_length_le hlength, List.nil_append]
  simp only [List.take_append_drop]

/-- The digits of a number are text, without blanks and commas. -/
theorem plain_of_mem_encode_toString {n : Nat} {byte : UInt8}
    (h : byte ∈ Utf8.encode (toString n).toList) :
    Head.isTextByte byte ∧ Head.isSpace byte = false ∧ (byte == 0x2C) = false := by
  rw [encode_toString] at h
  obtain ⟨c, hc, rfl⟩ := List.mem_map.mp h
  exact byteOf_digit_plain (isDigit_of_mem_toDigits n c hc)

theorem isLegible_of_mem_writtenHeaders {headers : List (String × String)}
    (h : ∀ header ∈ headers, IsLegible header) (length : Nat) :
    ∀ header ∈ writtenHeaders headers length, IsLegible header := by
  intro header hheader
  rcases List.mem_append.mp hheader with hheader | hheader
  · exact h header hheader
  · rcases List.mem_cons.mp hheader with rfl | hheader
    · exact ⟨by decide, List.all_eq_true.mp (by decide), by decide,
        List.all_eq_true.mp (by decide)⟩
    · obtain rfl := List.mem_singleton.mp hheader
      have hname : ∀ byte ∈ Utf8.encode "Content-Length".toList, Head.isNameByte byte :=
        List.all_eq_true.mp (by decide)
      have hshort : (Utf8.encode "Content-Length".toList).length < Nat.pow 2 16 := by decide
      exact ⟨fun hempty => absurd hempty (by decide : "Content-Length" ≠ ""), hname, hshort,
        fun byte hbyte => (plain_of_mem_encode_toString hbyte).1⟩

/-- **What frames the body of a plain answer** is in the headers that the service adds. -/
theorem values_writtenHead {status length : Nat} {headers : List (String × String)}
    (h : IsPlain status headers length) {name : String}
    (hname : name ∈ ["content-length", "transfer-encoding"]) :
    (writtenHead status headers length).values name =
      (writtenHead status [] length).values name := by
  have hnone : ((headers.map fun header => Header.ofTexts header.1 header.2).filter
      fun header => header.name = ascii name) = [] := by
    rw [List.filter_eq_nil_iff]
    intro read hread
    obtain ⟨header, hheader, rfl⟩ := List.mem_map.mp hread
    rw [decide_eq_true_eq]
    exact h.unframed header hheader name hname
  rw [Head.values, writtenHead, writtenHeaders, List.map_append, List.filter_append, hnone]
  rfl

/-- The headers that the service adds, as they are meant. -/
theorem headers_writtenHead (status length : Nat) :
    (writtenHead status [] length).headers =
      [⟨ascii "connection", ascii "close"⟩,
        ⟨ascii "content-length", (Nat.toDigits 10 length).map byteOf⟩] := by
  have hconnection : Header.ofTexts "Connection" "close" =
      ⟨ascii "connection", ascii "close"⟩ := by decide
  have hname : (Utf8.encode "Content-Length".toList).map lowerByte = ascii "content-length" := by
    decide
  have hvalue : Head.stripped (Utf8.encode (toString length).toList) =
      (Nat.toDigits 10 length).map byteOf := by
    rw [Head.stripped_eq_self fun byte hbyte => (plain_of_mem_encode_toString hbyte).2.1,
      encode_toString]
  show [Header.ofTexts "Connection" "close", Header.ofTexts "Content-Length" (toString length)] = _
  rw [hconnection, Header.ofTexts, hname, hvalue]

/-- **The length that the service announces** frames the body of a plain answer. -/
theorem framing_writtenHead {status length : Nat} {headers : List (String × String)}
    (h : IsPlain status headers length) (hstatus : ¬ (status = 204 ∨ status = 304)) :
    (writtenHead status headers length).framing = .ok (.length length) := by
  let digits := (Nat.toDigits 10 length).map byteOf
  have hcoding : (writtenHead status headers length).values "transfer-encoding" = [] := by
    rw [values_writtenHead h (by decide), Head.values, headers_writtenHead]
    rfl
  have hannounced : (writtenHead status headers length).values "content-length" = [digits] := by
    rw [values_writtenHead h (by decide), Head.values, headers_writtenHead]
    rfl
  have hplain : ∀ byte ∈ digits, Head.isSpace byte = false ∧ (byte == 0x2C) = false := by
    intro byte hbyte
    obtain ⟨c, hc, rfl⟩ := List.mem_map.mp hbyte
    exact (byteOf_digit_plain (isDigit_of_mem_toDigits length c hc)).2
  have hitems : listItems digits = [digits] := by
    rw [listItems, Text.pieces_of_forall fun byte hbyte => (hplain byte hbyte).2]
    exact congrArg (fun bytes => [bytes])
      (Head.stripped_eq_self fun byte hbyte => (hplain byte hbyte).1)
  have hvalue : announced? [digits] = some length := by
    have hdecimal : decimal? digits = some length :=
      decimal?_toDigits (Nat.lt_of_le_of_lt h.length_le (by decide))
    simp [announced?, hitems, hdecimal]
  have hbody : ¬ ((writtenHead status headers length).status = 101 ∨
      (writtenHead status headers length).status = 204 ∨
        (writtenHead status headers length).status = 304) := by
    have := h.status_ge
    show ¬ (status = 101 ∨ status = 204 ∨ status = 304)
    omega
  rw [Head.framing, if_neg hbody]
  simp only [hcoding, hannounced, hvalue, List.getLast?_nil, if_neg (Nat.not_lt.mpr h.length_le)]

/-- **The head of a plain answer** is read as it is written, and the body is what follows it. -/
theorem Head.ofBytes_reply {status : Nat} {headers : List (String × String)} {body : List UInt8}
    {missing : Nat} (h : IsPlain status headers (body.length + missing)) :
    Head.ofBytes (Answer.reply status headers body missing).bytes =
      .ok (writtenHead status headers (body.length + missing), body) := by
  have hroom : (writtenHeaders headers (body.length + missing)).length ≤ Head.headerLimit := by
    rw [writtenHeaders, List.length_append]
    exact Nat.add_le_add_right h.few 2
  have hread : ∀ rest : List UInt8,
      Head.read (Answer.headBytes status headers (body.length + missing) ++ rest) =
        .ok (writtenHead status headers (body.length + missing), rest) := by
    intro rest
    have hlines := Head.headerLines_append
      (isLegible_of_mem_writtenHeaders h.legible (body.length + missing)) hroom rest
    have hhead := Head.read_statusLine (Nat.le_trans (by decide) h.status_ge) h.status_le hlines
    rw [Answer.headBytes_eq]
    simp only [List.append_assoc, List.cons_append]
    exact hhead
  exact Head.ofBytes_append hread (Nat.le_trans h.short (by decide)) body

/-- A head whose status ends the wait for an answer is that of the answer. -/
theorem Reply.ofBytes_of_final {bytes rest : List UInt8} {head : Head}
    (h : Head.ofBytes bytes = .ok (head, rest)) (hfinal : ¬ isProgress head.status = true) :
    Reply.ofBytes bytes = head.framing.map fun framing => ⟨head, framing.body rest⟩ := by
  rw [Reply.ofBytes]
  split
  · rename_i fault hfault
    rw [h] at hfault
    cases hfault
  · rename_i found hfound
    obtain rfl := Except.ok.inj (h.symm.trans hfound)
    exact if_neg hfinal

/-- A body of the announced length is whole exactly if nothing of it is missing. -/
theorem Framing.body_length (body : List UInt8) (missing : Nat) :
    (Framing.length (body.length + missing)).body body =
      if missing = 0 then .ok body else .error .short := by
  show (if body.length < body.length + missing then _ else _) = _
  by_cases hmissing : missing = 0
  · subst hmissing
    rw [Nat.add_zero, if_neg (Nat.lt_irrefl _), if_pos rfl, List.take_length]
  · rw [if_pos (by omega), if_neg hmissing]

/-- **A plain answer is read as it is written**: its status, its headers and its body.  The body
cannot be read if bytes of it are missing; after the statuses 204 and 304 there is none. -/
theorem Reply.ofBytes_reply {status : Nat} {headers : List (String × String)}
    {body : List UInt8} {missing : Nat} (h : IsPlain status headers (body.length + missing)) :
    Reply.ofBytes (Answer.reply status headers body missing).bytes =
      .ok ⟨writtenHead status headers (body.length + missing),
        if status = 204 ∨ status = 304 then .ok []
        else if missing = 0 then .ok body else .error .short⟩ := by
  have hfinal : ¬ isProgress status = true := by
    have := h.status_ge
    simp [isProgress, Nat.not_lt.mpr this]
  rw [Reply.ofBytes_of_final (Head.ofBytes_reply h) hfinal]
  by_cases hstatus : status = 204 ∨ status = 304
  · rw [if_pos hstatus, Head.framing, if_pos (.inr hstatus)]
    rfl
  · rw [if_neg hstatus, framing_writtenHead h hstatus, ← Framing.body_length]
    rfl

end LiveRoom.Http
