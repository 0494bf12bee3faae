import LiveRoom.Proofs.Text.Utf8
import LiveRoom.Url.Parse
import Mathlib.Data.List.TakeWhile

/-!
# Addresses that are read as they are written

Reading a URL repairs what it can, so what comes out need not be what was typed.  An
address of nothing but unreserved characters between its slashes is left alone: no
padding is dropped, no character is encoded and no segment is resolved.

`Url.parse_http` says this of an address with a host, a port and a path.  What its host
stands for is left to `Host.parse`.
-/

namespace LiveRoom.Url

/-! ## Unreserved characters -/

/-- The marks that stand for themselves everywhere. -/
def unreservedMarks : List Char := ['-', '.', '_', '~']

/-- **An unreserved character**: a letter or digit of ASCII, or one of four marks. -/
def isUnreserved (c : Char) : Bool := c.isAlphanum || unreservedMarks.contains c

theorem toNat_lt_of_isUnreserved {c : Char} (h : isUnreserved c) : c.toNat < 0x7F := by
  -- The letters are given by bounds on their codes, and only these bounds are wanted.
  change (((decide (c.val ≥ 'A'.val ∧ c.val ≤ 'Z'.val) ||
    (decide (c.val ≥ 'a'.val) && decide (c.val ≤ 'z'.val))) || c.isDigit) ||
      unreservedMarks.contains c) = true at h
  simp only [unreservedMarks, Char.isDigit, Bool.or_eq_true, Bool.and_eq_true,
    decide_eq_true_eq, List.contains_cons, List.contains_nil, beq_iff_eq,
    UInt32.le_iff_toNat_le] at h
  rcases h with ((h | h) | h) | rfl | rfl | rfl | rfl | h
  · exact Nat.lt_of_le_of_lt h.2 (by decide)
  · exact Nat.lt_of_le_of_lt h.2 (by decide)
  · exact Nat.lt_of_le_of_lt h.2 (by decide)
  all_goals first | decide | cases h

/-- What holds of the unreserved characters, checked one by one, holds of each. -/
theorem of_isUnreserved {p : Char → Bool}
    (hall : ∀ n : Fin 0x7F, isUnreserved (Char.ofNat n) → p (Char.ofNat n)) {c : Char}
    (h : isUnreserved c) : p c := by
  have hc := hall ⟨c.toNat, toNat_lt_of_isUnreserved h⟩
  rw [Char.ofNat_toNat] at hc
  exact hc h

/-- An unreserved character is no padding, no break and no separator, and it is not encoded. -/
theorem isUnreserved_plain {c : Char} (h : isUnreserved c) :
    isPadding c = false ∧ isBreak c = false ∧ endsAuthority true c = false ∧
      isEncoded pathSet c = false ∧ c ≠ ':' ∧ c ≠ '@' ∧ c ≠ '[' ∧ c ≠ '%' := by
  have := of_isUnreserved (p := fun c => !isPadding c && !isBreak c && !endsAuthority true c &&
    !isEncoded pathSet c && c != ':' && c != '@' && c != '[' && c != '%') (by decide) h
  simpa [and_assoc] using this

/-! ## Segments that stand for themselves -/

/-- **A plain segment**: unreserved characters, and not one of the two segments of dots,
which are steps and no names. -/
structure IsPlain (segment : List Char) : Prop where
  unreserved : ∀ c ∈ segment, isUnreserved c
  ne_dot : segment ≠ ['.']
  ne_dots : segment ≠ ['.', '.']

instance (segment : List Char) : Decidable (IsPlain segment) :=
  decidable_of_iff
    (segment.all isUnreserved ∧ segment ≠ ['.'] ∧ segment ≠ ['.', '.'])
    ⟨fun h => ⟨List.all_eq_true.mp h.1, h.2.1, h.2.2⟩,
      fun h => ⟨List.all_eq_true.mpr h.unreserved, h.ne_dot, h.ne_dots⟩⟩

theorem percentEncode_eq_self {text : List Char} (h : ∀ c ∈ text, isUnreserved c) :
    percentEncode pathSet text = text := by
  induction text with
  | nil => rfl
  | cons c text ih =>
    obtain ⟨-, -, -, hencoded, -⟩ := isUnreserved_plain (h c List.mem_cons_self)
    have hc : encodeChar pathSet c = [c] := by
      rw [encodeChar, hencoded]
      rfl
    rw [percentEncode, List.flatMap_cons, hc]
    exact congrArg (c :: ·) (ih fun d hd => h d (List.mem_cons_of_mem c hd))

/-- Without percent signs, only dots are counted as dots. -/
theorem eq_replicate_of_dots {text : List Char} {n : Nat} (h : ∀ c ∈ text, c ≠ '%')
    (hdots : dots text = some n) : text = List.replicate n '.' := by
  fun_induction dots text generalizing n with
  | case1 =>
    cases hdots
    rfl
  | case2 text ih =>
    obtain ⟨m, hm, rfl⟩ := Option.map_eq_some_iff.mp hdots
    exact congrArg ('.' :: ·) (ih (fun c hc => h c (List.mem_cons_of_mem _ hc)) hm)
  | case3 text ih => exact absurd rfl (h '%' List.mem_cons_self)
  | case4 text ih => exact absurd rfl (h '%' List.mem_cons_self)
  | case5 => cases hdots

namespace IsPlain

variable {segment : List Char}

theorem dots_ne (h : IsPlain segment) : dots segment ≠ some 1 ∧ dots segment ≠ some 2 := by
  have hpercent : ∀ c ∈ segment, c ≠ '%' := fun c hc => by
    obtain ⟨-, -, -, -, -, -, -, hne⟩ := isUnreserved_plain (h.unreserved c hc)
    exact hne
  constructor
  · intro hdots
    exact h.ne_dot (eq_replicate_of_dots hpercent hdots)
  · intro hdots
    exact h.ne_dots (eq_replicate_of_dots hpercent hdots)

end IsPlain

/-- **Plain segments are resolved to themselves.** -/
theorem resolve_eq {behind parts : List (List Char)} (h : ∀ part ∈ parts, IsPlain part) :
    resolve behind parts = behind.reverse ++ parts := by
  induction parts generalizing behind with
  | nil =>
    rw [List.append_nil]
    rfl
  | cons part others ih =>
    have hpart := h part List.mem_cons_self
    obtain ⟨hone, htwo⟩ := hpart.dots_ne
    have hencode := percentEncode_eq_self hpart.unreserved
    have hothers : ∀ other ∈ others, IsPlain other := fun other hother =>
      h other (List.mem_cons_of_mem part hother)
    -- The last part of a path has an equation of its own.
    cases others with
    | nil => rw [resolve, if_neg hone, if_neg htwo, hencode, List.reverse_cons]
    | cons other others =>
      rw [resolve, if_neg hone, if_neg htwo, hencode, ih hothers, List.reverse_cons,
        List.append_assoc]
      · rfl
      · exact List.cons_ne_nil _ _

/-- **A path of plain segments is cut into these segments.** -/
theorem pieces_pathText {part : List Char} {others : List (List Char)}
    (h : ∀ segment ∈ part :: others, IsPlain segment) :
    Text.pieces (isSeparator true) (part ++ pathText (.segments others)) = part :: others := by
  have hinner : ∀ segment, IsPlain segment → ∀ c ∈ segment, isSeparator true c = false := by
    intro segment hsegment c hc
    obtain ⟨-, -, hends, -⟩ := isUnreserved_plain (hsegment.unreserved c hc)
    exact (Bool.or_eq_false_iff.mp hends).1
  induction others generalizing part with
  | nil =>
    rw [pathText, List.flatMap_nil, List.append_nil]
    exact Text.pieces_of_forall (hinner part (h part List.mem_cons_self))
  | cons other others ih =>
    have hrest := ih fun segment hsegment => h segment (List.mem_cons_of_mem part hsegment)
    rw [pathText] at hrest ⊢
    rw [List.flatMap_cons, List.cons_append,
      Text.pieces_append_cons (hinner part (h part List.mem_cons_self)) rfl, hrest]

/-! ## Plain addresses -/

/-- What follows the slashes in a plain address: the name of a host, a port and a path. -/
def locationText (name : List Char) (port : Nat) (segments : List (List Char)) : List Char :=
  name ++ ':' :: (Nat.toDigits 10 port ++ pathText (.segments segments))

/-- **The URL** of a host, a port and a path. -/
def http (host : Host) (port : Nat) (segments : List (List Char)) : Url where
  scheme := "http".toList
  host := some host
  port := if port = 80 then none else some port
  path := .segments segments

/-- A character of a plain address. -/
def isPlainChar (c : Char) : Bool := isUnreserved c || c == ':' || c == '/'

theorem isPlainChar_plain {c : Char} (h : isPlainChar c) : isPadding c = false ∧ c ≠ '@' := by
  simp only [isPlainChar, Bool.or_eq_true, beq_iff_eq] at h
  rcases h with (h | rfl) | rfl
  · obtain ⟨hpadding, -, -, -, -, hat, -⟩ := isUnreserved_plain h
    exact ⟨hpadding, hat⟩
  · exact ⟨rfl, by decide⟩
  · exact ⟨rfl, by decide⟩

theorem isUnreserved_of_isDigit {c : Char} (h : c.isDigit) : isUnreserved c := by
  rw [isUnreserved, Char.isAlphanum, h]
  simp

/-- The text of a plain path holds slashes and unreserved characters. -/
theorem isPlainChar_of_mem_pathText {segments : List (List Char)}
    (h : ∀ segment ∈ segments, IsPlain segment) {c : Char}
    (hc : c ∈ pathText (.segments segments)) : isPlainChar c := by
  obtain ⟨segment, hsegment, hmem⟩ := List.mem_flatMap.mp hc
  rcases List.mem_cons.mp hmem with rfl | hmem
  · rfl
  · simp [isPlainChar, (h segment hsegment).unreserved c hmem]

/-- A plain address behind its slashes holds colons, slashes and unreserved characters. -/
theorem isPlainChar_of_mem_locationText {name : List Char} (hname : ∀ c ∈ name, isUnreserved c)
    {port : Nat} {segments : List (List Char)} (h : ∀ segment ∈ segments, IsPlain segment)
    {c : Char} (hc : c ∈ locationText name port segments) : isPlainChar c := by
  simp only [locationText, List.mem_append, List.mem_cons] at hc
  rcases hc with hc | rfl | hc | hc
  · simp [isPlainChar, hname c hc]
  · rfl
  · have hdigit := Nat.isDigit_of_mem_toDigits (by decide) (by decide) hc
    simp [isPlainChar, isUnreserved_of_isDigit hdigit]
  · exact isPlainChar_of_mem_pathText h hc

theorem cleaned_eq_self {text : List Char} (h : ∀ c ∈ text, isPadding c = false) :
    cleaned text = text := by
  have hdrop : ∀ list : List Char, (∀ c ∈ list, isPadding c = false) →
      list.dropWhile isPadding = list := by
    intro list hlist
    cases list with
    | nil => rfl
    | cons c list =>
      exact List.dropWhile_cons_of_neg (by simp [hlist c List.mem_cons_self])
  -- Breaks are padding as well, so none is left inside the text.
  have hbreak : ∀ c ∈ text, !isBreak c := by
    intro c hc
    have hpadding := h c hc
    cases hbreak : isBreak c with
    | false => rfl
    | true =>
      simp only [isBreak, Bool.or_eq_true, beq_iff_eq] at hbreak
      rcases hbreak with (rfl | rfl) | rfl <;> cases hpadding
  rw [cleaned, hdrop text h, Text.dropWhileEnd, hdrop text.reverse (by simpa using h),
    List.reverse_reverse, List.filter_eq_self]
  exact hbreak

theorem splitLast_eq_none {separator : Char} {text : List Char} (h : separator ∉ text) :
    splitLast separator text = none := by
  induction text with
  | nil => rfl
  | cons c text ih =>
    rw [List.mem_cons, not_or] at h
    rw [splitLast, ih h.2]
    exact if_neg (Ne.symm h.1)

/-- The text of a host ends at the colon behind it. -/
theorem hostSpan_eq {name : List Char} (h : ∀ c ∈ name, isUnreserved c) (rest : List Char) :
    hostSpan true false (name ++ ':' :: rest) = (name, ':' :: rest) := by
  induction name with
  | nil => rfl
  | cons c name ih =>
    obtain ⟨-, -, hends, -, hcolon, -, hbracket, -⟩ := isUnreserved_plain (h c List.mem_cons_self)
    have hothers := ih fun d hd => h d (List.mem_cons_of_mem c hd)
    simp [hostSpan, hends, hcolon, beq_false_of_ne hbracket, hothers]

/-- **The port** behind a colon is read up to the path. -/
theorem portSpan_eq {port : Nat} (h : port ≤ 65535) (rest : List Char) :
    portSpan "http".toList (Nat.toDigits 10 port ++ '/' :: rest) =
      .ok (if port = 80 then none else some port, '/' :: rest) := by
  have hdigits : ∀ c ∈ Nat.toDigits 10 port, c.isDigit := fun c hc =>
    Nat.isDigit_of_mem_toDigits (by decide) (by decide) hc
  have htake : (Nat.toDigits 10 port ++ '/' :: rest).takeWhile Char.isDigit =
      Nat.toDigits 10 port := by
    rw [List.takeWhile_append_of_pos hdigits, List.takeWhile_cons_of_neg (by decide),
      List.append_nil]
  have hdrop : (Nat.toDigits 10 port ++ '/' :: rest).dropWhile Char.isDigit = '/' :: rest := by
    rw [List.dropWhile_append_of_pos hdigits, List.dropWhile_cons_of_neg (by decide)]
  have hvalue : Text.numeralValue (Nat.toDigits 10 port) = port := by
    have hten := Nat.ofDigitChars_ten_toDigits (n := port)
    simpa only [Nat.ofDigitChars_eq_foldl, Text.numeralValue, Nat.mul_comm] using hten
  have hdefault : defaultPort? "http".toList = some 80 := rfl
  have hne : Nat.toDigits 10 port ≠ [] := Nat.toDigits_ne_nil
  have hslash : isSlash '/' = true := rfl
  have hbound : ¬ 65535 < port := Nat.not_lt.mpr h
  rw [portSpan, htake, hdrop, hvalue, hdefault]
  by_cases hport : port = 80 <;> simp [hne, hslash, hbound, hport]

/-- **A plain path** behind a host is read as it is written. -/
theorem withHostPath_pathText (url : Url) (hspecial : isSpecial url.scheme)
    (hfile : url.scheme ≠ fileScheme) {part : List Char} {others : List (List Char)}
    (hparts : ∀ segment ∈ part :: others, IsPlain segment) :
    url.withHostPath ('/' :: (part ++ pathText (.segments others))) =
      { url with path := .segments (part :: others), query := none, fragment := none } := by
  have hmark : ∀ c ∈ part ++ pathText (.segments others), isMark c = false := by
    intro c hc
    have hplain : isPlainChar c := isPlainChar_of_mem_pathText hparts (List.mem_cons_of_mem _ hc)
    simp only [isPlainChar, Bool.or_eq_true, beq_iff_eq] at hplain
    rcases hplain with (hplain | rfl) | rfl
    · obtain ⟨-, -, hends, -⟩ := isUnreserved_plain hplain
      exact (Bool.or_eq_false_iff.mp hends).2
    · rfl
    · rfl
  have htake : (part ++ pathText (.segments others)).takeWhile (fun c => !isMark c) =
      part ++ pathText (.segments others) := by
    rw [List.takeWhile_eq_self_iff]
    intro c hc
    rw [hmark c hc]
    rfl
  have hdrop : (part ++ pathText (.segments others)).dropWhile (fun c => !isMark c) = [] := by
    rw [List.dropWhile_eq_nil_iff]
    intro c hc
    rw [hmark c hc]
    rfl
  have hslash : isSeparator true '/' = true := rfl
  rw [withHostPath, hspecial]
  simp only [hslash, if_true]
  rw [withPath, hspecial, htake, hdrop, pieces_pathText hparts, resolve_eq hparts, withSegments,
    if_neg hfile]
  rfl

/-- **What follows the slashes** of a plain address is read as it is written. -/
theorem afterSlashes_locationText {name : List Char} {host : Host}
    (hname : ∀ c ∈ name, isUnreserved c) (hne : name ≠ []) (hhost : Host.parse name = .ok host)
    {port : Nat} (hport : port ≤ 65535) {part : List Char} {others : List (List Char)}
    (hparts : ∀ segment ∈ part :: others, IsPlain segment) :
    afterSlashes "http".toList (locationText name port (part :: others)) =
      .ok (http host port (part :: others)) := by
  have hspecial : isSpecial "http".toList = true := rfl
  have hfile : "http".toList ≠ fileScheme := by decide
  have hpath : pathText (.segments (part :: others)) =
      '/' :: (part ++ pathText (.segments others)) := rfl
  have huser : splitLast '@' ((locationText name port (part :: others)).takeWhile
      fun c => !endsAuthority true c) = none := by
    refine splitLast_eq_none fun hmem => ?_
    have hat := isPlainChar_of_mem_locationText hname hparts (List.takeWhile_subset _ hmem)
    exact (isPlainChar_plain hat).2 rfl
  have hspan := hostSpan_eq hname (Nat.toDigits 10 port ++ pathText (.segments (part :: others)))
  rw [afterSlashes, hspecial, huser]
  simp only [locationText, hspan, hhost]
  rw [hpath, portSpan_eq hport]
  have hurl := withHostPath_pathText ⟨"http".toList, [], [], some host,
    if port = 80 then none else some port, .segments [], none, none⟩ rfl hfile hparts
  simpa [hne, percentEncode, bind, Except.bind, pure, Except.pure, http] using hurl

/-- **A plain address is read as it is written.** -/
theorem parse_http {name : List Char} {host : Host}
    (hname : ∀ c ∈ name, isUnreserved c) (hne : name ≠ []) (hhost : Host.parse name = .ok host)
    {port : Nat} (hport : port ≤ 65535) {part : List Char} {others : List (List Char)}
    (hparts : ∀ segment ∈ part :: others, IsPlain segment) :
    parse (String.ofList ("http://".toList ++ locationText name port (part :: others))) =
      .ok (http host port (part :: others)) := by
  have hclean : cleaned ("http://".toList ++ locationText name port (part :: others)) =
      "http://".toList ++ locationText name port (part :: others) := by
    refine cleaned_eq_self fun c hc => ?_
    rcases List.mem_append.mp hc with hc | hc
    · have hscheme : "http://".toList.all (fun c => !isPadding c) = true := by decide
      simpa using List.all_eq_true.mp hscheme c hc
    · exact (isPlainChar_plain (isPlainChar_of_mem_locationText hname hparts hc)).1
  have hscheme : scheme? ("http://".toList ++ locationText name port (part :: others)) =
      some ("http".toList, '/' :: '/' :: locationText name port (part :: others)) := rfl
  rw [parse, String.toList_ofList, parseNextTo, hclean, hscheme]
  have hfile : "http".toList ≠ fileScheme := by decide
  have hspecial : isSpecial "http".toList = true := rfl
  have hdrop : ('/' :: '/' :: locationText name port (part :: others)).dropWhile isSlash =
      locationText name port (part :: others) := by
    -- The name does not begin with a slash, so that just the two slashes are dropped.
    obtain ⟨c, others', rfl⟩ := List.exists_cons_of_ne_nil hne
    obtain ⟨-, -, hends, -⟩ := isUnreserved_plain (hname c List.mem_cons_self)
    have hslash : isSlash c = false := (Bool.or_eq_false_iff.mp hends).1
    rw [List.dropWhile_cons_of_pos rfl, List.dropWhile_cons_of_pos rfl, locationText,
      List.cons_append, List.dropWhile_cons_of_neg (by simp [hslash])]
  simp only [afterScheme, if_neg hfile, hspecial, hdrop, if_true]
  exact afterSlashes_locationText hname hne hhost hport hparts

end LiveRoom.Url
