import LiveRoom.Json.Format

/-!
# Between the values

What stands between the values of a text are blanks, commas, colons and brackets.  Here
are the steps that readers take over them: what a reader finds depends on the first
character that is no blank, however many blanks there are before it.
-/

namespace LiveRoom.Json

/-! ## Blanks -/

theorem skipBlank_cons {c : Char} (h : isBlank c = false) (text : List Char) :
    skipBlank (c :: text) = c :: text :=
  List.dropWhile_cons_of_neg (by simp [h])

theorem skipBlank_append {blanks : List Char} (h : ∀ c ∈ blanks, isBlank c) (text : List Char) :
    skipBlank (blanks ++ text) = skipBlank text :=
  List.dropWhile_append_of_pos h

theorem isBlank_of_mem_newline {depth : Nat} {c : Char} (h : c ∈ newline depth) : isBlank c := by
  rcases List.mem_cons.mp h with rfl | h
  · rfl
  · rw [List.eq_of_mem_replicate h]
    rfl

theorem skipBlank_newline (depth : Nat) (text : List Char) :
    skipBlank (newline depth ++ text) = skipBlank text :=
  skipBlank_append (fun _ => isBlank_of_mem_newline) text

theorem colon_cons (text : List Char) : colon (':' :: text) = .ok text := by
  rw [colon, skipBlank_cons (by decide)]
  rfl

/-! ## Elements -/

namespace Reader

variable {text rest : List Char} {c : Char}

theorem nextElement_close (first : Bool) (h : skipBlank text = ']' :: rest) :
    nextElement first text = .ok (false, ']' :: rest) := by
  rw [nextElement, h]
  rfl

theorem nextElement_first (h : skipBlank text = c :: rest) (hc : c ≠ ']') :
    nextElement true text = .ok (true, c :: rest) := by
  rw [nextElement, h]
  simp [hc]

theorem nextElement_comma (h : skipBlank text = c :: rest) (hc : c ≠ ']') :
    nextElement false (',' :: text) = .ok (true, c :: rest) := by
  rw [nextElement, skipBlank_cons (by decide)]
  simp [elementAfterComma, h, hc, Except.map]

variable {α : Type} {element : Reader α} {first : Bool}

theorem elements_of_close (h : nextElement first text = .ok (false, rest)) :
    elements element first text = .ok ([], rest.drop 1) := by
  rw [elements]
  split
  · rename_i hnext
    rw [h] at hnext
    cases hnext
  · rename_i hnext
    rw [h] at hnext
    cases hnext
    rfl
  · rename_i hnext
    rw [h] at hnext
    cases hnext

theorem elements_of_more (h : nextElement first text = .ok (true, rest)) {value : α}
    {after : List Char} (hvalue : element.read rest = .ok (value, after)) :
    elements element first text =
      (elements element false after).map fun (values, rest) => (value :: values, rest) := by
  rw [elements]
  split
  · rename_i hnext
    rw [h] at hnext
    cases hnext
  · rename_i hnext
    rw [h] at hnext
    cases hnext
  · rename_i hnext
    rw [h] at hnext
    cases hnext
    split
    · rename_i hread
      rw [hvalue] at hread
      cases hread
    · rename_i hread
      rw [hvalue] at hread
      cases hread
      rfl

end Reader

/-! ## Keys -/

namespace Fields

variable {text rest : List Char}

theorem nextKey_close (first : Bool) (h : skipBlank text = '\x7d' :: rest) :
    nextKey first text = .ok (false, rest) := by
  rw [nextKey, h]
  rfl

theorem nextKey_first (h : skipBlank text = '"' :: rest) :
    nextKey true text = .ok (true, rest) := by
  rw [nextKey, h]
  rfl

theorem nextKey_comma (h : skipBlank text = '"' :: rest) :
    nextKey false (',' :: text) = .ok (true, rest) := by
  rw [nextKey, skipBlank_cons (by decide)]
  simp [keyAfterComma, h, Except.map]

end Fields

end LiveRoom.Json
