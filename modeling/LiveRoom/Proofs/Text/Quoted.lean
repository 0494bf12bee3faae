import LiveRoom.Text.Numeral
import LiveRoom.Text.Quoted
import Mathlib.Data.Nat.Digits.Defs

/-!
# Quoted text is read back

No two texts are quoted alike (`Text.quote_append_inj`), whatever stands behind the closing
quotes.  It is enough to see this of one character: how it stands inside quotes tells which
character it is and where it ends (`Text.unescape_escape`).  A typed backslash does not pass for
the beginning of an escape, since it is escaped itself.

No control character is left in a quoted text (`Text.isControl_of_mem_quote`).
-/

namespace LiveRoom.Text

/-! ## Hexadecimal digits -/

def hexValue (digits : List Char) : Nat :=
  digits.foldl (fun value digit => value * 16 + (hexDigit? digit.toNat).getD 0) 0

theorem hexDigit?_digitChar : ∀ n < 16, hexDigit? n.digitChar.toNat = some n := by
  decide

/-- Every number is the last step of its digits. -/
theorem toDigits_induction {motive : Nat → List Char → Prop}
    (single : ∀ n < 16, motive n [n.digitChar])
    (more : ∀ n digits, motive (n / 16) digits → motive n (digits ++ [(n % 16).digitChar]))
    (n : Nat) : motive n (Nat.toDigits 16 n) := by
  induction n using Nat.strongRecOn with | ind n ih
  by_cases hn : n < 16
  · rw [Nat.toDigits_of_lt_base hn]
    exact single n hn
  · have hle : 16 ≤ n := Nat.not_lt.mp hn
    rw [Nat.toDigits_of_base_le (by decide) hle]
    exact more n _ (ih _ (Nat.div_lt_self (by omega) (by decide)))

/-- **The digits of a number spell it.** -/
theorem hexValue_toDigits (n : Nat) : hexValue (Nat.toDigits 16 n) = n := by
  refine toDigits_induction (motive := fun n digits => hexValue digits = n) ?_ ?_ n
  · intro n hn
    simp [hexValue, hexDigit?_digitChar n hn]
  · intro n digits hdigits
    have hlast := hexDigit?_digitChar (n % 16) (Nat.mod_lt n (by decide))
    rw [hexValue, List.foldl_append, show digits.foldl _ 0 = n / 16 from hdigits, List.foldl_cons,
      List.foldl_nil, hlast]
    exact Nat.div_add_mod' n 16

theorem exists_of_mem_toDigits {n : Nat} {c : Char} (hc : c ∈ Nat.toDigits 16 n) :
    ∃ digit < 16, c = Nat.digitChar digit := by
  refine toDigits_induction
    (motive := fun _ digits => ∀ c ∈ digits, ∃ digit < 16, c = Nat.digitChar digit) ?_ ?_ n c hc
  · intro n hn c hc
    exact ⟨n, hn, List.mem_singleton.mp hc⟩
  · intro n digits hdigits c hc
    rcases List.mem_append.mp hc with hc | hc
    · exact hdigits c hc
    · exact ⟨n % 16, Nat.mod_lt n (by decide), List.mem_singleton.mp hc⟩

/-! ## One character -/

/-- The character that a letter behind a backslash stands for. -/
def unescapeLetter : Char → Char
  | 't' => '\t'
  | 'n' => '\n'
  | 'r' => '\r'
  | '0' => '\x00'
  | c => c

/-- **Reads back one character** that stands inside quotes, and what follows it. -/
def unescape : List Char → Option (Char × List Char)
  | [] => none
  | '\\' :: 'u' :: '\x7b' :: text =>
    some (Char.ofNat (hexValue (text.takeWhile (· ≠ '\x7d'))), (text.dropWhile (· ≠ '\x7d')).tail)
  | '\\' :: letter :: text => some (unescapeLetter letter, text)
  | c :: text => some (c, text)

/-- **How one character stands inside quotes**: as it is, by a letter behind a backslash, or by
its number. -/
theorem escape_cases (c : Char) :
    (escape c = [c] ∧ c ≠ '"' ∧ c ≠ '\\' ∧ isHidden c = false) ∨
    (∃ letter, escape c = ['\\', letter] ∧ letter ≠ 'u' ∧ unescapeLetter letter = c ∧
      isControl letter = false) ∨
    escape c = '\\' :: 'u' :: '\x7b' :: (Nat.toDigits 16 c.toNat ++ ['\x7d']) := by
  by_cases hshort : c ∈ ['"', '\\', '\t', '\n', '\r', '\x00']
  · refine .inr (.inl ?_)
    simp only [List.mem_cons, List.not_mem_nil, or_false] at hshort
    rcases hshort with rfl | rfl | rfl | rfl | rfl | rfl
    all_goals exact ⟨_, rfl, by decide, by decide, by decide⟩
  · simp only [List.mem_cons, List.not_mem_nil, or_false, not_or] at hshort
    obtain ⟨hquote, hslash, htab, hfeed, hreturn, hnul⟩ := hshort
    rw [escape, if_neg hquote, if_neg hslash, if_neg htab, if_neg hfeed, if_neg hreturn,
      if_neg hnul]
    by_cases hhidden : isHidden c
    · exact .inr (.inr (if_pos hhidden))
    · exact .inl ⟨if_neg hhidden, hquote, hslash, eq_false_of_ne_true hhidden⟩

theorem ne_brace_of_mem_toDigits {n : Nat} :
    ∀ c ∈ Nat.toDigits 16 n, decide (c ≠ '\x7d') = true := by
  intro c hc
  obtain ⟨digit, hdigit, rfl⟩ := exists_of_mem_toDigits hc
  have hall : ∀ digit < 16, Nat.digitChar digit ≠ '\x7d' := by decide
  exact decide_eq_true (hall digit hdigit)

/-- **A character is read back** from how it stands inside quotes. -/
theorem unescape_escape (c : Char) (text : List Char) :
    unescape (escape c ++ text) = some (c, text) := by
  rcases escape_cases c with ⟨hescape, -, hslash, -⟩ | ⟨letter, hescape, hletter, hc, -⟩ | hescape
  · rw [hescape, List.singleton_append, unescape]
    · exact fun _ h _ => hslash h
    · exact fun _ _ h _ => hslash h
  · rw [hescape]
    show unescape ('\\' :: letter :: text) = _
    rw [unescape, hc]
    rintro _ rfl -
    exact hletter rfl
  · rw [hescape]
    show unescape ('\\' :: 'u' :: '\x7b' :: ((Nat.toDigits 16 c.toNat ++ ['\x7d']) ++ text)) = _
    rw [unescape, List.append_assoc, List.takeWhile_append_of_pos ne_brace_of_mem_toDigits,
      List.dropWhile_append_of_pos ne_brace_of_mem_toDigits]
    show some (Char.ofNat (hexValue (Nat.toDigits 16 c.toNat ++ [])), text) = _
    rw [List.append_nil, hexValue_toDigits, Char.ofNat_toNat]

/-- No character stands inside quotes as a quote does. -/
theorem escape_append_ne (c : Char) (text rest : List Char) : escape c ++ text ≠ '"' :: rest := by
  rcases escape_cases c with ⟨hescape, hquote, -⟩ | ⟨letter, hescape, -⟩ | hescape
  · rw [hescape]
    exact fun h => hquote (List.cons.inj h).1
  · rw [hescape]
    exact fun h => absurd (List.cons.inj h).1 (by decide)
  · rw [hescape]
    exact fun h => absurd (List.cons.inj h).1 (by decide)

/-! ## Whole texts -/

/-- What stands inside quotes tells the text up to the closing quote. -/
theorem flatMap_escape_inj {first second rest rest' : List Char}
    (h : first.flatMap escape ++ '"' :: rest = second.flatMap escape ++ '"' :: rest') :
    first = second ∧ rest = rest' := by
  induction first generalizing second with
  | nil =>
    cases second with
    | nil => exact ⟨rfl, (List.cons.inj h).2⟩
    | cons d second =>
      rw [List.flatMap_cons, List.append_assoc] at h
      exact absurd h.symm (escape_append_ne d _ _)
  | cons c first ih =>
    cases second with
    | nil =>
      rw [List.flatMap_cons, List.append_assoc] at h
      exact absurd h (escape_append_ne c _ _)
    | cons d second =>
      rw [List.flatMap_cons, List.flatMap_cons, List.append_assoc, List.append_assoc] at h
      -- The first character is read back, and so is what follows it.
      have hread := congrArg unescape h
      rw [unescape_escape, unescape_escape] at hread
      obtain ⟨rfl, hothers⟩ := Prod.mk.inj (Option.some.inj hread)
      obtain ⟨rfl, hrest⟩ := ih hothers
      exact ⟨rfl, hrest⟩

/-- **A quoted text tells the text**, and where it ends. -/
theorem quote_append_inj {first second rest rest' : List Char}
    (h : quote first ++ rest = quote second ++ rest') : first = second ∧ rest = rest' := by
  simp only [quote, List.cons_append, List.append_assoc, List.nil_append] at h
  exact flatMap_escape_inj (List.cons.inj h).2

theorem isControl_of_mem_escape {c : Char} : ∀ d ∈ escape c, isControl d = false := by
  intro d hd
  rcases escape_cases c with ⟨hescape, -, -, hhidden⟩ | ⟨letter, hescape, -, -, hletter⟩ | hescape
  · rw [hescape] at hd
    obtain rfl := List.mem_singleton.mp hd
    exact eq_false_of_ne_true fun hcontrol =>
      absurd (isHidden_of_isControl hcontrol) (by rw [hhidden]; exact Bool.false_ne_true)
  · rw [hescape] at hd
    simp only [List.mem_cons, List.not_mem_nil, or_false] at hd
    rcases hd with rfl | rfl
    · rfl
    · exact hletter
  · rw [hescape] at hd
    simp only [List.mem_cons, List.mem_append, List.not_mem_nil, or_false] at hd
    rcases hd with rfl | rfl | rfl | hd | rfl
    · rfl
    · rfl
    · rfl
    · obtain ⟨digit, hdigit, rfl⟩ := exists_of_mem_toDigits hd
      have hall : ∀ digit < 16, isControl (Nat.digitChar digit) = false := by decide
      exact hall digit hdigit
    · rfl

/-- **No control character is left** in a quoted text. -/
theorem isControl_of_mem_quote {text : List Char} : ∀ c ∈ quote text, isControl c = false := by
  intro c hc
  simp only [quote, List.mem_cons, List.mem_append, List.mem_flatMap, List.not_mem_nil,
    or_false] at hc
  rcases hc with rfl | ⟨d, -, hd⟩ | rfl
  · rfl
  · exact isControl_of_mem_escape c hd
  · rfl

-- The character that begins a colour, and the backslash by which it is written.
example : quote ['\x1b', '\\'] = "\"\\u\x7b1b\x7d\\\\\"".toList := by decide

end LiveRoom.Text
