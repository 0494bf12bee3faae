import LiveRoom.Json.Skip

/-!
# Readers of wanted values

A `Reader α` takes a JSON value that spells an `α` off the head of a text.  That
it always takes at least one character is part of the type, so lists and records
can be read in loops that end.

Where a value of another kind stands, the fault names what was found
(`mismatch`).  A scalar is read first, so a malformed one is reported as such and
a well-formed one leaves the fault behind it; a list or object is not entered.
-/

namespace LiveRoom.Json

/-- **A reader** of the values of a type. -/
structure Reader (α : Type) where
  read : List Char → Read α
  shorter : ∀ {text : List Char} {value : α} {rest : List Char},
    read text = .ok (value, rest) → rest.length < text.length

/-- The fault of a text whose first value, if there is one, is not what is wanted. -/
def mismatch (wanted : String) : List Char → Fault
  | [] => .at .endInValue []
  | c :: text =>
    let after (found : Found) : Except Fault (List Char) → Fault
      | .ok rest => .at (.wrongType found wanted) rest
      | .error fault => fault
    if c = 'n' then after .null (literal ['u', 'l', 'l'] text)
    else if c = 't' then after (.flag true) (literal ['r', 'u', 'e'] text)
    else if c = 'f' then after (.flag false) (literal ['a', 'l', 's', 'e'] text)
    else if c = '"' then
      match readString text with
      | .ok (value, rest) => .at (.wrongType (.text value) wanted) rest
      | .error fault => fault
    else if c = '[' then .at (.wrongType .list wanted) (c :: text)
    else if c = '\x7b' then .at (.wrongType .object wanted) (c :: text)
    else if c = '-' || c.isDigit then
      match readNumber (c :: text) with
      | .ok (.whole n, rest) => .at (.wrongType (.whole n) wanted) rest
      | .ok (.real x, rest) => .at (.wrongType (.real x) wanted) rest
      | .error fault => fault
    else .after .expectedValue (c :: text)

namespace Reader

/-! ## Scalars -/

def readText (text : List Char) : Read String :=
  match skipBlank text with
  | '"' :: rest => (readString rest).map fun (value, rest) => (String.ofList value, rest)
  | rest => .error (mismatch "a string" rest)

def readFlag (text : List Char) : Read Bool :=
  match skipBlank text with
  | 't' :: rest => (literal ['r', 'u', 'e'] rest).map fun rest => (true, rest)
  | 'f' :: rest => (literal ['a', 'l', 's', 'e'] rest).map fun rest => (false, rest)
  | rest => .error (mismatch "a boolean" rest)

/-- An integer of 32 bits, or why the number is none. -/
def int32Of : Number → Except Cause Int32
  | .whole n =>
    if Int32.minValue.toInt ≤ n && n ≤ Int32.maxValue.toInt then .ok (Int32.ofInt n)
    else .error (.wrongValue (.whole n) "i32")
  | .real x => .error (.wrongType (.real x) "i32")

def readInt32 (text : List Char) : Read Int32 :=
  match skipBlank text with
  | [] => .error (mismatch "i32" [])
  | c :: rest =>
    if c = '-' || c.isDigit then
      match readNumber (c :: rest) with
      | .error fault => .error fault
      | .ok (value, rest) =>
        match int32Of value with
        | .ok n => .ok (n, rest)
        | .error cause => .error (.at cause rest)
    else .error (mismatch "i32" (c :: rest))

def readOptionalText (text : List Char) : Read (Option String) :=
  match skipBlank text with
  | 'n' :: rest => (literal ['u', 'l', 'l'] rest).map fun rest => (none, rest)
  | rest => (readText rest).map fun (value, rest) => (some value, rest)

theorem length_lt_of_readText {text rest : List Char} {value : String}
    (h : readText text = .ok (value, rest)) : rest.length < text.length := by
  unfold readText at h
  split at h
  · rename_i hs
    obtain ⟨⟨v, r⟩, hr, hv⟩ := map_eq_ok_iff.1 h
    simp only [Prod.mk.injEq] at hv
    have := length_le_of_skipBlank_cons hs
    have := length_lt_of_readString hr
    rw [← hv.2]
    omega
  · contradiction

/-- **A string.** -/
def text : Reader String := ⟨readText, length_lt_of_readText⟩

/-- **A truth value.** -/
def flag : Reader Bool where
  read := readFlag
  shorter := by
    intro text value rest h
    unfold readFlag at h
    split at h
    · rename_i hs
      obtain ⟨r, hr, hv⟩ := map_eq_ok_iff.1 h
      simp only [Prod.mk.injEq] at hv
      exact hv.2 ▸ Nat.lt_of_le_of_lt (length_le_of_literal hr) (length_le_of_skipBlank_cons hs)
    · rename_i hs
      obtain ⟨r, hr, hv⟩ := map_eq_ok_iff.1 h
      simp only [Prod.mk.injEq] at hv
      exact hv.2 ▸ Nat.lt_of_le_of_lt (length_le_of_literal hr) (length_le_of_skipBlank_cons hs)
    · contradiction

/-- **An integer of 32 bits.** -/
def int32 : Reader Int32 where
  read := readInt32
  shorter := by
    intro text value rest h
    unfold readInt32 at h
    split at h
    · contradiction
    · rename_i hs
      split at h
      · split at h
        · contradiction
        · rename_i hn
          split at h
          · simp only [Except.ok.injEq, Prod.mk.injEq] at h
            have := length_lt_of_readNumber hn
            have := length_skipBlank_le text
            rw [hs] at this
            rw [← h.2]
            omega
          · contradiction
      · contradiction

/-- **A string or `null`.** -/
def optionalText : Reader (Option String) where
  read := readOptionalText
  shorter := by
    intro text value rest h
    unfold readOptionalText at h
    split at h
    · rename_i hs
      obtain ⟨r, hr, hv⟩ := map_eq_ok_iff.1 h
      simp only [Prod.mk.injEq] at hv
      exact hv.2 ▸ Nat.lt_of_le_of_lt (length_le_of_literal hr) (length_le_of_skipBlank_cons hs)
    · obtain ⟨⟨v, r⟩, hr, hv⟩ := map_eq_ok_iff.1 h
      simp only [Prod.mk.injEq] at hv
      exact hv.2 ▸ Nat.lt_of_lt_of_le (length_lt_of_readText hr) (length_skipBlank_le text)

/-! ## Lists -/

/-- The element after a comma. -/
def elementAfterComma (text : List Char) : Except Fault (List Char) :=
  match skipBlank text with
  | [] => .error (.at .endInValue [])
  | c :: rest => if c = ']' then .error (.after .trailingComma (c :: rest)) else .ok (c :: rest)

/-- Whether another element follows, and where: at the element itself, or at the
closing bracket.  `first` says that no element has been read yet. -/
def nextElement (first : Bool) (text : List Char) : Read Bool :=
  match skipBlank text with
  | [] => .error (.at .endInList [])
  | c :: rest =>
    if c = ']' then .ok (false, c :: rest)
    else if first then .ok (true, c :: rest)
    else if c = ',' then (elementAfterComma rest).map fun rest => (true, rest)
    else .error (.after .expectedCommaOrBracket (c :: rest))

theorem length_le_of_elementAfterComma {text rest : List Char}
    (h : elementAfterComma text = .ok rest) : rest.length ≤ text.length := by
  have hle := length_skipBlank_le text
  unfold elementAfterComma at h
  split at h
  · contradiction
  · rename_i hs
    split at h
    · contradiction
    · simp only [Except.ok.injEq] at h
      exact h ▸ hs ▸ hle

theorem length_le_of_nextElement {first more : Bool} {text rest : List Char}
    (h : nextElement first text = .ok (more, rest)) : rest.length ≤ text.length := by
  have hle := length_skipBlank_le text
  unfold nextElement at h
  split at h
  · contradiction
  · rename_i hs
    rw [hs] at hle
    split at h
    · simp only [Except.ok.injEq, Prod.mk.injEq] at h
      exact h.2 ▸ hle
    · split at h
      · simp only [Except.ok.injEq, Prod.mk.injEq] at h
        exact h.2 ▸ hle
      · split at h
        · obtain ⟨r, hr, hv⟩ := map_eq_ok_iff.1 h
          simp only [Prod.mk.injEq] at hv
          have := length_le_of_elementAfterComma hr
          simp only [List.length_cons] at hle
          rw [← hv.2]
          omega
        · contradiction

/-- The elements of a list up to its closing bracket, and what follows that. -/
def elements {α : Type} (element : Reader α) (first : Bool) (text : List Char) :
    Read (List α) :=
  match hn : nextElement first text with
  | .error fault => .error fault
  | .ok (false, rest) => .ok ([], rest.drop 1)
  | .ok (true, rest) =>
    match hr : element.read rest with
    | .error fault => .error fault
    | .ok (value, after) =>
      have := length_le_of_nextElement hn
      have := element.shorter hr
      (elements element false after).map fun (values, rest) => (value :: values, rest)
termination_by text.length

theorem length_le_of_elements {α : Type} {element : Reader α} {first : Bool}
    {text rest : List Char} {values : List α}
    (h : elements element first text = .ok (values, rest)) : rest.length ≤ text.length := by
  fun_induction elements element first text generalizing values with
  | case1 => contradiction
  | case2 first text after hn =>
    simp only [Except.ok.injEq, Prod.mk.injEq] at h
    have := length_le_of_nextElement hn
    rw [← h.2, List.length_drop]
    omega
  | case3 => contradiction
  | case4 first text mid hn value after hr hle hlt ih =>
    obtain ⟨⟨vs, r⟩, hv, heq⟩ := map_eq_ok_iff.1 h
    simp only [Prod.mk.injEq] at heq
    have := ih (heq.2 ▸ hv)
    omega

/-- **A list** of values of one kind. -/
def list {α : Type} (element : Reader α) : Reader (List α) where
  read text :=
    match skipBlank text with
    | '[' :: rest => elements element true rest
    | rest => .error (mismatch "a sequence" rest)
  shorter := by
    intro text value rest h
    split at h
    · rename_i hs
      exact Nat.lt_of_le_of_lt (length_le_of_elements h) (length_le_of_skipBlank_cons hs)
    · contradiction

/-! ## Choices -/

/-- The value with a name, or the fault of a name that is not known. -/
def named {α : Type} (known : List (String × α)) (name : List Char) (rest : List Char) :
    Read α :=
  match known.find? fun entry => entry.1.toList = name with
  | some entry => .ok (entry.2, rest)
  | none => .error (.at (.unknownVariant name (known.map (·.1))) rest)

/-- A name as the only key of an object, whose value is `null`, after the opening
brace. -/
def namedByKey {α : Type} (known : List (String × α)) (text : List Char) : Read α :=
  match skipBlank text with
  | '"' :: rest =>
    match readString rest with
    | .error fault => .error fault
    | .ok (name, rest) =>
      match named known name rest with
      | .error fault => .error fault
      | .ok (value, rest) =>
        match colon rest with
        | .error fault => .error fault
        | .ok rest =>
          match skipBlank rest with
          | 'n' :: rest =>
            match literal ['u', 'l', 'l'] rest with
            | .error fault => .error fault
            | .ok rest =>
              match skipBlank rest with
              | [] => .error (.at .endInObject [])
              | '\x7d' :: rest => .ok (value, rest)
              | c :: rest => .error (.at .expectedValue (c :: rest))
          | rest => .error (mismatch "unit" rest)
  | rest => .error (mismatch "variant identifier" rest)

/-- Reads a name, alone or as the only key of an object. -/
def readChoice {α : Type} (known : List (String × α)) (text : List Char) : Read α :=
  match skipBlank text with
  | [] => .error (.at .endInValue [])
  | '"' :: rest =>
    match readString rest with
    | .error fault => .error fault
    | .ok (name, rest) => named known name rest
  | '\x7b' :: rest => namedByKey known rest
  | c :: rest => .error (.after .expectedValue (c :: rest))

theorem eq_of_named {α : Type} {known : List (String × α)} {name text rest : List Char}
    {value : α} (h : named known name text = .ok (value, rest)) : rest = text := by
  unfold named at h
  split at h
  · simp only [Except.ok.injEq, Prod.mk.injEq] at h
    exact h.2.symm
  · contradiction

theorem length_lt_of_namedByKey {α : Type} {known : List (String × α)}
    {text rest : List Char} {value : α} (h : namedByKey known text = .ok (value, rest)) :
    rest.length < text.length := by
  unfold namedByKey at h
  split at h
  · rename_i hs
    have h1 := length_le_of_skipBlank_cons hs
    split at h
    · contradiction
    · rename_i hstr
      have h2 := length_lt_of_readString hstr
      split at h
      · contradiction
      · rename_i hname
        have h3 := eq_of_named hname
        split at h
        · contradiction
        · rename_i hcolon
          have h4 := length_lt_of_colon hcolon
          split at h
          · rename_i hn
            have h5 := length_le_of_skipBlank_cons hn
            split at h
            · contradiction
            · rename_i hlit
              have h6 := length_le_of_literal hlit
              split at h
              · contradiction
              · rename_i hclose
                have h7 := length_le_of_skipBlank_cons hclose
                simp only [Except.ok.injEq, Prod.mk.injEq] at h
                rw [← h.2]
                subst h3
                omega
              · contradiction
          · contradiction
  · contradiction

/-- **One of several names**, alone as a string or as the only key of an object. -/
def choice {α : Type} (known : List (String × α)) : Reader α where
  read := readChoice known
  shorter := by
    intro text value rest h
    unfold readChoice at h
    split at h
    · contradiction
    · rename_i hs
      split at h
      · contradiction
      · rename_i hstr
        rw [eq_of_named h]
        exact Nat.lt_trans (length_lt_of_readString hstr) (length_le_of_skipBlank_cons hs)
    · rename_i hs
      exact Nat.lt_trans (length_lt_of_namedByKey h) (length_le_of_skipBlank_cons hs)
    · contradiction

end Reader

end LiveRoom.Json
