import LiveRoom.Json.Basic
import LiveRoom.Json.Reader

/-!
# Formats: one description for writing and for reading

A `Format α` says both how an `α` is written as a JSON value and how it is read
from a text.  Formats are built from smaller ones, so the two directions of a
record cannot drift apart: `Fields` lists its keys once, in the order in which
they are written.

A record is read from an object or from a list.

* In an **object** the keys may come in any order.  A known key may come once;
  unknown keys are passed over with their values.
* In a **list** the values stand in the order of the fields.

A field that is not given takes its default where it has one and is a fault
otherwise.  Faults that concern the record as a whole, a missing or repeated key
or a list that is too short, are reported behind its closing bracket, or as near
to it as the text lets one come.
-/

namespace LiveRoom.Json

/-- **How the values of a type are written and read.** -/
structure Format (α : Type) where
  encode : α → Json
  reader : Reader α

namespace Format

def text : Format String := ⟨.string, .text⟩

def flag : Format Bool := ⟨.bool, .flag⟩

def int32 : Format Int32 := ⟨fun n => .whole n.toInt, .int32⟩

def optionalText : Format (Option String) := ⟨fun value => value.elim .null .string, .optionalText⟩

/-- A list of values of one kind. -/
def list {α : Type} (element : Format α) : Format (List α) :=
  ⟨fun values => .array (values.map element.encode), .list element.reader⟩

/-- One of several names. -/
def choice {α : Type} (name : α → String) (known : List α) : Format α :=
  ⟨fun value => .string (name value), .choice (known.map fun value => (name value, value))⟩

end Format

/-! ## Fields -/

/-- **The fields of a record**, in order.  `τ` is the type of their values and `σ`
the type of what is known of them while an object is being read. -/
inductive Fields : (σ τ : Type) → Type 1 where
  | nil : Fields Unit Unit
  | cons {σ τ α : Type} (key : String) (format : Format α) (default : Option α)
      (others : Fields σ τ) : Fields (Option α × σ) (α × τ)

namespace Fields

def count {σ τ : Type} : Fields σ τ → Nat
  | .nil => 0
  | .cons _ _ _ others => others.count + 1

/-- Nothing is known yet. -/
def unread {σ τ : Type} : Fields σ τ → σ
  | .nil => ()
  | .cons _ _ _ others => (none, others.unread)

/-- The members of a record. -/
def encode {σ τ : Type} : Fields σ τ → τ → List (String × Json)
  | .nil, () => []
  | .cons key format _ others, (value, values) => (key, format.encode value) :: others.encode values

/-- The values of a record once its object has ended. -/
def complete {σ τ : Type} : Fields σ τ → σ → Except Cause τ
  | .nil, () => .ok ()
  | .cons key _ default others, (known, knowns) =>
    match known <|> default with
    | none => .error (.missingField key)
    | some value =>
      match others.complete knowns with
      | .error cause => .error cause
      | .ok values => .ok (value, values)

/-- What follows an object at whose head something is wrong: its closing brace is
taken if it comes next. -/
def leaveObject (text : List Char) : List Char :=
  match skipBlank text with
  | '\x7d' :: rest => rest
  | rest => rest

/-- What follows a list at whose head something is wrong: its closing bracket is
taken if it comes next, or else a comma. -/
def leaveList (text : List Char) : List Char :=
  match skipBlank text with
  | ']' :: rest => rest
  | ',' :: rest => skipBlank rest
  | rest => rest

/-! ### Reading an object -/

/-- Reads the value of a member after its key, or `none` where the key is none of
the record's. -/
def member? {σ τ : Type} : Fields σ τ → (key : List Char) → σ → List Char → Option (Read σ)
  | .nil, _, _, _ => none
  | .cons own format _ others, key, (known, knowns), input =>
    if key = own.toList then
      match known with
      | some _ => some (.error (.at (.duplicateField own) (leaveObject input)))
      | none =>
        match colon input with
        | .error fault => some (.error fault)
        | .ok rest => some ((format.reader.read rest).map fun (value, rest) =>
            ((some value, knowns), rest))
    else
      (others.member? key knowns input).map fun read =>
        read.map fun (knowns, rest) => ((known, knowns), rest)

/-- An unknown member after its key. -/
def strange (text : List Char) : Except Fault (List Char) :=
  match colon text with
  | .error fault => .error fault
  | .ok rest => skip rest

/-- Reads a member after its key, whether or not the key is known. -/
def member {σ τ : Type} (fields : Fields σ τ) (key : List Char) (knowns : σ)
    (text : List Char) : Read σ :=
  match fields.member? key knowns text with
  | some read => read
  | none => (strange text).map fun rest => (knowns, rest)

/-- The opening quote of the key after a comma. -/
def keyAfterComma (text : List Char) : Except Fault (List Char) :=
  match skipBlank text with
  | [] => .error (.at .endInValue [])
  | c :: rest =>
    if c = '"' then .ok rest
    else if c = '\x7d' then .error (.after .trailingComma (c :: rest))
    else .error (.after .keyNotString (c :: rest))

/-- Where the next key starts, behind its opening quote, or `false` with what
follows the closing brace.  `first` says that no member has been read yet. -/
def nextKey (first : Bool) (text : List Char) : Read Bool :=
  match skipBlank text with
  | [] => .error (.at .endInObject [])
  | c :: rest =>
    if c = '\x7d' then .ok (false, rest)
    else if first then
      if c = '"' then .ok (true, rest) else .error (.after .keyNotString (c :: rest))
    else if c = ',' then (keyAfterComma rest).map fun rest => (true, rest)
    else .error (.after .expectedCommaOrBrace (c :: rest))

theorem length_lt_of_strange {text rest : List Char} (h : strange text = .ok rest) :
    rest.length < text.length := by
  unfold strange at h
  split at h
  · contradiction
  · rename_i hc
    exact Nat.lt_of_le_of_lt (length_le_of_skipFrom h) (length_lt_of_colon hc)

theorem length_lt_of_member? {σ τ : Type} {fields : Fields σ τ} {key text rest : List Char}
    {knowns result : σ} (h : fields.member? key knowns text = some (.ok (result, rest))) :
    rest.length < text.length := by
  induction fields with
  | nil => simp [member?] at h
  | cons own format default others ih =>
    unfold member? at h
    split at h
    · split at h
      · simp at h
      · split at h
        · simp at h
        · rename_i hc
          simp only [Option.some.injEq] at h
          obtain ⟨⟨v, r⟩, hr, hv⟩ := map_eq_ok_iff.1 h
          simp only [Prod.mk.injEq] at hv
          exact hv.2 ▸ Nat.lt_trans (format.reader.shorter hr) (length_lt_of_colon hc)
    · obtain ⟨read, hread, hmap⟩ := Option.map_eq_some_iff.1 h
      obtain ⟨⟨v, r⟩, hr, hv⟩ := map_eq_ok_iff.1 hmap
      obtain ⟨-, rfl⟩ := Prod.mk.injEq .. ▸ hv
      exact ih (hr ▸ hread)

theorem length_lt_of_member {σ τ : Type} {fields : Fields σ τ} {key text rest : List Char}
    {knowns result : σ} (h : fields.member key knowns text = .ok (result, rest)) :
    rest.length < text.length := by
  unfold member at h
  split at h
  · rename_i hm
    exact length_lt_of_member? (h ▸ hm)
  · obtain ⟨r, hr, hv⟩ := map_eq_ok_iff.1 h
    simp only [Prod.mk.injEq] at hv
    exact hv.2 ▸ length_lt_of_strange hr

theorem length_lt_of_keyAfterComma {text rest : List Char} (h : keyAfterComma text = .ok rest) :
    rest.length < text.length := by
  unfold keyAfterComma at h
  split at h
  · contradiction
  · rename_i hs
    split at h
    · simp only [Except.ok.injEq] at h
      exact h ▸ length_le_of_skipBlank_cons hs
    · split at h <;> contradiction

theorem length_lt_of_nextKey {first more : Bool} {text rest : List Char}
    (h : nextKey first text = .ok (more, rest)) : rest.length < text.length := by
  unfold nextKey at h
  split at h
  · contradiction
  · rename_i hs
    have hlt := length_le_of_skipBlank_cons hs
    split at h
    · simp only [Except.ok.injEq, Prod.mk.injEq] at h
      exact h.2 ▸ hlt
    · split at h
      · split at h
        · simp only [Except.ok.injEq, Prod.mk.injEq] at h
          exact h.2 ▸ hlt
        · contradiction
      · split at h
        · obtain ⟨r, hr, hv⟩ := map_eq_ok_iff.1 h
          simp only [Prod.mk.injEq] at hv
          exact hv.2 ▸ Nat.lt_trans (length_lt_of_keyAfterComma hr) hlt
        · contradiction

def members {σ τ : Type} (fields : Fields σ τ) (first : Bool) (knowns : σ)
    (text : List Char) : Read σ :=
  match hk : nextKey first text with
  | .error fault => .error fault
  | .ok (false, rest) => .ok (knowns, rest)
  | .ok (true, rest) =>
    match hs : readString rest with
    | .error fault => .error fault
    | .ok (key, rest) =>
      match hm : fields.member key knowns rest with
      | .error fault => .error fault
      | .ok (knowns, after) =>
        have := length_lt_of_nextKey hk
        have := length_lt_of_readString hs
        have := length_lt_of_member hm
        members fields false knowns after
termination_by text.length

theorem length_lt_of_members {σ τ : Type} {fields : Fields σ τ} {first : Bool}
    {knowns result : σ} {text rest : List Char}
    (h : members fields first knowns text = .ok (result, rest)) : rest.length < text.length := by
  fun_induction members fields first knowns text with
  | case1 => contradiction
  | case2 _ _ _ _ hk =>
    simp only [Except.ok.injEq, Prod.mk.injEq] at h
    exact h.2 ▸ length_lt_of_nextKey hk
  | case3 => contradiction
  | case4 => contradiction
  | case5 _ _ _ _ _ _ _ _ _ _ _ h1 h2 h3 ih =>
    have := ih h
    omega

/-! ### Reading a list -/

/-- The values of a record that is given as a list, from its field number `index`
on; what is left starts at or before the closing bracket.  `wanted` describes the
whole record. -/
def positions {σ τ : Type} (wanted : String) : Fields σ τ → (index : Nat) → List Char → Read τ
  | .nil, _, input => .ok ((), input)
  | .cons _ format default others, index, input =>
    match Reader.nextElement (index = 0) input with
    | .error fault => .error fault
    | .ok (true, rest) =>
      match format.reader.read rest with
      | .error fault => .error fault
      | .ok (value, rest) =>
        (positions wanted others (index + 1) rest).map fun (values, rest) =>
          ((value, values), rest)
    | .ok (false, rest) =>
      match default with
      | none => .error (.at (.wrongLength index wanted) (leaveList rest))
      | some value =>
        (positions wanted others (index + 1) rest).map fun (values, rest) =>
          ((value, values), rest)

/-- What follows the closing bracket of a list whose values have all been read. -/
def closeList (text : List Char) : Except Fault (List Char) :=
  match skipBlank text with
  | [] => .error (.at .endInList [])
  | ']' :: rest => .ok rest
  | ',' :: rest =>
    match skipBlank rest with
    | ']' :: rest => .error (.after .trailingComma (']' :: rest))
    | rest => .error (.after .trailingCharacters rest)
  | c :: rest => .error (.after .trailingCharacters (c :: rest))

theorem length_le_of_positions {σ τ : Type} {wanted : String} {fields : Fields σ τ}
    {index : Nat} {values : τ} {text rest : List Char}
    (h : positions wanted fields index text = .ok (values, rest)) :
    rest.length ≤ text.length := by
  induction fields generalizing index text with
  | nil =>
    simp only [positions, Except.ok.injEq, Prod.mk.injEq] at h
    simp [h.2]
  | cons own format default others ih =>
    unfold positions at h
    split at h
    · contradiction
    · rename_i hn
      split at h
      · contradiction
      · rename_i hr
        obtain ⟨⟨v, r⟩, hm, hv⟩ := map_eq_ok_iff.1 h
        obtain ⟨-, rfl⟩ := Prod.mk.injEq .. ▸ hv
        have h1 := ih hm
        have h2 := format.reader.shorter hr
        have h3 := Reader.length_le_of_nextElement hn
        omega
    · rename_i hn
      split at h
      · contradiction
      · obtain ⟨⟨v, r⟩, hm, hv⟩ := map_eq_ok_iff.1 h
        obtain ⟨-, rfl⟩ := Prod.mk.injEq .. ▸ hv
        exact Nat.le_trans (ih hm) (Reader.length_le_of_nextElement hn)

theorem length_lt_of_closeList {text rest : List Char} (h : closeList text = .ok rest) :
    rest.length < text.length := by
  unfold closeList at h
  split at h
  · contradiction
  · rename_i hs
    simp only [Except.ok.injEq] at h
    exact h ▸ length_le_of_skipBlank_cons hs
  · split at h <;> contradiction
  · contradiction

end Fields

/-! ## Records -/

/-- A number of elements, in words. -/
def elementCount (n : Nat) : String :=
  toString n ++ (if n = 1 then " element" else " elements")

/-- Reads the values of a record from an object or a list. -/
def Fields.read {σ τ : Type} (name : String) (fields : Fields σ τ) (text : List Char) : Read τ :=
  match skipBlank text with
  | '\x7b' :: rest =>
    match fields.members true fields.unread rest with
    | .error fault => .error fault
    | .ok (knowns, rest) =>
      match fields.complete knowns with
      | .error cause => .error (.at cause rest)
      | .ok values => .ok (values, rest)
  | '[' :: rest =>
    let wanted := "struct " ++ name ++ " with " ++ elementCount fields.count
    match fields.positions wanted 0 rest with
    | .error fault => .error fault
    | .ok (values, rest) => (closeList rest).map fun rest => (values, rest)
  | rest => .error (mismatch ("struct " ++ name) rest)

theorem Fields.length_lt_of_read {σ τ : Type} {name : String} {fields : Fields σ τ}
    {text rest : List Char} {values : τ} (h : fields.read name text = .ok (values, rest)) :
    rest.length < text.length := by
  unfold Fields.read at h
  split at h
  · rename_i hs
    split at h
    · contradiction
    · rename_i hm
      split at h
      · contradiction
      · simp only [Except.ok.injEq, Prod.mk.injEq] at h
        exact h.2 ▸ Nat.lt_trans (length_lt_of_members hm) (length_le_of_skipBlank_cons hs)
  · rename_i hs
    dsimp only at h
    split at h
    · contradiction
    · rename_i hp
      obtain ⟨r, hr, hv⟩ := map_eq_ok_iff.1 h
      simp only [Prod.mk.injEq] at hv
      have h1 := length_lt_of_closeList hr
      have h2 := length_le_of_positions hp
      have h3 := length_le_of_skipBlank_cons hs
      rw [← hv.2]
      omega
  · contradiction

/-- **A record** of a type `α` whose values are those of the fields. -/
def Format.record {σ τ α : Type} (name : String) (fields : Fields σ τ) (ofValues : τ → α)
    (toValues : α → τ) : Format α where
  encode value := .object (fields.encode (toValues value))
  reader :=
    { read := fun text => (fields.read name text).map fun (values, rest) =>
        (ofValues values, rest)
      shorter := by
        intro text value rest h
        obtain ⟨⟨v, r⟩, hr, hv⟩ := map_eq_ok_iff.1 h
        simp only [Prod.mk.injEq] at hv
        exact hv.2 ▸ Fields.length_lt_of_read hr }

namespace Format

/-- Reads a text that holds one value, with nothing but blanks around it. -/
def readWhole {α : Type} (format : Format α) (text : List Char) : Except Fault α :=
  match format.reader.read text with
  | .error fault => .error fault
  | .ok (value, rest) =>
    match skipBlank rest with
    | [] => .ok value
    | c :: rest => .error (.after .trailingCharacters (c :: rest))

/-- **Reads a value from its text.** -/
def parse {α : Type} (format : Format α) (text : String) : Except ParseError α :=
  match format.readWhole text.toList with
  | .ok value => .ok value
  | .error fault => .error (fault.report text.toList)

/-- **The text of a value**, one item to a line. -/
def body {α : Type} (format : Format α) (value : α) : String := (format.encode value).pretty

end Format

end LiveRoom.Json
