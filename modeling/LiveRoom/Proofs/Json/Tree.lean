import LiveRoom.Proofs.Json.Layout
import LiveRoom.Proofs.Json.Strings

/-!
# Reading any value

The formats of the program read what they want and pass over the rest.  `Json.decode?`
wants everything: it reads a text as a whole value, with all its elements and members in
their order.  It is the reader against which a text can be judged that the program writes.

Like other readers of whole values it follows containers into containers only so far
(`Json.deepest`).

A value that is not too deep is read back from its pretty form (`Json.decode?_pretty`).
The reader of a deeper level is made from that of the level below, so the proof is an
induction on the depth; the elements of an array and the members of an object are a second
induction inside it.  Numbers are left out, since nothing that the program sends holds one.
-/

namespace LiveRoom.Json

/-! ## The reader -/

namespace Reader

/-- Reads a value that holds no other values. -/
def readScalar : List Char → Read Json
  | [] => .error (.at .endInValue [])
  | c :: text =>
    if c = 'n' then (literal ['u', 'l', 'l'] text).map fun rest => (.null, rest)
    else if c = 't' then (literal ['r', 'u', 'e'] text).map fun rest => (.bool true, rest)
    else if c = 'f' then (literal ['a', 'l', 's', 'e'] text).map fun rest => (.bool false, rest)
    else if c = '"' then
      (readString text).map fun (value, rest) => (.string (String.ofList value), rest)
    else if c = '-' || c.isDigit then
      (Literal.scan .invalidNumber (c :: text)).map fun (_, rest) =>
        (.number (String.ofList ((c :: text).take ((c :: text).length - rest.length))), rest)
    else .error (.after .expectedValue (c :: text))

theorem length_lt_of_readScalar {text rest : List Char} {value : Json}
    (h : readScalar text = .ok (value, rest)) : rest.length < text.length := by
  unfold readScalar at h
  split at h
  · contradiction
  · repeat' split at h
    · obtain ⟨after, hafter, heq⟩ := map_eq_ok_iff.mp h
      cases heq
      exact Nat.lt_succ_of_le (length_le_of_literal hafter)
    · obtain ⟨after, hafter, heq⟩ := map_eq_ok_iff.mp h
      cases heq
      exact Nat.lt_succ_of_le (length_le_of_literal hafter)
    · obtain ⟨after, hafter, heq⟩ := map_eq_ok_iff.mp h
      cases heq
      exact Nat.lt_succ_of_le (length_le_of_literal hafter)
    · obtain ⟨⟨string, after⟩, hafter, heq⟩ := map_eq_ok_iff.mp h
      cases heq
      exact Nat.lt_succ_of_lt (length_lt_of_readString hafter)
    · obtain ⟨⟨number, after⟩, hafter, heq⟩ := map_eq_ok_iff.mp h
      cases heq
      exact Literal.length_lt_of_scan hafter
    · contradiction

/-- The members of an object up to its closing brace, and what follows that. -/
def entries {α : Type} (value : Reader α) (first : Bool) (text : List Char) :
    Read (List (String × α)) :=
  match hnext : Fields.nextKey first text with
  | .error fault => .error fault
  | .ok (false, rest) => .ok ([], rest)
  | .ok (true, rest) =>
    match hkey : readString rest with
    | .error fault => .error fault
    | .ok (key, behindKey) =>
      match hcolon : colon behindKey with
      | .error fault => .error fault
      | .ok behindColon =>
        match hvalue : value.read behindColon with
        | .error fault => .error fault
        | .ok (member, after) =>
          have : after.length < text.length := by
            have := Fields.length_lt_of_nextKey hnext
            have := length_lt_of_readString hkey
            have := length_lt_of_colon hcolon
            have := value.shorter hvalue
            omega
          (entries value false after).map fun (others, rest) =>
            ((String.ofList key, member) :: others, rest)
termination_by text.length

theorem length_lt_of_entries {α : Type} {value : Reader α} {first : Bool}
    {text rest : List Char} {members : List (String × α)}
    (h : entries value first text = .ok (members, rest)) : rest.length < text.length := by
  fun_induction entries value first text generalizing members with
  | case1 => contradiction
  | case2 first text after hnext =>
    cases h
    exact Fields.length_lt_of_nextKey hnext
  | case3 => contradiction
  | case4 => contradiction
  | case5 => contradiction
  | case6 _ _ _ _ _ _ _ _ _ _ _ _ hlt ih =>
    obtain ⟨⟨others, last⟩, hothers, heq⟩ := map_eq_ok_iff.mp h
    cases heq
    exact Nat.lt_trans (ih hothers) hlt

/-- **Any value** that is nested at most so deep. -/
def tree : (depth : Nat) → Reader Json
  | 0 => ⟨fun text => readScalar (skipBlank text), fun h =>
      Nat.lt_of_lt_of_le (length_lt_of_readScalar h) (length_skipBlank_le _)⟩
  | depth + 1 =>
    { read := fun text =>
        match skipBlank text with
        | '[' :: rest => (elements (tree depth) true rest).map fun (items, rest) =>
            (.array items, rest)
        | '\x7b' :: rest => (entries (tree depth) true rest).map fun (members, rest) =>
            (.object members, rest)
        | rest => readScalar rest
      shorter := by
        intro text value rest h
        have hle := length_skipBlank_le text
        split at h
        · rename_i hskip
          obtain ⟨⟨items, after⟩, hafter, heq⟩ := map_eq_ok_iff.mp h
          cases heq
          exact Nat.lt_of_le_of_lt (length_le_of_elements hafter)
            (length_le_of_skipBlank_cons hskip)
        · rename_i hskip
          obtain ⟨⟨members, after⟩, hafter, heq⟩ := map_eq_ok_iff.mp h
          cases heq
          exact Nat.lt_trans (length_lt_of_entries hafter) (length_le_of_skipBlank_cons hskip)
        · exact Nat.lt_of_lt_of_le (length_lt_of_readScalar h) hle }

end Reader

/-- How deep a value may be nested. -/
def deepest : Nat := 127

/-- **The value of a text**, if the text is one value with nothing but blanks around it. -/
def decode? (text : String) : Option Json :=
  match (Reader.tree deepest).read text.toList with
  | .ok (value, rest) => if skipBlank rest = [] then some value else none
  | .error _ => none

/-! ## What the reader does -/

namespace Reader

section Entries
variable {α : Type} {value : Reader α} {first : Bool} {text rest : List Char}

theorem entries_of_close (h : Fields.nextKey first text = .ok (false, rest)) :
    entries value first text = .ok ([], rest) := by
  rw [entries]
  split
  · rename_i hnext
    rw [h] at hnext
    cases hnext
  · rename_i hnext
    rw [h] at hnext
    cases hnext
    rfl
  · rename_i hnext
    rw [h] at hnext
    cases hnext

/-- An object that has one more member, whose key was written. -/
theorem entries_of_more {key behindColon after : List Char} {member : α}
    (h : Fields.nextKey first text = .ok (true, key.flatMap escape ++ '"' :: ':' :: behindColon))
    (hmember : value.read behindColon = .ok (member, after)) :
    entries value first text = (entries value false after).map fun (others, rest) =>
      ((String.ofList key, member) :: others, rest) := by
  rw [entries]
  split
  · rename_i hnext
    rw [h] at hnext
    cases hnext
  · rename_i hnext
    rw [h] at hnext
    cases hnext
  · rename_i hnext
    rw [h] at hnext
    cases hnext
    split
    · rename_i hkey
      rw [readString_quoted] at hkey
      cases hkey
    · rename_i hkey
      rw [readString_quoted] at hkey
      cases hkey
      split
      · rename_i hcolon
        rw [colon_cons] at hcolon
        cases hcolon
      · rename_i hcolon
        rw [colon_cons] at hcolon
        cases hcolon
        split
        · rename_i hread
          rw [hmember] at hread
          cases hread
        · rename_i hread
          rw [hmember] at hread
          cases hread
          rfl

end Entries

/-- Blanks in front of a value do not matter. -/
theorem tree_read_congr {depth : Nat} {text other : List Char}
    (h : skipBlank text = skipBlank other) : (tree depth).read text = (tree depth).read other := by
  cases depth <;> simp only [tree, h]

/-- A value that is no container is read as it is at every depth. -/
theorem tree_read_scalar {depth : Nat} {c : Char} {text : List Char} (hblank : isBlank c = false)
    (hlist : c ≠ '[') (hobject : c ≠ '\x7b') :
    (tree depth).read (c :: text) = readScalar (c :: text) := by
  cases depth with
  | zero => simp only [tree, skipBlank_cons hblank]
  | succ depth =>
    simp only [tree, skipBlank_cons hblank]
    split
    · rename_i heq
      exact absurd (List.cons.inj heq).1 hlist
    · rename_i heq
      exact absurd (List.cons.inj heq).1 hobject
    · rfl

theorem tree_read_list (depth : Nat) (text : List Char) :
    (tree (depth + 1)).read ('[' :: text) =
      (elements (tree depth) true text).map fun (items, rest) => (.array items, rest) := by
  simp only [tree, skipBlank_cons (show isBlank '[' = false by decide)]

theorem tree_read_object (depth : Nat) (text : List Char) :
    (tree (depth + 1)).read ('\x7b' :: text) =
      (entries (tree depth) true text).map fun (members, rest) => (.object members, rest) := by
  simp only [tree, skipBlank_cons (show isBlank '\x7b' = false by decide)]

end Reader

/-! ## Reading what was written -/

/-- **A value that can be read back**: it is nested at most so deep, and holds no number. -/
def Fits : (depth : Nat) → Json → Prop
  | _, .null | _, .bool _ | _, .string _ => True
  | _, .number _ | 0, .array _ | 0, .object _ => False
  | depth + 1, .array items => ∀ item ∈ items, Fits depth item
  | depth + 1, .object members => ∀ member ∈ members, Fits depth member.2

/-- A value begins with no blank and with no closing bracket. -/
theorem exists_prettyAt_eq_cons {depth : Nat} {value : Json} (h : Fits depth value)
    (indent : Nat) : ∃ c text, prettyAt indent value = c :: text ∧ isBlank c = false ∧ c ≠ ']' := by
  cases value with
  | null => exact ⟨'n', _, rfl, by decide, by decide⟩
  | bool flag => cases flag <;> exact ⟨_, _, rfl, by decide, by decide⟩
  | number literal => cases depth <;> exact absurd h id
  | string text => exact ⟨'"', _, rfl, by decide, by decide⟩
  | array items => cases items <;> exact ⟨'[', _, rfl, by decide, by decide⟩
  | object members => cases members <;> exact ⟨'\x7b', _, rfl, by decide, by decide⟩

namespace Reader

section Containers
variable {depth : Nat}
  (hread : ∀ value, Fits depth value → ∀ indent rest,
    (tree depth).read (prettyAt indent value ++ rest) = .ok (value, rest))
include hread

/-- The value of a member is read with the blank that stands behind the colon. -/
theorem tree_read_blank_prettyAt {value : Json} (h : Fits depth value) (indent : Nat)
    (rest : List Char) : (tree depth).read (' ' :: (prettyAt indent value ++ rest)) =
      .ok (value, rest) := by
  have hblank : ∀ c ∈ [' '], isBlank c := by
    intro c hc
    rw [List.mem_singleton.mp hc]
    rfl
  rw [← hread value h indent rest]
  exact tree_read_congr (skipBlank_append hblank _)

theorem elements_prettyItems {items : List Json} (h : ∀ item ∈ items, Fits depth item)
    (indent outer : Nat) (rest : List Char) :
    elements (tree depth) false (prettyItems indent items ++ (newline outer ++ ']' :: rest)) =
      .ok (items, rest) := by
  induction items with
  | nil =>
    have hnext := nextElement_close false (skipBlank_newline outer (']' :: rest))
    exact elements_of_close hnext
  | cons item items ih =>
    -- The item begins with no bracket, so the list does not end before it.
    have hitem : Fits depth item := h item List.mem_cons_self
    obtain ⟨c, text, hpretty, hblank, hc⟩ := exists_prettyAt_eq_cons hitem indent
    have hnext : nextElement false
        (prettyItems indent (item :: items) ++ (newline outer ++ ']' :: rest)) =
          .ok (true, prettyAt indent item ++
            (prettyItems indent items ++ (newline outer ++ ']' :: rest))) := by
      simp only [prettyItems, hpretty, List.cons_append, List.append_assoc]
      apply nextElement_comma _ hc
      rw [skipBlank_newline, skipBlank_cons hblank]
    rw [elements_of_more hnext (hread item hitem indent _),
      ih fun item hmem => h item (List.mem_cons_of_mem _ hmem)]
    rfl

theorem entries_prettyMembers {members : List (String × Json)}
    (h : ∀ member ∈ members, Fits depth member.2) (indent outer : Nat) (rest : List Char) :
    entries (tree depth) false
      (prettyMembers indent members ++ (newline outer ++ '\x7d' :: rest)) =
        .ok (members, rest) := by
  induction members with
  | nil =>
    apply entries_of_close
    apply Fields.nextKey_close
    exact skipBlank_newline outer _
  | cons member members ih =>
    obtain ⟨key, value⟩ := member
    have hvalue : Fits depth value := h (key, value) List.mem_cons_self
    have hnext : Fields.nextKey false
        (prettyMembers indent ((key, value) :: members) ++ (newline outer ++ '\x7d' :: rest)) =
          .ok (true, key.toList.flatMap escape ++ '"' :: ':' :: ' ' :: (prettyAt indent value ++
            (prettyMembers indent members ++ (newline outer ++ '\x7d' :: rest)))) := by
      simp only [prettyMembers, prettyMember, quote, List.cons_append, List.append_assoc,
        List.nil_append]
      apply Fields.nextKey_comma
      rw [skipBlank_newline, skipBlank_cons (by decide)]
    rw [entries_of_more hnext (tree_read_blank_prettyAt hread hvalue indent _),
      ih fun member hmem => h member (List.mem_cons_of_mem _ hmem), String.ofList_toList]
    rfl

theorem tree_read_array {items : List Json} (h : ∀ item ∈ items, Fits depth item)
    (indent : Nat) (rest : List Char) :
    (tree (depth + 1)).read (prettyAt indent (.array items) ++ rest) =
      .ok (.array items, rest) := by
  cases items with
  | nil =>
    show (tree (depth + 1)).read ('[' :: ']' :: rest) = _
    have hclose := nextElement_close true (skipBlank_cons (by decide) rest)
    rw [tree_read_list, elements_of_close hclose]
    rfl
  | cons item items =>
    have hitem : Fits depth item := h item List.mem_cons_self
    obtain ⟨c, text, hpretty, hblank, hc⟩ := exists_prettyAt_eq_cons hitem (indent + 1)
    have hnext : nextElement true (newline (indent + 1) ++ (prettyAt (indent + 1) item ++
        (prettyItems (indent + 1) items ++ (newline indent ++ ']' :: rest)))) =
          .ok (true, prettyAt (indent + 1) item ++
            (prettyItems (indent + 1) items ++ (newline indent ++ ']' :: rest))) := by
      rw [hpretty, List.cons_append]
      apply nextElement_first _ hc
      rw [skipBlank_newline, skipBlank_cons hblank]
    simp only [prettyAt, List.cons_append, List.append_assoc, List.nil_append]
    rw [tree_read_list, elements_of_more hnext (hread item hitem (indent + 1) _),
      elements_prettyItems hread fun item hmem => h item (List.mem_cons_of_mem _ hmem)]
    rfl

theorem tree_read_members {members : List (String × Json)}
    (h : ∀ member ∈ members, Fits depth member.2) (indent : Nat) (rest : List Char) :
    (tree (depth + 1)).read (prettyAt indent (.object members) ++ rest) =
      .ok (.object members, rest) := by
  cases members with
  | nil =>
    show (tree (depth + 1)).read ('\x7b' :: '\x7d' :: rest) = _
    have hclose := Fields.nextKey_close true (skipBlank_cons (by decide) rest)
    rw [tree_read_object, entries_of_close hclose]
    rfl
  | cons member members =>
    obtain ⟨key, value⟩ := member
    have hvalue : Fits depth value := h (key, value) List.mem_cons_self
    have hnext : Fields.nextKey true (newline (indent + 1) ++ '"' :: (key.toList.flatMap escape ++
        '"' :: ':' :: ' ' :: (prettyAt (indent + 1) value ++
          (prettyMembers (indent + 1) members ++ (newline indent ++ '\x7d' :: rest))))) =
        .ok (true, key.toList.flatMap escape ++ '"' :: ':' :: ' ' ::
          (prettyAt (indent + 1) value ++
            (prettyMembers (indent + 1) members ++ (newline indent ++ '\x7d' :: rest)))) := by
      apply Fields.nextKey_first
      rw [skipBlank_newline, skipBlank_cons (by decide)]
    simp only [prettyAt, prettyMember, quote, List.cons_append, List.append_assoc,
      List.nil_append]
    rw [tree_read_object, entries_of_more hnext
        (tree_read_blank_prettyAt hread hvalue (indent + 1) _),
      entries_prettyMembers hread fun member hmem => h member (List.mem_cons_of_mem _ hmem),
      String.ofList_toList]
    rfl

end Containers

/-- A value that holds no others is read back at every depth. -/
theorem tree_read_leaf {value : Json} (depth : Nat) (indent : Nat) (rest : List Char)
    (h : Fits 0 value) : (tree depth).read (prettyAt indent value ++ rest) = .ok (value, rest) := by
  cases value with
  | null => exact tree_read_scalar (by decide) (by decide) (by decide)
  | bool flag =>
    cases flag with
    | true => exact tree_read_scalar (by decide) (by decide) (by decide)
    | false => exact tree_read_scalar (by decide) (by decide) (by decide)
  | number literal => exact absurd h id
  | string text =>
    have hquote : prettyAt indent (.string text) ++ rest =
        '"' :: (text.toList.flatMap escape ++ '"' :: rest) := by
      simp [prettyAt, quote]
    rw [hquote, tree_read_scalar (by decide) (by decide) (by decide)]
    show (readString _).map _ = _
    rw [readString_quoted]
    simp [Except.map]
  | array items => exact absurd h id
  | object members => exact absurd h id

/-- **What was written is read back**, whatever follows it. -/
theorem tree_read_prettyAt {depth : Nat} {value : Json} (h : Fits depth value) (indent : Nat)
    (rest : List Char) : (tree depth).read (prettyAt indent value ++ rest) = .ok (value, rest) := by
  induction depth generalizing value indent rest with
  | zero => exact tree_read_leaf 0 indent rest h
  | succ depth ih =>
    -- What a container holds is read by the reader of the level below.
    have hread := fun value (h : Fits depth value) indent rest => ih h indent rest
    cases value with
    | null => exact tree_read_leaf _ indent rest trivial
    | bool flag => exact tree_read_leaf _ indent rest trivial
    | number literal => exact absurd h id
    | string text => exact tree_read_leaf _ indent rest trivial
    | array items => exact tree_read_array hread h indent rest
    | object members => exact tree_read_members hread h indent rest

end Reader

/-- **A value is read back from its pretty form.** -/
theorem decode?_pretty {value : Json} (h : Fits deepest value) :
    decode? value.pretty = some value := by
  have hread := Reader.tree_read_prettyAt h 0 []
  rw [List.append_nil] at hread
  rw [decode?, pretty, String.toList_ofList, hread]
  rfl

end LiveRoom.Json
