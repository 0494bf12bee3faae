import LiveRoom.Json.Number

/-!
# Passing over unwanted values

A member that nobody asked for may hold any JSON value.  `skip` passes over it
and checks only that it is well formed: it does not pair surrogates, does not
look at the size of numbers and has no limit on depth.  It keeps the containers
it is inside of on a list, so a deep value needs no deep recursion.

`skipFrom` is in one of two states.  Either a value is expected, or one has just
ended and the innermost container goes on or closes.
-/

namespace LiveRoom.Json

/-- A container whose end has not been seen yet. -/
inductive Container where
  | list
  | object

/-- The fault of a text that ends inside a container. -/
def Container.ended : Container → Cause
  | .list => .endInList
  | .object => .endInObject

/-- The fault of an item that no comma and no closing bracket follows. -/
def Container.unclosed : Container → Cause
  | .list => .expectedCommaOrBracket
  | .object => .expectedCommaOrBrace

/-- The container that a bracket opens. -/
def opened? (c : Char) : Option Container :=
  if c = '[' then some .list else if c = '\x7b' then some .object else none

def Container.closer : Container → Char
  | .list => ']'
  | .object => '\x7d'

/-- What follows a word, an unwanted number or an unwanted string. -/
def skipScalar : List Char → Except Fault (List Char)
  | [] => .error (.at .endInValue [])
  | c :: text =>
    if c = 'n' then literal ['u', 'l', 'l'] text
    else if c = 't' then literal ['r', 'u', 'e'] text
    else if c = 'f' then literal ['a', 'l', 's', 'e'] text
    else if c = '"' then skipString text
    else if c = '-' || c.isDigit then (Literal.scan .invalidNumber (c :: text)).map (·.2)
    else .error (.after .expectedValue (c :: text))

/-- The colon between a key and its value. -/
def colon (text : List Char) : Except Fault (List Char) :=
  match skipBlank text with
  | [] => .error (.at .endInObject [])
  | c :: rest => if c = ':' then .ok rest else .error (.after .expectedColon (c :: rest))

def skipKey (text : List Char) : Except Fault (List Char) :=
  match skipBlank text with
  | [] => .error (.at .endInObject [])
  | c :: rest =>
    if c = '"' then
      match skipString rest with
      | .error fault => .error fault
      | .ok rest => colon rest
    else .error (.after .keyNotString (c :: rest))

/-- What stands before a value inside a container: in an object its key. -/
def enter : Container → List Char → Except Fault (List Char)
  | .list, text => .ok text
  | .object, text => skipKey text

theorem length_lt_of_skipScalar {text rest : List Char} (h : skipScalar text = .ok rest) :
    rest.length < text.length := by
  unfold skipScalar at h
  split at h
  · contradiction
  · repeat' split at h
    · exact Nat.lt_succ_of_le (length_le_of_literal h)
    · exact Nat.lt_succ_of_le (length_le_of_literal h)
    · exact Nat.lt_succ_of_le (length_le_of_literal h)
    · exact Nat.lt_succ_of_lt (length_lt_of_skipString h)
    · obtain ⟨⟨l, r⟩, hr, rfl⟩ := map_eq_ok_iff.1 h
      exact Literal.length_lt_of_scan hr
    · contradiction

theorem length_lt_of_colon {text rest : List Char} (h : colon text = .ok rest) :
    rest.length < text.length := by
  unfold colon at h
  split at h
  · contradiction
  · rename_i hs
    split at h
    · simp only [Except.ok.injEq] at h
      exact h ▸ length_le_of_skipBlank_cons hs
    · contradiction

theorem length_lt_of_skipKey {text rest : List Char} (h : skipKey text = .ok rest) :
    rest.length < text.length := by
  unfold skipKey at h
  split at h
  · contradiction
  · rename_i hs
    split at h
    · split at h
      · contradiction
      · rename_i hk
        have := length_le_of_skipBlank_cons hs
        have := length_lt_of_skipString hk
        have := length_lt_of_colon h
        omega
    · contradiction

theorem length_le_of_enter {container : Container} {text rest : List Char}
    (h : enter container text = .ok rest) : rest.length ≤ text.length := by
  cases container with
  | list => simp only [enter, Except.ok.injEq] at h; simp [h]
  | object => exact Nat.le_of_lt (length_lt_of_skipKey h)

/-- **What follows a value** inside the given containers, the innermost first.  With
`expecting` the value is still to come, otherwise it has just ended. -/
def skipFrom (expecting : Bool) (inside : List Container) (text : List Char) :
    Except Fault (List Char) :=
  if expecting then
    match hs : skipBlank text with
    | [] => .error (.at .endInValue [])
    | c :: rest =>
      have := length_le_of_skipBlank_cons hs
      match opened? c with
      | none =>
        match hr : skipScalar (c :: rest) with
        | .error fault => .error fault
        | .ok after =>
          have := length_lt_of_skipScalar hr
          have : after.length < text.length := by simp only [List.length_cons] at this; omega
          skipFrom false inside after
      | some container =>
        match hi : skipBlank rest with
        | [] => .error (.at container.ended [])
        | d :: after =>
          have := length_le_of_skipBlank_cons hi
          if d = container.closer then skipFrom false inside after
          else
            match he : enter container (d :: after) with
            | .error fault => .error fault
            | .ok value =>
              have := length_le_of_enter he
              have : value.length < text.length := by simp only [List.length_cons] at this; omega
              skipFrom true (container :: inside) value
  else
    match inside with
    | [] => .ok text
    | container :: outside =>
      match hs : skipBlank text with
      | [] => .error (.at container.ended [])
      | c :: rest =>
        have := length_le_of_skipBlank_cons hs
        if c = ',' then
          match he : enter container rest with
          | .error fault => .error fault
          | .ok value =>
            have := length_le_of_enter he
            skipFrom true (container :: outside) value
        else if c = container.closer then skipFrom false outside rest
        else .error (.after container.unclosed (c :: rest))
termination_by text.length

/-- **What follows an unwanted value.** -/
def skip (text : List Char) : Except Fault (List Char) := skipFrom true [] text

theorem length_le_of_skipFrom {expecting : Bool} {inside : List Container}
    {text rest : List Char} (h : skipFrom expecting inside text = .ok rest) :
    rest.length ≤ text.length := by
  fun_induction skipFrom expecting inside text with
  | case1 => contradiction
  | case2 => contradiction
  | case3 _ _ _ _ _ _ _ _ _ _ hlt ih => exact Nat.le_trans (ih h) (Nat.le_of_lt hlt)
  | case4 => contradiction
  | case5 _ _ _ _ _ hlt _ _ _ _ hlt' ih =>
    exact Nat.le_trans (ih h) (Nat.le_of_lt (Nat.lt_trans hlt' hlt))
  | case6 => contradiction
  | case7 _ _ _ _ _ _ _ _ _ _ _ _ _ _ _ _ hlt ih =>
    exact Nat.le_trans (ih h) (Nat.le_of_lt hlt)
  | case8 =>
    simp only [Except.ok.injEq] at h
    simp [h]
  | case9 => contradiction
  | case10 => contradiction
  | case11 _ _ _ _ _ _ _ _ hle _ hlt ih =>
    exact Nat.le_trans (ih h) (Nat.le_trans hle (Nat.le_of_lt hlt))
  | case12 _ _ _ _ _ _ _ hlt _ ih => exact Nat.le_trans (ih h) (Nat.le_of_lt hlt)
  | case13 => contradiction

end LiveRoom.Json
