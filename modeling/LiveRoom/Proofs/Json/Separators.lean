import LiveRoom.Proofs.Json.Numbers

/-!
# Between the items

What stands between the items of a container is found by the readers of lists and of
objects alike: an item behind its separator, or the closing bracket behind blanks.  Each of
their steps is taken in both directions here, from what was read to what the text is and
back.
-/

namespace LiveRoom.Json

variable {text rest before behind : List Char} {c : Char} {first : Bool}

/-! ## Separators -/

theorem Separator.append_blanks {separator after : List Char} (h : Separator first separator)
    (hafter : Blanks after) : Separator first (separator ++ after) := by
  cases h with
  | blanks hbefore => exact .blanks (hbefore.append hafter)
  | comma hbefore hbehind =>
    rw [List.append_assoc, List.cons_append]
    exact .comma hbefore (hbehind.append hafter)

/-- Where a closing bracket stands, there are no more items, and it is the one that closes
them. -/
theorem Items.of_closed {α : Type} {spells : List Char → α → Prop} {others : List Char}
    {items : List α} (h : Items spells false others items) (hc : isBlank c = false)
    (hcomma : c ≠ ',') (htext : c :: behind = others ++ c :: rest) :
    items = [] ∧ behind = rest := by
  have hne : ∀ {before : List Char}, Blanks before → ∀ b ∈ before.head?, c ≠ b := by
    rintro before hbefore b hb rfl
    rw [hbefore c (List.mem_of_mem_head? hb)] at hc
    cases hc
  cases h with
  | none hblanks =>
    cases others with
    | nil => exact ⟨rfl, (List.cons.inj htext).2⟩
    | cons b others => exact absurd (List.cons.inj htext).1 (hne hblanks b rfl)
  | item hseparator _ _ =>
    obtain _ | @⟨before, after, hbefore, _⟩ := hseparator
    cases before with
    | nil => exact absurd (List.cons.inj htext).1 hcomma
    | cons b before => exact absurd (List.cons.inj htext).1 (hne hbefore b rfl)

theorem Items.stops {α : Type} {spells : List Char → α → Prop} {others : List Char}
    {items : List α} (h : Items spells false others items) (hrest : Stops rest) :
    Stops (others ++ rest) := by
  cases h with
  | none hblanks => exact hblanks.stops_append hrest
  | item hseparator _ _ =>
    obtain ⟨⟩ | ⟨hblanks, _⟩ := hseparator
    rw [List.append_assoc, List.append_assoc]
    exact hblanks.stops_append (stops_cons (by decide))

/-! ## Colons -/

theorem exists_of_colon (h : colon text = .ok rest) :
    ∃ before, Blanks before ∧ text = before ++ ':' :: rest := by
  unfold colon at h
  split at h
  · cases h
  · rename_i c after hskip
    split at h
    · rename_i hc
      subst hc
      obtain rfl := Except.ok.inj h
      exact exists_blanks_of_skipBlank_eq hskip
    · cases h

theorem colon_blanks (h : Blanks before) (rest : List Char) :
    colon (before ++ ':' :: rest) = .ok rest := by
  rw [colon, skipBlank_blanks h (by decide)]
  rfl

/-! ## Elements -/

namespace Reader

/-- Another element follows its separator. -/
theorem exists_of_nextElement_true (h : nextElement first text = .ok (true, rest)) :
    ∃ separator, Separator first separator ∧ text = separator ++ rest := by
  unfold nextElement at h
  split at h
  · cases h
  · rename_i c behind hskip
    obtain ⟨before, hbefore, rfl⟩ := exists_blanks_of_skipBlank_eq hskip
    split at h
    · cases h
    · cases first with
      | true =>
        obtain ⟨-, rfl⟩ := Prod.mk.inj (Except.ok.inj h)
        exact ⟨before, .blanks hbefore, rfl⟩
      | false =>
        rw [if_neg Bool.false_ne_true] at h
        split at h
        · rename_i hcomma
          subst hcomma
          obtain ⟨after, hafter, heq⟩ := map_eq_ok_iff.mp h
          obtain ⟨-, rfl⟩ := Prod.mk.inj heq
          unfold elementAfterComma at hafter
          split at hafter
          · cases hafter
          · rename_i d last hskip'
            split at hafter
            · cases hafter
            · obtain rfl := Except.ok.inj hafter
              obtain ⟨between, hbetween, rfl⟩ := exists_blanks_of_skipBlank_eq hskip'
              refine ⟨_, .comma hbefore hbetween, ?_⟩
              rw [List.append_assoc, List.cons_append]
        · cases h

/-- A list ends at its closing bracket. -/
theorem exists_of_nextElement_false (h : nextElement first text = .ok (false, rest)) :
    ∃ before behind, Blanks before ∧ rest = ']' :: behind ∧ text = before ++ ']' :: behind := by
  unfold nextElement at h
  split at h
  · cases h
  · rename_i c behind hskip
    split at h
    · rename_i hclose
      subst hclose
      obtain ⟨before, hbefore, rfl⟩ := exists_blanks_of_skipBlank_eq hskip
      obtain ⟨-, rfl⟩ := Prod.mk.inj (Except.ok.inj h)
      exact ⟨before, behind, hbefore, rfl, rfl⟩
    · split at h
      · cases h
      · split at h
        · obtain ⟨_, _, heq⟩ := map_eq_ok_iff.mp h
          cases heq
        · cases h

theorem nextElement_separator {separator : List Char} (h : Separator first separator)
    (hblank : isBlank c = false) (hclose : c ≠ ']') (behind : List Char) :
    nextElement first (separator ++ c :: behind) = .ok (true, c :: behind) := by
  cases h with
  | blanks hbefore => exact nextElement_first (skipBlank_blanks hbefore hblank behind) hclose
  | comma hbefore hafter =>
    have hcomma := skipBlank_blanks hbefore (show isBlank ',' = false by decide)
    have helement := skipBlank_blanks hafter hblank behind
    simp [nextElement, hcomma, elementAfterComma, helement, hclose, Except.map]

theorem nextElement_blanks (h : Blanks before) (rest : List Char) :
    nextElement first (before ++ ']' :: rest) = .ok (false, ']' :: rest) :=
  nextElement_close first (skipBlank_blanks h (by decide) rest)

end Reader

/-! ## Keys -/

namespace Fields

/-- Another key follows its separator. -/
theorem exists_of_nextKey_true (h : nextKey first text = .ok (true, rest)) :
    ∃ separator, Separator first separator ∧ text = separator ++ '"' :: rest := by
  unfold nextKey at h
  split at h
  · cases h
  · rename_i c behind hskip
    obtain ⟨before, hbefore, rfl⟩ := exists_blanks_of_skipBlank_eq hskip
    split at h
    · cases h
    · cases first with
      | true =>
        rw [if_pos rfl] at h
        split at h
        · rename_i hquote
          subst hquote
          obtain ⟨-, rfl⟩ := Prod.mk.inj (Except.ok.inj h)
          exact ⟨before, .blanks hbefore, rfl⟩
        · cases h
      | false =>
        rw [if_neg Bool.false_ne_true] at h
        split at h
        · rename_i hcomma
          subst hcomma
          obtain ⟨after, hafter, heq⟩ := map_eq_ok_iff.mp h
          obtain ⟨-, rfl⟩ := Prod.mk.inj heq
          unfold keyAfterComma at hafter
          split at hafter
          · cases hafter
          · rename_i d last hskip'
            split at hafter
            · rename_i hquote
              subst hquote
              obtain rfl := Except.ok.inj hafter
              obtain ⟨between, hbetween, rfl⟩ := exists_blanks_of_skipBlank_eq hskip'
              refine ⟨_, .comma hbefore hbetween, ?_⟩
              rw [List.append_assoc, List.cons_append]
            · split at hafter <;> cases hafter
        · cases h

/-- An object ends at its closing brace. -/
theorem exists_of_nextKey_false (h : nextKey first text = .ok (false, rest)) :
    ∃ before, Blanks before ∧ text = before ++ '\x7d' :: rest := by
  unfold nextKey at h
  split at h
  · cases h
  · rename_i c behind hskip
    split at h
    · rename_i hclose
      subst hclose
      obtain ⟨-, rfl⟩ := Prod.mk.inj (Except.ok.inj h)
      exact exists_blanks_of_skipBlank_eq hskip
    · split at h
      · split at h <;> cases h
      · split at h
        · obtain ⟨_, _, heq⟩ := map_eq_ok_iff.mp h
          cases heq
        · cases h

theorem nextKey_separator {separator : List Char} (h : Separator first separator)
    (rest : List Char) : nextKey first (separator ++ '"' :: rest) = .ok (true, rest) := by
  cases h with
  | blanks hbefore => exact nextKey_first (skipBlank_blanks hbefore (by decide) rest)
  | comma hbefore hafter =>
    have hcomma := skipBlank_blanks hbefore (show isBlank ',' = false by decide)
    have hkey := skipBlank_blanks hafter (show isBlank '"' = false by decide) rest
    simp [nextKey, hcomma, keyAfterComma, hkey, Except.map]

theorem nextKey_blanks (h : Blanks before) (rest : List Char) :
    nextKey first (before ++ '\x7d' :: rest) = .ok (false, rest) :=
  nextKey_close first (skipBlank_blanks h (by decide) rest)

end Fields

end LiveRoom.Json
