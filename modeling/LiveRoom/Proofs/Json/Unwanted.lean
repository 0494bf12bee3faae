import LiveRoom.Proofs.Json.Escapes
import LiveRoom.Proofs.Json.Separators

/-!
# Unwanted values

An unwanted value is passed over exactly if it is the text of some value, as deep as it
may be nested and as large as its numbers may be (`Json.exists_of_skip`,
`Json.skip_spells`).

`skipFrom` keeps the open containers on a list.  So a run of it falls into parts: from
where a value is expected to where that value has ended (`Json.PassesValue`), and from
there to where the innermost container is closed (`Json.PassesFurther`).  Both are found by
one induction on the length of the text, since the value of a container is the inside of
it.  The way back is an induction on the length of the value (`Json.PassesBelow`), and
inside it one over the entries of a container.
-/

namespace LiveRoom.Json

variable {text rest : List Char}

/-! ## Scalars -/

/-- **A scalar that is passed over** is the text of a value. -/
theorem exists_of_skipScalar (h : skipScalar text = .ok rest) :
    ∃ body term, text = body ++ rest ∧ Spells body term := by
  unfold skipScalar at h
  split at h
  · cases h
  · rename_i c text
    split at h
    · rename_i hc
      rw [hc, eq_append_of_literal h]
      exact ⟨_, _, rfl, .null⟩
    split at h
    · rename_i hc
      rw [hc, eq_append_of_literal h]
      exact ⟨_, _, rfl, .flag true⟩
    split at h
    · rename_i hc
      rw [hc, eq_append_of_literal h]
      exact ⟨_, _, rfl, .flag false⟩
    split at h
    · rename_i hc
      obtain ⟨raw, rfl⟩ := exists_raw_of_skipString h
      exact ⟨raw.quoted, _, by rw [hc, raw.quoted_append], .string raw⟩
    split at h
    · obtain ⟨⟨literal, after⟩, hscan, rfl⟩ := map_eq_ok_iff.mp h
      obtain ⟨body, htext, hnumber⟩ := Literal.exists_of_scan hscan
      exact ⟨body, _, htext, .number hnumber⟩
    · cases h

/-- A number starts like none of the other values. -/
theorem skipScalar_number {body : List Char} {literal : Literal} (h : SpellsNumber body literal)
    (hrest : Stops rest) : skipScalar (body ++ rest) = .ok rest := by
  have hscan : Literal.scan .invalidNumber (body ++ rest) = .ok (literal, rest) :=
    Literal.scan_number h hrest
  obtain ⟨c, behind, rfl, hc⟩ := h.exists_cons
  have hne : ∀ d, (d = '-' || d.isDigit) = false → c ≠ d := fun _ => ne_of_starts_number hc
  rw [List.cons_append, skipScalar, if_neg (hne 'n' rfl), if_neg (hne 't' rfl),
    if_neg (hne 'f' rfl), if_neg (hne '"' rfl), if_pos hc, ← List.cons_append, hscan]
  rfl

theorem skipScalar_quoted (raw : RawString) (rest : List Char) :
    skipScalar (raw.quoted ++ rest) = .ok rest := by
  rw [raw.quoted_append]
  exact skipString_raw raw rest

/-! ## Containers -/

namespace Container

/-- The opening bracket of a container. -/
def opener : Container → Char
  | .list => '['
  | .object => '\x7b'

/-- What a container holds. -/
def Entry : Container → Type
  | .list => Term
  | .object => RawString × Term

/-- The text of one thing that a container holds. -/
def spells : (container : Container) → List Char → container.Entry → Prop
  | .list => Spells
  | .object => Member Spells

/-- The value that a container is. -/
def term : (container : Container) → List container.Entry → Term
  | .list => .list
  | .object => .object

theorem opened?_eq_some_iff {c : Char} {container : Container} :
    opened? c = some container ↔ c = container.opener := by
  unfold opened?
  cases container with
  | list =>
    by_cases hlist : c = '['
    · simp [hlist, opener]
    · by_cases hobject : c = '\x7b' <;> simp [hlist, hobject, opener]
  | object =>
    by_cases hlist : c = '['
    · simp [hlist, opener]
    · by_cases hobject : c = '\x7b' <;> simp [hlist, hobject, opener]

theorem isBlank_opener (container : Container) : isBlank container.opener = false := by
  cases container <;> rfl

theorem isBlank_closer (container : Container) : isBlank container.closer = false := by
  cases container <;> rfl

theorem closer_ne_comma (container : Container) : ',' ≠ container.closer := by
  cases container <;> decide

theorem stops_closer (container : Container) (rest : List Char) :
    Stops (container.closer :: rest) := by
  apply stops_cons
  cases container <;> decide

/-- The inside of a container between its brackets is a value. -/
theorem spells_term {container : Container} {inner : List Char} {entries : List container.Entry}
    (h : Items container.spells true inner entries) :
    Spells (container.opener :: (inner ++ [container.closer])) (container.term entries) := by
  cases container with
  | list => exact .list h
  | object => exact .object h

/-- An entry starts with no blank and does not close its container. -/
theorem exists_cons_of_spells {container : Container} {body : List Char}
    {entry : container.Entry} (h : container.spells body entry) :
    ∃ c behind, body = c :: behind ∧ isBlank c = false ∧ c ≠ container.closer := by
  cases container with
  | list =>
    obtain ⟨c, behind, htext, hblank, hlist, -⟩ := Spells.exists_cons h
    exact ⟨c, behind, htext, hblank, hlist⟩
  | object =>
    obtain ⟨hbefore, hafter, hvalue⟩ := h
    exact ⟨'"', _, rfl, by decide, by decide⟩

end Container

variable {container : Container}

/-- A key that is passed over stands behind blanks, and a colon behind it. -/
theorem exists_of_skipKey (h : skipKey text = .ok rest) :
    ∃ before between, ∃ key : RawString, Blanks before ∧ Blanks between ∧
      text = before ++ (key.quoted ++ (between ++ ':' :: rest)) := by
  unfold skipKey at h
  split at h
  · cases h
  · rename_i c after hskip
    split at h
    · rename_i hc
      subst hc
      split at h
      · cases h
      · rename_i behind hkey
        obtain ⟨key, rfl⟩ := exists_raw_of_skipString hkey
        obtain ⟨between, hbetween, rfl⟩ := exists_of_colon h
        obtain ⟨before, hbefore, rfl⟩ := exists_blanks_of_skipBlank_eq hskip
        exact ⟨before, between, key, hbefore, hbetween, by rw [key.quoted_append]⟩
    · cases h

/-- **An entry is entered**: behind what stands before its value comes the value. -/
theorem exists_entry_of_enter {before body after : List Char} {term : Term}
    (h : enter container text = .ok (before ++ (body ++ after))) (hbefore : Blanks before)
    (hbody : Spells body term) :
    ∃ before' body' entry, Blanks before' ∧ text = before' ++ (body' ++ after) ∧
      container.spells body' entry := by
  cases container with
  | list => exact ⟨before, body, term, hbefore, Except.ok.inj h, hbody⟩
  | object =>
    obtain ⟨first, between, key, hfirst, hbetween, rfl⟩ := exists_of_skipKey h
    refine ⟨first, _, (key, term), hfirst, ?_, .mk hbetween hbefore hbody⟩
    simp only [List.append_assoc, List.cons_append]

/-- An entry that is written can be entered. -/
theorem exists_enter_of_entry {before body : List Char} {entry : container.Entry}
    (hbefore : Blanks before) (h : container.spells body entry) (rest : List Char) :
    ∃ before' body' term, enter container (before ++ (body ++ rest)) =
        .ok (before' ++ (body' ++ rest)) ∧ Blanks before' ∧ Spells body' term ∧
      body'.length ≤ body.length := by
  cases container with
  | list => exact ⟨before, body, entry, rfl, hbefore, h, Nat.le_refl _⟩
  | object =>
    obtain @⟨key, between, after, value, term, hbetween, hafter, hvalue⟩ := h
    refine ⟨after, value, term, ?_, hafter, hvalue, ?_⟩
    · have hkey := skipBlank_quoted hbefore key (between ++ ':' :: (after ++ (value ++ rest)))
      simp only [List.append_assoc, List.cons_append, enter, skipKey, hkey, if_true,
        skipString_raw, colon_blanks hbetween]
    · simp only [List.length_append, List.length_cons]
      omega

/-! ## One step -/

section Steps
variable {inside outside : List Container} {before between behind after value : List Char}
  {c : Char}

/-- **Where a value is expected**, either a whole value is passed over or a container is
entered. -/
theorem cases_of_skipFrom_value (h : skipFrom true inside text = .ok rest) :
    (∃ before body term after, Blanks before ∧ text = before ++ (body ++ after) ∧
      Spells body term ∧ skipFrom false inside after = .ok rest) ∨
    (∃ container before between first value, Blanks before ∧ Blanks between ∧
      text = before ++ Container.opener container :: (between ++ first) ∧
      enter container first = .ok value ∧
      skipFrom true (container :: inside) value = .ok rest) := by
  rw [skipFrom.eq_def, if_pos rfl] at h
  split at h
  · cases h
  · rename_i c behind hskip
    obtain ⟨before, hbefore, rfl⟩ := exists_blanks_of_skipBlank_eq hskip
    split at h
    · split at h
      · cases h
      · rename_i after hscalar
        obtain ⟨body, term, htext, hbody⟩ := exists_of_skipScalar hscalar
        exact .inl ⟨before, body, term, after, hbefore, by rw [htext], hbody, h⟩
    · rename_i container hopened
      obtain rfl := Container.opened?_eq_some_iff.mp hopened
      split at h
      · cases h
      · rename_i d after hinner
        obtain ⟨between, hbetween, rfl⟩ := exists_blanks_of_skipBlank_eq hinner
        split at h
        · rename_i hclose
          subst hclose
          have hinside : Items container.spells true between [] := .none hbetween
          refine .inl ⟨before, _, _, after, hbefore, ?_, Container.spells_term hinside, h⟩
          simp only [List.cons_append, List.append_assoc, List.nil_append]
        · split at h
          · cases h
          · rename_i value henter
            exact .inr ⟨container, before, between, _, value, hbefore, hbetween, rfl, henter, h⟩

/-- **Where a value has ended**, its container goes on or closes. -/
theorem cases_of_skipFrom_further (h : skipFrom false (container :: outside) text = .ok rest) :
    ∃ before, Blanks before ∧
      ((∃ behind value, text = before ++ ',' :: behind ∧ enter container behind = .ok value ∧
        skipFrom true (container :: outside) value = .ok rest) ∨
      (∃ after, text = before ++ container.closer :: after ∧
        skipFrom false outside after = .ok rest)) := by
  rw [skipFrom.eq_def, if_neg Bool.false_ne_true] at h
  dsimp only at h
  split at h
  · cases h
  · rename_i c behind hskip
    obtain ⟨before, hbefore, rfl⟩ := exists_blanks_of_skipBlank_eq hskip
    refine ⟨before, hbefore, ?_⟩
    split at h
    · rename_i hcomma
      subst hcomma
      split at h
      · cases h
      · rename_i value henter
        exact .inl ⟨behind, value, rfl, henter, h⟩
    · split at h
      · rename_i hclose
        subst hclose
        exact .inr ⟨behind, rfl, h⟩
      · cases h

/-- Outside of all containers nothing else is looked at. -/
theorem skipFrom_outside (text : List Char) : skipFrom false [] text = .ok text := by
  rw [skipFrom.eq_def, if_neg Bool.false_ne_true]

theorem skipFrom_scalar (hbefore : Blanks before) (hc : isBlank c = false)
    (hopened : opened? c = none) (h : skipScalar (c :: behind) = .ok after) :
    skipFrom true inside (before ++ c :: behind) = skipFrom false inside after := by
  have hskip := skipBlank_blanks hbefore hc behind
  rw [skipFrom.eq_def, if_pos rfl]
  split
  · rename_i heq
    rw [hskip] at heq
    cases heq
  · rename_i heq
    rw [hskip] at heq
    cases heq
    rw [hopened]
    dsimp only
    split
    · rename_i hfault
      rw [h] at hfault
      cases hfault
    · rename_i hvalue
      rw [h] at hvalue
      cases hvalue
      rfl

theorem skipFrom_empty (hbefore : Blanks before) (hbetween : Blanks between) :
    skipFrom true inside
      (before ++ container.opener :: (between ++ container.closer :: rest)) =
        skipFrom false inside rest := by
  have hskip := skipBlank_blanks hbefore container.isBlank_opener
    (between ++ container.closer :: rest)
  have hinner := skipBlank_blanks hbetween container.isBlank_closer rest
  rw [skipFrom.eq_def, if_pos rfl]
  split
  · rename_i heq
    rw [hskip] at heq
    cases heq
  · rename_i heq
    rw [hskip] at heq
    cases heq
    rw [Container.opened?_eq_some_iff.mpr rfl]
    dsimp only
    split
    · rename_i heq
      rw [hinner] at heq
      cases heq
    · rename_i heq
      rw [hinner] at heq
      cases heq
      rw [if_pos rfl]

theorem skipFrom_open (hbefore : Blanks before) (hinner : skipBlank behind = c :: after)
    (hc : c ≠ container.closer) (h : enter container (c :: after) = .ok value) :
    skipFrom true inside (before ++ container.opener :: behind) =
      skipFrom true (container :: inside) value := by
  have hskip := skipBlank_blanks hbefore container.isBlank_opener behind
  generalize hresult : skipFrom true (container :: inside) value = result
  rw [skipFrom.eq_def, if_pos rfl]
  split
  · rename_i heq
    rw [hskip] at heq
    cases heq
  · rename_i heq
    rw [hskip] at heq
    cases heq
    rw [Container.opened?_eq_some_iff.mpr rfl]
    dsimp only
    split
    · rename_i heq
      rw [hinner] at heq
      cases heq
    · rename_i heq
      rw [hinner] at heq
      cases heq
      rw [if_neg hc]
      split
      · rename_i hfault
        rw [h] at hfault
        cases hfault
      · rename_i hvalue
        rw [h] at hvalue
        cases hvalue
        exact hresult

theorem skipFrom_comma (hbefore : Blanks before) (h : enter container behind = .ok value) :
    skipFrom false (container :: outside) (before ++ ',' :: behind) =
      skipFrom true (container :: outside) value := by
  have hskip := skipBlank_blanks hbefore (show isBlank ',' = false by decide) behind
  generalize hresult : skipFrom true (container :: outside) value = result
  rw [skipFrom.eq_def, if_neg Bool.false_ne_true]
  dsimp only
  split
  · rename_i heq
    rw [hskip] at heq
    cases heq
  · rename_i heq
    rw [hskip] at heq
    cases heq
    rw [if_pos rfl]
    split
    · rename_i hfault
      rw [h] at hfault
      cases hfault
    · rename_i hvalue
      rw [h] at hvalue
      cases hvalue
      exact hresult

theorem skipFrom_close (hbefore : Blanks before) :
    skipFrom false (container :: outside) (before ++ container.closer :: rest) =
      skipFrom false outside rest := by
  have hskip := skipBlank_blanks hbefore container.isBlank_closer rest
  rw [skipFrom.eq_def, if_neg Bool.false_ne_true]
  dsimp only
  split
  · rename_i heq
    rw [hskip] at heq
    cases heq
  · rename_i heq
    rw [hskip] at heq
    cases heq
    rw [if_neg (Ne.symm container.closer_ne_comma), if_pos rfl]

end Steps

/-! ## What is passed over is a value -/

/-- A run that starts where a value is expected passes over a value first. -/
def PassesValue (text : List Char) : Prop :=
  ∀ inside rest, skipFrom true inside text = .ok rest →
    ∃ before body term after, Blanks before ∧ text = before ++ (body ++ after) ∧
      Spells body term ∧ skipFrom false inside after = .ok rest

/-- A run that starts inside a container passes over the rest of it first. -/
def PassesFurther (text : List Char) : Prop :=
  ∀ container outside rest, skipFrom false (container :: outside) text = .ok rest →
    ∃ others entries after, text = others ++ Container.closer container :: after ∧
      Items container.spells false others entries ∧ skipFrom false outside after = .ok rest

section Passes
variable (ih : ∀ other : List Char, other.length < text.length →
  PassesValue other ∧ PassesFurther other)
include ih

/-- The first of the entries that are still to come, and those behind it. -/
theorem exists_of_enter {first value : List Char} {outside : List Container}
    (hlength : first.length < text.length) (henter : enter container first = .ok value)
    (h : skipFrom true (container :: outside) value = .ok rest) :
    ∃ before body entry others entries after, Blanks before ∧ container.spells body entry ∧
      Items container.spells false others entries ∧
      first = before ++ (body ++ (others ++ container.closer :: after)) ∧
      skipFrom false outside after = .ok rest := by
  have hvalue : value.length < text.length :=
    Nat.lt_of_le_of_lt (length_le_of_enter henter) hlength
  obtain ⟨before, body, term, behind, hbefore, rfl, hbody, hbehind⟩ :=
    (ih value hvalue).1 _ _ h
  have hlt : behind.length < text.length := by
    refine Nat.lt_of_le_of_lt ?_ hvalue
    simp only [List.length_append]
    omega
  obtain ⟨others, entries, after, rfl, hothers, hrest⟩ := (ih behind hlt).2 _ _ _ hbehind
  obtain ⟨before', body', entry, hbefore', rfl, hentry⟩ :=
    exists_entry_of_enter henter hbefore hbody
  exact ⟨before', body', entry, others, entries, after, hbefore', hentry, hothers, rfl, hrest⟩

theorem passesValue_of : PassesValue text := by
  intro inside rest h
  rcases cases_of_skipFrom_value h with hwhole | ⟨container, before, between, first, value,
    hbefore, hbetween, rfl, henter, hvalue⟩
  · exact hwhole
  · have hlength : first.length <
        (before ++ container.opener :: (between ++ first)).length := by
      simp only [List.length_append, List.length_cons]
      omega
    obtain ⟨between', body, entry, others, entries, after, hbetween', hentry, hothers, rfl,
      hrest⟩ := exists_of_enter ih hlength henter hvalue
    have hinside : Items container.spells true ((between ++ between') ++ (body ++ others))
        (entry :: entries) := .item (.blanks (hbetween.append hbetween')) hentry hothers
    refine ⟨before, _, _, after, hbefore, ?_, Container.spells_term hinside, hrest⟩
    simp only [List.append_assoc, List.cons_append, List.nil_append]

theorem passesFurther_of : PassesFurther text := by
  intro container outside rest h
  obtain ⟨before, hbefore, ⟨behind, value, rfl, henter, hvalue⟩ | ⟨after, rfl, hrest⟩⟩ :=
    cases_of_skipFrom_further h
  · have hlength : behind.length < (before ++ ',' :: behind).length := by
      simp only [List.length_append, List.length_cons]
      omega
    obtain ⟨between, body, entry, others, entries, after, hbetween, hentry, hothers, rfl,
      hrest⟩ := exists_of_enter ih hlength henter hvalue
    refine ⟨_, _, after, ?_, .item (.comma hbefore hbetween) hentry hothers, hrest⟩
    simp only [List.append_assoc, List.cons_append]
  · exact ⟨before, [], after, rfl, .none hbefore, hrest⟩

end Passes

/-- Every run falls into these parts. -/
theorem passes (text : List Char) : PassesValue text ∧ PassesFurther text := by
  induction hlength : text.length using Nat.strongRecOn generalizing text with
  | ind n ih =>
    have hshorter : ∀ other : List Char, other.length < text.length →
        PassesValue other ∧ PassesFurther other := by
      intro other hlt
      exact ih other.length (hlength ▸ hlt) other rfl
    exact ⟨passesValue_of hshorter, passesFurther_of hshorter⟩

/-- **What is passed over is the text of a value**, with blanks in front. -/
theorem exists_of_skip (h : skip text = .ok rest) :
    ∃ before body term, Blanks before ∧ text = before ++ (body ++ rest) ∧ Spells body term := by
  obtain ⟨before, body, term, after, hbefore, rfl, hbody, hrest⟩ := (passes text).1 [] rest h
  rw [skipFrom_outside] at hrest
  obtain rfl := Except.ok.inj hrest
  exact ⟨before, body, term, hbefore, rfl, hbody⟩

/-! ## Every value is passed over -/

/-- The texts of values below this length are passed over. -/
def PassesBelow (n : Nat) : Prop :=
  ∀ body term, body.length < n → Spells body term → ∀ before inside rest, Blanks before →
    Stops rest → skipFrom true inside (before ++ (body ++ rest)) = skipFrom false inside rest

section Below
variable {n : Nat} (hbelow : PassesBelow n) {outside : List Container}
include hbelow

theorem skipFrom_further {others : List Char} {entries : List container.Entry}
    (h : Items container.spells false others entries) (hlength : others.length ≤ n)
    (rest : List Char) :
    skipFrom false (container :: outside) (others ++ container.closer :: rest) =
      skipFrom false outside rest := by
  induction entries generalizing others with
  | nil =>
    obtain ⟨hblanks⟩ := h
    exact skipFrom_close hblanks
  | cons entry entries ih =>
    obtain _ | @⟨_, _, body, others, _, _, hseparator, hentry, hothers⟩ := h
    obtain _ | @⟨before, after, hbefore, hafter⟩ := hseparator
    simp only [List.length_append, List.length_cons] at hlength
    obtain ⟨after', body', term, henter, hafter', hbody', hle⟩ :=
      exists_enter_of_entry hafter hentry (others ++ container.closer :: rest)
    have hstops : Stops (others ++ container.closer :: rest) :=
      hothers.stops (container.stops_closer rest)
    simp only [List.append_assoc, List.cons_append]
    rw [skipFrom_comma hbefore henter,
      hbelow body' term (by omega) hbody' after' _ _ hafter' hstops]
    exact ih hothers (by omega)

theorem skipFrom_container (container : Container) {inner before : List Char}
    {entries : List container.Entry}
    (h : Items container.spells true inner entries) (hlength : inner.length < n)
    (hbefore : Blanks before) (rest : List Char) :
    skipFrom true outside
      (before ++ ((container.opener :: (inner ++ [container.closer])) ++ rest)) =
        skipFrom false outside rest := by
  cases h with
  | none hblanks =>
    simp only [List.append_assoc, List.cons_append, List.nil_append]
    exact skipFrom_empty hbefore hblanks
  | @item _ between body others entry entries hseparator hentry hothers =>
    obtain ⟨hbetween⟩ := hseparator
    simp only [List.length_append] at hlength
    obtain ⟨after, body', term, henter, hafter, hbody', hle⟩ :=
      exists_enter_of_entry blanks_nil hentry (others ++ container.closer :: rest)
    obtain ⟨c, behind, rfl, hblank, hclose⟩ := Container.exists_cons_of_spells hentry
    have hstops : Stops (others ++ container.closer :: rest) :=
      hothers.stops (container.stops_closer rest)
    simp only [List.append_assoc, List.cons_append, List.nil_append] at henter ⊢
    rw [skipFrom_open hbefore (skipBlank_blanks hbetween hblank _) hclose henter,
      hbelow body' term (by omega) hbody' after _ _ hafter hstops]
    exact skipFrom_further hbelow hothers (by omega) rest

end Below

theorem skipFrom_of_skipScalar {before body : List Char} {term : Term}
    {inside : List Container} (hbefore : Blanks before) (hbody : Spells body term)
    (hopened : ∀ c ∈ body.head?, opened? c = none) (h : skipScalar (body ++ rest) = .ok rest) :
    skipFrom true inside (before ++ (body ++ rest)) = skipFrom false inside rest := by
  obtain ⟨c, behind, rfl, hblank, -, -⟩ := hbody.exists_cons
  exact skipFrom_scalar hbefore hblank (hopened c rfl) h

theorem passesBelow (n : Nat) : PassesBelow n := by
  induction n with
  | zero =>
    intro body term hlength
    exact absurd hlength (Nat.not_lt_zero _)
  | succ n ih =>
    intro body term hlength hbody before inside rest hbefore hrest
    have hscalar : (∀ c ∈ body.head?, opened? c = none) →
        skipScalar (body ++ rest) = .ok rest →
          skipFrom true inside (before ++ (body ++ rest)) = skipFrom false inside rest :=
      skipFrom_of_skipScalar hbefore hbody
    cases hbody with
    | null =>
      refine hscalar ?_ (literal_append _ rest)
      rintro _ ⟨⟩
      rfl
    | flag value =>
      cases value with
      | true =>
        refine hscalar ?_ (literal_append _ rest)
        rintro _ ⟨⟩
        rfl
      | false =>
        refine hscalar ?_ (literal_append _ rest)
        rintro _ ⟨⟩
        rfl
    | string raw =>
      refine hscalar ?_ (skipScalar_quoted raw rest)
      rintro _ ⟨⟩
      rfl
    | number h =>
      refine hscalar ?_ (skipScalar_number h hrest)
      obtain ⟨c, behind, rfl, hc⟩ := h.exists_cons
      rintro _ ⟨⟩
      unfold opened?
      rw [if_neg, if_neg]
      · rintro rfl
        cases hc
      · rintro rfl
        cases hc
    | list h =>
      simp only [List.length_cons, List.length_append] at hlength
      exact skipFrom_container ih .list h (by omega) hbefore rest
    | object h =>
      simp only [List.length_cons, List.length_append] at hlength
      exact skipFrom_container ih .object h (by omega) hbefore rest

/-- **The text of any value is passed over**, whatever it is and however deep. -/
theorem skip_spells {before body : List Char} {term : Term} (hbefore : Blanks before)
    (h : Spells body term) (hrest : Stops rest) : skip (before ++ (body ++ rest)) = .ok rest := by
  have hskip := passesBelow (body.length + 1) body term (Nat.lt_succ_self _) h before [] rest
    hbefore hrest
  exact hskip.trans (skipFrom_outside rest)

end LiveRoom.Json
