import LiveRoom.Proofs.Text.Blank
import LiveRoom.Proofs.Url.Authority

/-!
# A path behind an address

An address with a path behind it is read as one text, and need not be read as that address
with that path.  The blanks behind the address are dropped where it is read alone, and stand
inside the text where a path follows; slashes behind the address may belong to the ones
before the host.

Yet where the text is read at all, it leads to the place that the address alone names
(`Url.samePlace_of_joined`): the same scheme, host and port.  There is one exception.  Where
nothing but slashes follows the scheme, the address is none, and the path begins with the
host (`Url.joined_of_slashes`).
-/

namespace LiveRoom.Url

/-! ## Schemes -/

section Schemes
variable {url : Url} {scheme text : List Char}

theorem exists_of_bind {ε α β : Type} {x : Except ε α} {f : α → Except ε β} {b : β}
    (h : x >>= f = .ok b) : ∃ a, x = .ok a ∧ f a = .ok b := by
  cases x with
  | error error => cases h
  | ok a => exact ⟨a, rfl, h⟩

theorem scheme_withSegments (url : Url) (parts : List (List Char)) :
    (url.withSegments parts).scheme = url.scheme := by
  unfold withSegments
  split
  · split <;> rfl
  · rfl

theorem scheme_withPath (url : Url) (done : List (List Char)) (text : List Char) :
    (url.withPath done text).scheme = url.scheme := scheme_withSegments _ _

theorem scheme_withHostPath (url : Url) (text : List Char) :
    (url.withHostPath text).scheme = url.scheme := by
  unfold withHostPath
  dsimp only
  split
  · split
    · exact scheme_withPath _ _ _
    · rfl
  · split
    · exact scheme_withPath _ _ _
    · split
      · rfl
      · exact scheme_withPath _ _ _

theorem scheme_of_afterSlashes (h : afterSlashes scheme text = .ok url) : url.scheme = scheme := by
  unfold afterSlashes at h
  dsimp only at h
  -- With a user or without, with either kind of host, and with a port or without.
  split at h
  all_goals
    split at h
    · cases h
    · split at h
      · cases h
      · split at h
        all_goals
          obtain ⟨host, -, h⟩ := exists_of_bind h
          split at h
          all_goals
            obtain ⟨span, -, h⟩ := exists_of_bind h
            obtain rfl := Except.ok.inj h
            exact scheme_withHostPath _ _

theorem scheme_of_fileUrl (h : fileUrl text = .ok url) : url.scheme = fileScheme := by
  unfold fileUrl at h
  dsimp only at h
  split at h
  · split at h
    · split at h
      · obtain rfl := Except.ok.inj h
        exact scheme_withPath _ _ _
      · split at h
        · obtain rfl := Except.ok.inj h
          exact scheme_withPath _ _ _
        · obtain ⟨host, -, h⟩ := exists_of_bind h
          split at h
          · obtain rfl := Except.ok.inj h
            exact scheme_withPath _ _ _
          · obtain rfl := Except.ok.inj h
            exact scheme_withHostPath _ _
    · obtain rfl := Except.ok.inj h
      exact scheme_withPath _ _ _
  · obtain rfl := Except.ok.inj h
    exact scheme_withPath _ _ _

/-- **A URL has the scheme that stands in front of it.** -/
theorem scheme_of_afterScheme (h : afterScheme none scheme text = .ok url) :
    url.scheme = scheme := by
  unfold afterScheme at h
  dsimp only at h
  split at h
  · rename_i hfile
    rw [scheme_of_fileUrl h, hfile]
  · split at h
    · exact scheme_of_afterSlashes h
    · split at h
      · exact scheme_of_afterSlashes h
      · obtain rfl := Except.ok.inj h
        exact scheme_withPath _ _ _
      · obtain rfl := Except.ok.inj h
        rfl

end Schemes

/-! ## Places -/

/-- **Two URLs of one place**: the same scheme, host and port. -/
structure SamePlace (url other : Url) : Prop where
  scheme : url.scheme = other.scheme
  host : url.host = other.host
  port : url.port = other.port

section Places
variable {url other : Url} {scheme front rest : List Char}

theorem SamePlace.symm (h : url.SamePlace other) : other.SamePlace url :=
  ⟨h.scheme.symm, h.host.symm, h.port.symm⟩

theorem SamePlace.trans {third : Url} (h : url.SamePlace other) (h' : other.SamePlace third) :
    url.SamePlace third :=
  ⟨h.scheme.trans h'.scheme, h.host.trans h'.host, h.port.trans h'.port⟩

/-- **A path leaves the place of a URL alone**, other than that of a file. -/
theorem samePlace_withHostPath (hfile : url.scheme ≠ fileScheme) (text : List Char) :
    (url.withHostPath text).SamePlace url := by
  have hpath : ∀ done text, (url.withPath done text).SamePlace url := by
    intro done text
    rw [withPath, withSegments, if_neg hfile]
    exact ⟨rfl, rfl, rfl⟩
  unfold withHostPath
  dsimp only
  split
  · split
    · exact hpath _ _
    · exact ⟨rfl, rfl, rfl⟩
  · split
    · exact hpath _ _
    · split
      · exact ⟨rfl, rfl, rfl⟩
      · exact hpath _ _

/-- **Texts with one host's part lead to one place**, whatever follows it. -/
theorem samePlace_of_afterSlashes (hspecial : isSpecial scheme = true)
    (hfile : scheme ≠ fileScheme) (hfront : IsFront front) {behind : List Char}
    (hrest : IsRest rest) (hbehind : IsRest behind)
    (h : afterSlashes scheme (front ++ rest) = .ok url) :
    ∃ own, afterSlashes scheme (front ++ behind) = .ok own ∧ own.SamePlace url := by
  have hscheme := scheme_of_afterSlashes h
  rw [afterSlashes_append hspecial hfront hrest] at h
  rw [afterSlashes_append hspecial hfront hbehind]
  cases hauthority : authority scheme front with
  | error error =>
    rw [hauthority] at h
    cases h
  | ok place =>
    rw [hauthority] at h
    obtain rfl := Except.ok.inj h
    rw [scheme_withHostPath] at hscheme
    have hplace : place.scheme ≠ fileScheme := by rwa [hscheme]
    exact ⟨_, rfl, (samePlace_withHostPath hplace _).trans (samePlace_withHostPath hplace _).symm⟩

end Places

/-! ## Texts without padding -/

section Padding
variable {front rest text : List Char}

/-- A text without its line breaks and the padding in front.  What is padding behind it is
kept, as something may follow. -/
def kept (text : List Char) : List Char :=
  (text.dropWhile isPadding).filter fun c => !isBreak c

theorem isPadding_of_isBreak {c : Char} (h : isBreak c = true) : isPadding c = true := by
  simp only [isBreak, Bool.or_eq_true, beq_iff_eq] at h
  rcases h with (rfl | rfl) | rfl <;> rfl

/-- Padding belongs to no scheme and to no path, and it ends no host. -/
theorem isPadding_plain {c : Char} (h : isPadding c = true) :
    isSchemeChar c = false ∧ c ≠ ':' ∧ isSlash c = false ∧ endsAuthority true c = false := by
  have hall : ∀ n : Fin 0x21, (!isSchemeChar (Char.ofNat n) && Char.ofNat n != ':' &&
      !isSlash (Char.ofNat n) && !endsAuthority true (Char.ofNat n)) = true := by decide
  have hc := hall ⟨c.toNat, Nat.lt_succ_of_le (of_decide_eq_true h)⟩
  rw [Char.ofNat_toNat] at hc
  simpa [and_assoc] using hc

theorem kept_append (h : ∀ c ∈ rest, isPadding c = false) :
    kept (front ++ rest) = kept front ++ rest := by
  have hhead : ∀ c ∈ rest.head?, isPadding c = false := fun c hc => h c (List.mem_of_head? hc)
  have hbreak : rest.filter (fun c => !isBreak c) = rest := by
    rw [List.filter_eq_self]
    intro c hc
    rw [Bool.not_eq_true', ← Bool.not_eq_true]
    intro hbreak
    cases (isPadding_of_isBreak hbreak).symm.trans (h c hc)
  rw [kept, dropWhile_append_of_head hhead, List.filter_append, hbreak]
  rfl

/-- **What follows an address keeps the padding behind it.** -/
theorem cleaned_append (hne : rest ≠ []) (h : ∀ c ∈ rest, isPadding c = false) :
    cleaned (front ++ rest) = kept front ++ rest := by
  have hlast : ∀ c ∈ ((front ++ rest).dropWhile isPadding).getLast?, isPadding c = false := by
    obtain ⟨first, others, rfl⟩ := List.exists_cons_of_ne_nil hne
    rw [dropWhile_append_of_head fun c hc => h c (List.mem_of_head? hc), List.getLast?_append,
      List.getLast?_cons, Option.some_or, ← List.getLast?_cons]
    exact fun c hc => h c (List.mem_of_getLast? hc)
  have hdrop := Text.dropWhileEnd_append hlast (List.forall_mem_nil _)
  rw [List.append_nil] at hdrop
  rw [← kept_append h, cleaned, kept, hdrop]

/-- A text that nothing follows loses the padding behind it. -/
theorem exists_kept_eq (text : List Char) :
    ∃ padding, kept text = cleaned text ++ padding ∧ ∀ c ∈ padding, isPadding c = true := by
  obtain ⟨padding, htext, hpadding⟩ :=
    Text.exists_append_dropWhileEnd isPadding (text.dropWhile isPadding)
  refine ⟨padding.filter fun c => !isBreak c, ?_, ?_⟩
  · rw [kept, cleaned, ← List.filter_append, ← htext]
  · exact fun c hc => hpadding c (List.mem_filter.mp hc).1

/-- **A scheme does not hang on what follows it.** -/
theorem scheme?_append (h : ∀ c ∈ rest.head?, isSchemeChar c = false ∧ c ≠ ':') :
    scheme? (text ++ rest) = (scheme? text).map fun found => (found.1, found.2 ++ rest) := by
  have hhead : ∀ c ∈ rest.head?, isSchemeChar c = false := fun c hc => (h c hc).1
  rw [scheme?, scheme?, takeWhile_append_of_head hhead, dropWhile_append_of_head hhead]
  cases text.dropWhile isSchemeChar with
  | nil =>
    cases rest with
    | nil => rfl
    | cons c rest => simp [(h c rfl).2]
  | cons c behind =>
    by_cases hc : c = ':'
    · subst hc
      cases (text.takeWhile isSchemeChar).head?.any Char.isAlpha <;> simp
    · simp [hc]

end Padding

/-! ## Joined texts -/

section Joined
variable {front slashes path scheme behind : List Char} {url : Url}

/-- **A path of the service**: a slash and more, all of it without padding. -/
structure IsEndpoint (path : List Char) : Prop where
  slash : path.head? = some '/'
  unpadded : ∀ c ∈ path, isPadding c = false

instance : DecidablePred IsEndpoint := fun path =>
  have := List.decidableBAll (fun c => isPadding c = false) path
  decidable_of_iff (path.head? = some '/' ∧ ∀ c ∈ path, isPadding c = false)
    ⟨fun h => ⟨h.1, h.2⟩, fun h => ⟨h.slash, h.unpadded⟩⟩

theorem IsEndpoint.isRest (h : IsEndpoint path) : IsRest path := by
  intro c hc
  rw [h.slash] at hc
  obtain rfl := Option.some.inj hc
  rfl

/-- A slash belongs to no scheme. -/
theorem plain_of_slashes (h : ∀ c ∈ slashes.head?, c = '/') :
    ∀ c ∈ slashes.head?, isSchemeChar c = false ∧ c ≠ ':' := by
  intro c hc
  rw [h c hc]
  decide

theorem IsEndpoint.plain (h : IsEndpoint path) :
    ∀ c ∈ path.head?, isSchemeChar c = false ∧ c ≠ ':' := by
  refine plain_of_slashes fun c hc => ?_
  rw [h.slash] at hc
  exact (Option.some.inj hc).symm

theorem isRest_of_slashes (h : ∀ c ∈ slashes, c = '/') : IsRest slashes := by
  intro c hc
  rw [h c (List.mem_of_head? hc)]
  rfl

theorem isPadding_eq_false_of_slash {c : Char} (h : c = '/') : isPadding c = false := by
  rw [h]
  rfl

/-- **A special text is read behind the slashes** that follow its scheme. -/
theorem parseNextTo_eq {text : List Char} (hspecial : isSpecial scheme = true)
    (hfile : scheme ≠ fileScheme) (h : scheme? (cleaned text) = some (scheme, behind)) :
    parseNextTo none text = afterSlashes scheme (behind.dropWhile isSlash) := by
  simp only [parseNextTo, h, afterScheme, if_neg hfile, hspecial, if_true]

/-- The scheme of an address is that of the address with slashes, and so is what follows it,
up to the slashes; the padding behind it is lost unless slashes are there. -/
theorem exists_behind (hslashes : ∀ c ∈ slashes, c = '/')
    (h : scheme? (kept front) = some (scheme, behind)) :
    ∃ own padding, behind = own ++ padding ∧
      (∀ c ∈ padding, isPadding c = true) ∧
      (padding = [] ∨ slashes = []) ∧
      scheme? (cleaned (front ++ slashes)) = some (scheme, own ++ slashes) := by
  cases slashes with
  | nil =>
    obtain ⟨padding, hkept, hpadding⟩ := exists_kept_eq front
    have hhead : ∀ c ∈ padding.head?, isSchemeChar c = false ∧ c ≠ ':' := by
      intro c hc
      obtain ⟨hscheme, hcolon, -⟩ := isPadding_plain (hpadding c (List.mem_of_head? hc))
      exact ⟨hscheme, hcolon⟩
    rw [hkept, scheme?_append hhead] at h
    obtain ⟨⟨found, own⟩, hfound, heq⟩ := Option.map_eq_some_iff.mp h
    obtain ⟨rfl, rfl⟩ := Prod.mk.inj heq
    refine ⟨own, padding, rfl, hpadding, .inr rfl, ?_⟩
    rw [List.append_nil, List.append_nil, hfound]
  | cons slash others =>
    have hunpadded : ∀ c ∈ slash :: others, isPadding c = false := fun c hc =>
      isPadding_eq_false_of_slash (hslashes c hc)
    have hhead := plain_of_slashes fun c hc => hslashes c (List.mem_of_head? hc)
    refine ⟨behind, [], (List.append_nil _).symm, List.forall_mem_nil _, .inl rfl, ?_⟩
    rw [cleaned_append (List.cons_ne_nil _ _) hunpadded, scheme?_append hhead, h]
    rfl

/-- What stands in front of a path is kept as it is. -/
theorem cleaned_path (hpath : IsEndpoint path) : cleaned (front ++ path) = kept front ++ path := by
  refine cleaned_append ?_ hpath.unpadded
  rintro rfl
  cases hpath.slash

theorem scheme?_cleaned_path (hpath : IsEndpoint path)
    (h : scheme? (kept front) = some (scheme, behind)) :
    scheme? (cleaned (front ++ path)) = some (scheme, behind ++ path) := by
  rw [cleaned_path hpath, scheme?_append hpath.plain, h]
  rfl

/-- A text with a path behind it has the scheme that stands in front of the text. -/
theorem exists_scheme_of_joined (hpath : IsEndpoint path)
    (hparse : parseNextTo none (front ++ path) = .ok url) :
    ∃ behind, scheme? (kept front) = some (url.scheme, behind) := by
  cases hscheme : scheme? (kept front) with
  | none =>
    rw [parseNextTo, cleaned_path hpath, scheme?_append hpath.plain, hscheme] at hparse
    cases hparse
  | some found =>
    obtain ⟨scheme, behind⟩ := found
    have hjoined := scheme?_cleaned_path hpath hscheme
    simp only [parseNextTo, hjoined] at hparse
    rw [scheme_of_afterScheme hparse]
    exact ⟨behind, rfl⟩

/-- **Nothing but slashes behind the scheme** make no address, and the path begins with the
host. -/
theorem joined_of_slashes (hspecial : isSpecial scheme = true) (hfile : scheme ≠ fileScheme)
    (hslashes : ∀ c ∈ slashes, c = '/') (hpath : IsEndpoint path)
    (h : scheme? (kept front) = some (scheme, behind))
    (hbehind : ∀ c ∈ behind, isSlash c = true) :
    parseNextTo none (front ++ slashes) = .error .emptyHost ∧
      parseNextTo none (front ++ path) = afterSlashes scheme (path.dropWhile isSlash) := by
  obtain ⟨own, padding, rfl, -, -, hscheme⟩ := exists_behind hslashes h
  have hall : ∀ c ∈ own ++ slashes, isSlash c = true := by
    intro c hc
    rcases List.mem_append.mp hc with hc | hc
    · exact hbehind c (List.mem_append_left _ hc)
    · rw [hslashes c hc]
      rfl
  have hempty : afterSlashes scheme ([] ++ []) = .error .emptyHost := by
    rw [afterSlashes_append hspecial (List.forall_mem_nil _)
      (isRest_of_slashes (List.forall_mem_nil _))]
    rfl
  constructor
  · rw [parseNextTo_eq hspecial hfile hscheme, List.dropWhile_eq_nil_iff.mpr hall]
    exact hempty
  · rw [parseNextTo_eq hspecial hfile (scheme?_cleaned_path hpath h),
      List.dropWhile_append_of_pos hbehind]

/-- **Padding in front of a path** makes a text that is none, unless it stands behind the
host's part. -/
theorem samePlace_of_padded (hspecial : isSpecial scheme = true) (hfile : scheme ≠ fileScheme)
    {named padding : List Char} (hpadding : ∀ c ∈ padding, isPadding c = true)
    (hslashes : ∀ c ∈ slashes, c = '/') (hpath : IsEndpoint path)
    (hparse : afterSlashes scheme (named ++ (padding ++ path)) = .ok url) :
    ∃ own, afterSlashes scheme (named ++ slashes) = .ok own ∧ own.SamePlace url := by
  obtain ⟨place, more, rfl, hfront, hends⟩ := exists_front_rest named
  cases more with
  | cons c more =>
    -- The host's part has ended before the padding.
    have hrest : ∀ text, IsRest (c :: more ++ text) := fun _ d hd => hends d hd
    rw [List.append_assoc] at hparse ⊢
    exact samePlace_of_afterSlashes hspecial hfile hfront (hrest _) (hrest _) hparse
  | nil =>
    -- The path ends the host's part, so the padding is the end of that.
    rw [List.append_nil] at hparse ⊢
    cases hlast : padding.getLast? with
    | none =>
      rw [List.getLast?_eq_none_iff.mp hlast, List.nil_append] at hparse
      exact samePlace_of_afterSlashes hspecial hfile hfront hpath.isRest
        (isRest_of_slashes hslashes) hparse
    | some c =>
      have hc : c.toNat ≤ 0x20 := of_decide_eq_true (hpadding c (List.mem_of_getLast? hlast))
      have hpadded : IsFront (place ++ padding) := by
        intro d hd
        rcases List.mem_append.mp hd with hd | hd
        · exact hfront d hd
        · exact (isPadding_plain (hpadding d hd)).2.2.2
      have hlast : (place ++ padding).getLast? = some c := by
        rw [List.getLast?_append, hlast, Option.some_or]
      obtain ⟨error, herror⟩ := exists_authority_eq_error hpadded hlast hc
      rw [← List.append_assoc, afterSlashes_append hspecial hpadded hpath.isRest, herror] at hparse
      cases hparse

/-- **An address with a path leads where the address alone leads.** -/
theorem samePlace_of_joined (hspecial : isSpecial scheme = true) (hfile : scheme ≠ fileScheme)
    (hslashes : ∀ c ∈ slashes, c = '/') (hpath : IsEndpoint path)
    (h : scheme? (kept front) = some (scheme, behind))
    (hbehind : ∃ c ∈ behind, isSlash c = false)
    (hparse : parseNextTo none (front ++ path) = .ok url) :
    ∃ own, parseNextTo none (front ++ slashes) = .ok own ∧ own.SamePlace url := by
  have hjoined := scheme?_cleaned_path hpath h
  obtain ⟨own, padding, rfl, hpadding, hlost, hscheme⟩ := exists_behind hslashes h
  have hplain : ∀ c ∈ padding.head?, isSlash c = false := fun c hc =>
    (isPadding_plain (hpadding c (List.mem_of_head? hc))).2.2.1
  rw [parseNextTo_eq hspecial hfile hjoined, List.append_assoc] at hparse
  rw [parseNextTo_eq hspecial hfile hscheme]
  -- The slashes behind the scheme end before the padding, and before those behind the address.
  have hdrop : (own ++ (padding ++ path)).dropWhile isSlash =
        own.dropWhile isSlash ++ (padding ++ path) ∧
      (own ++ slashes).dropWhile isSlash = own.dropWhile isSlash ++ slashes := by
    by_cases hown : own.dropWhile isSlash = []
    · have hne : padding ≠ [] := by
        rintro rfl
        obtain ⟨c, hc, hslash⟩ := hbehind
        rw [List.append_nil] at hc
        rw [List.dropWhile_eq_nil_iff.mp hown c hc] at hslash
        cases hslash
      obtain rfl := hlost.resolve_left hne
      have hhead : (padding ++ path).head? = padding.head? := by
        rw [List.head?_append, Option.or_of_isSome (List.isSome_head?.mpr hne)]
      refine ⟨dropWhile_append_of_head (by rwa [hhead]), ?_⟩
      rw [List.append_nil, List.append_nil]
    · have hempty : (own.dropWhile isSlash).isEmpty = false := by simpa using hown
      constructor <;> rw [List.dropWhile_append, hempty, if_neg Bool.false_ne_true]
  rw [hdrop.1] at hparse
  rw [hdrop.2]
  exact samePlace_of_padded hspecial hfile hpadding hslashes hpath hparse

end Joined

end LiveRoom.Url
