import LiveRoom.Proofs.Json.Unwanted

/-!
# A text spells one value

The grammar leaves no choice: a text is the text of one value at most (`Document.unique`).

Where a value ends is known already, since it can be passed over
(`Spells.delimited`), and its first character says which kind of value it is
(`Spells.kind_eq`).  What is left is an induction on the length of the text: two values of
one kind have the same pieces, the same digits, or the same entries, one after the other.
-/

namespace LiveRoom.Json

/-! ## Strings -/

theorem Piece.text_append_ne_quote (piece : Piece) (rest behind : List Char) :
    piece.text ++ rest ≠ '"' :: behind := by
  intro heq
  cases piece with
  | plain c quote slash low => exact quote (List.cons.inj heq).1
  | letter c value known => exact absurd (List.cons.inj heq).1 (by decide)
  | digits a b c d unit known => exact absurd (List.cons.inj heq).1 (by decide)

/-- **No piece is the start of another one.**  The letter `u` alone stands for nothing. -/
theorem Piece.text_append_inj {piece piece' : Piece} {rest rest' : List Char}
    (heq : piece.text ++ rest = piece'.text ++ rest') : piece = piece' ∧ rest = rest' := by
  cases piece with
  | plain c quote slash low =>
    cases piece' with
    | plain c' quote' slash' low' =>
      obtain ⟨rfl, rfl⟩ := List.cons.inj heq
      exact ⟨rfl, rfl⟩
    | letter | digits => exact absurd (List.cons.inj heq).1 slash
  | letter c value known =>
    cases piece' with
    | plain c' quote slash low => exact absurd (List.cons.inj heq).1.symm slash
    | letter c' value' known' =>
      obtain ⟨rfl, rfl⟩ := List.cons.inj (List.cons.inj heq).2
      obtain rfl := Option.some.inj (known.symm.trans known')
      exact ⟨rfl, rfl⟩
    | digits =>
      obtain ⟨rfl, -⟩ := List.cons.inj (List.cons.inj heq).2
      cases known
  | digits a b c d unit known =>
    cases piece' with
    | plain c' quote slash low => exact absurd (List.cons.inj heq).1.symm slash
    | letter c' value' known' =>
      obtain ⟨rfl, -⟩ := List.cons.inj (List.cons.inj heq).2
      cases known'
    | digits a' b' c' d' unit' known' =>
      simp only [Piece.text, List.cons_append, List.nil_append, List.cons.injEq, true_and] at heq
      obtain ⟨rfl, rfl, rfl, rfl, rfl⟩ := heq
      obtain rfl := Option.some.inj (known.symm.trans known')
      exact ⟨rfl, rfl⟩

/-- **A string ends at the first quote that is not part of a piece**, and its pieces are
known. -/
theorem RawString.quoted_append_inj {raw raw' : RawString} {rest rest' : List Char}
    (heq : raw.quoted ++ rest = raw'.quoted ++ rest') : raw = raw' ∧ rest = rest' := by
  rw [quoted_append, quoted_append] at heq
  replace heq := (List.cons.inj heq).2
  induction raw generalizing raw' with
  | nil =>
    cases raw' with
    | nil => exact ⟨rfl, (List.cons.inj heq).2⟩
    | cons piece' raw' =>
      rw [List.flatMap_cons, List.append_assoc] at heq
      exact absurd heq.symm (piece'.text_append_ne_quote _ _)
  | cons piece raw ih =>
    rw [List.flatMap_cons, List.append_assoc] at heq
    cases raw' with
    | nil => exact absurd heq (piece.text_append_ne_quote _ _)
    | cons piece' raw' =>
      rw [List.flatMap_cons, List.append_assoc] at heq
      obtain ⟨rfl, hothers⟩ := Piece.text_append_inj heq
      obtain ⟨rfl, hrest⟩ := ih hothers
      exact ⟨rfl, hrest⟩

/-! ## Numbers -/

theorem SpellsNumber.unique {text : List Char} {literal literal' : Literal}
    (h : SpellsNumber text literal) (h' : SpellsNumber text literal') : literal = literal' := by
  have hscan : Literal.scan .invalidNumber (text ++ []) = .ok (literal, []) :=
    Literal.scan_number h stops_nil
  rw [Literal.scan_number h' stops_nil] at hscan
  exact (Prod.mk.inj (Except.ok.inj hscan)).1.symm

/-! ## Where a text ends -/

section Ends
variable {α : Type} {spells : List Char → α → Prop} {first : Bool} {c c' : Char}
  {before before' rest rest' : List Char}

/-- Blanks end at the first character that is none. -/
theorem Blanks.append_inj (hbefore : Blanks before) (hbefore' : Blanks before')
    (hc : isBlank c = false) (hc' : isBlank c' = false)
    (heq : before ++ c :: rest = before' ++ c' :: rest') : c :: rest = c' :: rest' := by
  have hskip := congrArg skipBlank heq
  rwa [skipBlank_blanks hbefore hc, skipBlank_blanks hbefore' hc'] at hskip

/-- **Texts that say where they end**: one that starts with no blank, and is no part of
another where nothing follows that could continue it. -/
structure Delimited (spells : List Char → α → Prop) : Prop where
  start {body : List Char} {item : α} (h : spells body item) :
    ∃ c behind, body = c :: behind ∧ isBlank c = false
  append_inj {body body' rest rest' : List Char} {item item' : α} (h : spells body item)
    (h' : spells body' item') (hrest : Stops rest) (hrest' : Stops rest')
    (heq : body ++ rest = body' ++ rest') : body = body' ∧ rest = rest'

/-- A value can be passed over, so it says where it ends. -/
theorem Spells.delimited : Delimited Spells where
  start h := by
    obtain ⟨c, behind, htext, hblank, -, -⟩ := h.exists_cons
    exact ⟨c, behind, htext, hblank⟩
  append_inj := by
    intro body body' rest rest' item item' h h' hrest hrest' heq
    have hskip : skip (body ++ rest) = .ok rest := skip_spells blanks_nil h hrest
    have hskip' : skip (body' ++ rest') = .ok rest' := skip_spells blanks_nil h' hrest'
    rw [← heq, hskip] at hskip'
    obtain rfl := Except.ok.inj hskip'
    exact ⟨List.append_cancel_right heq, rfl⟩

/-- A separator ends where the item behind it starts. -/
theorem Delimited.separator_append_inj (hspells : Delimited spells) {body body' : List Char}
    {item item' : α} (h : Separator first before) (h' : Separator first before')
    (hitem : spells body item) (hitem' : spells body' item')
    (heq : before ++ (body ++ rest) = before' ++ (body' ++ rest')) :
    body ++ rest = body' ++ rest' := by
  obtain ⟨c, behind, rfl, hc⟩ := hspells.start hitem
  obtain ⟨c', behind', rfl, hc'⟩ := hspells.start hitem'
  cases h with
  | blanks hbefore =>
    obtain ⟨hbefore'⟩ := h'
    exact hbefore.append_inj hbefore' hc hc' heq
  | comma hbefore hafter =>
    obtain _ | ⟨hbefore', hafter'⟩ := h'
    simp only [List.append_assoc, List.cons_append] at heq
    have hcomma : isBlank ',' = false := by decide
    have hbehind := (List.cons.inj (hbefore.append_inj hbefore' hcomma hcomma heq)).2
    exact hafter.append_inj hafter' hc hc' hbehind

/-- A member ends where its value does.  Its key, and the text of its value, are known. -/
theorem Member.append_inj (hspells : Delimited spells) {body body' : List Char}
    {member member' : RawString × α} (h : Member spells body member)
    (h' : Member spells body' member') (hrest : Stops rest) (hrest' : Stops rest')
    (heq : body ++ rest = body' ++ rest') :
    body = body' ∧ rest = rest' ∧ member.1 = member'.1 ∧
      ∃ value, spells value member.2 ∧ spells value member'.2 ∧ value.length < body.length := by
  obtain @⟨key, between, after, value, item, hbetween, hafter, hvalue⟩ := h
  obtain @⟨key', between', after', value', item', hbetween', hafter', hvalue'⟩ := h'
  simp only [List.append_assoc, List.cons_append] at heq
  obtain ⟨rfl, hbehind⟩ := RawString.quoted_append_inj heq
  have hcolon : isBlank ':' = false := by decide
  have hvalues := (List.cons.inj (hbetween.append_inj hbetween' hcolon hcolon hbehind)).2
  obtain ⟨rfl, rfl⟩ := hspells.append_inj hvalue hvalue' hrest hrest'
    (hspells.separator_append_inj (.blanks hafter) (.blanks hafter') hvalue hvalue' hvalues)
  refine ⟨?_, rfl, rfl, value, hvalue, hvalue', ?_⟩
  · refine (List.append_left_inj rest).mp ?_
    simpa only [List.append_assoc, List.cons_append] using heq
  · simp only [List.length_append, List.length_cons]
    omega

theorem Member.delimited (hspells : Delimited spells) : Delimited (Member spells) where
  start := by
    rintro _ _ ⟨-, -, -⟩
    exact ⟨'"', _, rfl, by decide⟩
  append_inj h h' hrest hrest' heq := by
    obtain ⟨hbody, hrest, -, -⟩ := h.append_inj hspells h' hrest hrest' heq
    exact ⟨hbody, hrest⟩

/-- A member is known from its text, if shorter texts spell one value at most. -/
theorem Member.unique (hspells : Delimited spells) {n : Nat}
    (hbelow : ∀ body item item', body.length < n → spells body item → spells body item' →
      item = item')
    {body : List Char} {member member' : RawString × α} (hlength : body.length < n)
    (h : Member spells body member) (h' : Member spells body member') : member = member' := by
  obtain ⟨-, -, hkey, value, hvalue, hvalue', hshorter⟩ :=
    h.append_inj hspells h' stops_nil stops_nil rfl
  exact Prod.ext hkey (hbelow value _ _ (hshorter.trans hlength) hvalue hvalue')

theorem Delimited.not_blanks (hspells : Delimited spells) {body others : List Char} {item : α}
    (h : spells body item) : ¬ Blanks (before ++ (body ++ others)) := by
  intro hblanks
  obtain ⟨c, behind, rfl, hc⟩ := hspells.start h
  rw [hblanks c (by simp)] at hc
  cases hc

/-- **The items of a container are known** from the text inside it, if shorter texts spell one
item at most. -/
theorem Items.unique (hspells : Delimited spells) {n : Nat}
    (hbelow : ∀ body item item', body.length < n → spells body item → spells body item' →
      item = item')
    {inner : List Char} {items items' : List α} (hlength : inner.length < n)
    (h : Items spells first inner items) (h' : Items spells first inner items') :
    items = items' := by
  induction items generalizing first inner items' with
  | nil =>
    obtain ⟨hblanks⟩ := h
    cases h' with
    | none => rfl
    | item _ hitem _ => exact absurd hblanks (hspells.not_blanks hitem)
  | cons item items ih =>
    obtain _ | @⟨_, separator, body, others, _, _, hseparator, hitem, hothers⟩ := h
    simp only [List.length_append] at hlength
    generalize hinner : separator ++ (body ++ others) = inner at h'
    cases h' with
    | none hblanks => exact absurd (hinner ▸ hblanks) (hspells.not_blanks hitem)
    | @item _ separator' body' others' item' items' hseparator' hitem' hothers' =>
      have hstops : Stops others := by simpa only [List.append_nil] using hothers.stops stops_nil
      have hstops' : Stops others' := by simpa only [List.append_nil] using hothers'.stops stops_nil
      obtain ⟨hbody, hrest⟩ := hspells.append_inj hitem hitem' hstops hstops'
        (hspells.separator_append_inj hseparator hseparator' hitem hitem' hinner)
      subst hbody hrest
      rw [hbelow body item item' (by omega) hitem hitem', ih (by omega) hothers hothers']

end Ends

/-! ## What the first character announces -/

/-- **The kinds of values**, as their first characters tell them apart. -/
inductive Kind where
  | null
  | flag (value : Bool)
  | number
  | string
  | list
  | object

/-- The kind of value that a character announces. -/
def Kind.announced (c : Char) : Kind :=
  if c = 'n' then .null
  else if c = 't' then .flag true
  else if c = 'f' then .flag false
  else if c = '"' then .string
  else if c = '[' then .list
  else if c = '\x7b' then .object
  else .number

def Term.kind : Term → Kind
  | .null => .null
  | .flag value => .flag value
  | .number _ => .number
  | .string _ => .string
  | .list _ => .list
  | .object _ => .object

/-- **The first character of a value announces its kind.** -/
theorem Spells.kind_eq {text : List Char} {term : Term} (h : Spells text term) :
    ∃ c rest, text = c :: rest ∧ term.kind = Kind.announced c := by
  cases h with
  | null => exact ⟨'n', _, rfl, rfl⟩
  | flag value => cases value <;> exact ⟨_, _, rfl, rfl⟩
  | string raw => exact ⟨'"', _, rfl, rfl⟩
  | list h => exact ⟨'[', _, rfl, rfl⟩
  | object h => exact ⟨'\x7b', _, rfl, rfl⟩
  | number h =>
    obtain ⟨c, rest, rfl, hc⟩ := h.exists_cons
    have hne : ∀ d, (d = '-' || d.isDigit) = false → c ≠ d := fun _ => ne_of_starts_number hc
    refine ⟨c, rest, rfl, ?_⟩
    rw [Kind.announced, if_neg (hne 'n' rfl), if_neg (hne 't' rfl), if_neg (hne 'f' rfl),
      if_neg (hne '"' rfl), if_neg (hne '[' rfl), if_neg (hne '\x7b' rfl)]
    rfl

/-! ## Values -/

/-- The inside of a container is what stands between its brackets. -/
theorem eq_of_bracketed {opener closer : Char} {inner inner' : List Char}
    (heq : opener :: (inner ++ [closer]) = opener :: (inner' ++ [closer])) : inner = inner' :=
  List.append_cancel_right (List.cons.inj heq).2

/-- Two readings of one text are the same.  The text has two names here, so that either
reading can be taken apart without the other one. -/
theorem Spells.unique_of_eq {text text' : List Char} {term term' : Term} (h : Spells text term)
    (h' : Spells text' term') (heq : text = text') : term = term' := by
  induction hn : text.length using Nat.strongRecOn generalizing text text' term term' with
  | ind n ih =>
    have hbelow : ∀ body item item', body.length < n → Spells body item → Spells body item' →
        item = item' :=
      fun body item item' hlt hitem hitem' => ih body.length hlt hitem hitem' rfl rfl
    -- The first characters are the same, so only values of one kind are left to compare.
    have hkind : term.kind = term'.kind := by
      obtain ⟨c, rest, htext, hc⟩ := h.kind_eq
      obtain ⟨c', rest', htext', hc'⟩ := h'.kind_eq
      obtain ⟨rfl, -⟩ := List.cons.inj (htext.symm.trans (heq.trans htext'))
      rw [hc, hc']
    cases h with
    | null =>
      cases h' with
      | null => rfl
      | _ => cases hkind
    | flag value =>
      cases h' with
      | flag value' => exact congrArg Term.flag (Kind.flag.inj hkind)
      | _ => cases hkind
    | number hnumber =>
      cases h' with
      | number hnumber' => rw [hnumber.unique (heq ▸ hnumber')]
      | _ => cases hkind
    | string raw =>
      cases h' with
      | string raw' =>
        obtain ⟨rfl, -⟩ := RawString.quoted_append_inj (congrArg (· ++ []) heq)
        rfl
      | _ => cases hkind
    | @list inner items hitems =>
      cases h' with
      | @list inner' items' hitems' =>
        obtain rfl := eq_of_bracketed heq
        rw [List.length_cons, List.length_append] at hn
        rw [Items.unique Spells.delimited hbelow (by omega) hitems hitems']
      | _ => cases hkind
    | @object inner members hmembers =>
      cases h' with
      | @object inner' members' hmembers' =>
        obtain rfl := eq_of_bracketed heq
        rw [List.length_cons, List.length_append] at hn
        have hmember : ∀ body member member', body.length < n → Member Spells body member →
            Member Spells body member' → member = member' :=
          fun _ _ _ => Member.unique Spells.delimited hbelow
        rw [Items.unique (Member.delimited Spells.delimited) hmember (by omega) hmembers hmembers']
      | _ => cases hkind

/-- **A text spells one value at most.** -/
theorem Spells.unique {text : List Char} {term term' : Term} (h : Spells text term)
    (h' : Spells text term') : term = term' :=
  h.unique_of_eq h' rfl

/-- **A text spells one value at most**, also with blanks around it. -/
theorem Document.unique {text : List Char} {term term' : Term} (h : Document text term)
    (h' : Document text term') : term = term' := by
  obtain ⟨before, body, after, hbefore, hafter, rfl, hbody⟩ := h
  obtain ⟨before', body', after', hbefore', hafter', heq, hbody'⟩ := h'
  obtain ⟨rfl, -⟩ := Spells.delimited.append_inj hbody hbody' hafter.stops hafter'.stops
    (Spells.delimited.separator_append_inj (.blanks hbefore) (.blanks hbefore') hbody hbody' heq)
  exact hbody.unique hbody'

end LiveRoom.Json
