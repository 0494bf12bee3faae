import LiveRoom.Proofs.Json.Schema

/-!
# Records

A record is read from exactly the terms that describe its values, given as an object or as a
list (`Format.record_reads`), and it is written as such a term (`Format.record_follows`).

The members of an object are read one after the other, and what is known of the fields grows
with each.  The values of a list are read field by field; where the list has ended, the
fields that are left take their defaults.
-/

namespace LiveRoom.Json

namespace Fields.Schema

variable {σ τ : Type} {fields : Fields σ τ} {schema : Schema fields}
  {text rest : List Char}

/-! ## Objects -/

section Objects
variable {first : Bool} {knowns knowns' : σ}

theorem members_of_close (h : nextKey first text = .ok (false, rest)) :
    members fields first knowns text = .ok (knowns, rest) := by
  rw [members]
  split
  · rename_i hnext
    rw [h] at hnext
    cases hnext
  · rename_i hnext
    rw [h] at hnext
    cases hnext
    rfl
  · rename_i hnext
    rw [h] at hnext
    cases hnext

theorem members_of_more {behind after last name : List Char} {middle : σ}
    (h : nextKey first text = .ok (true, behind)) (hkey : readString behind = .ok (name, after))
    (hmember : fields.member name knowns after = .ok (middle, last)) :
    members fields first knowns text = members fields false middle last := by
  generalize hresult : members fields false middle last = result
  rw [members]
  split
  · rename_i hnext
    rw [h] at hnext
    cases hnext
  · rename_i hnext
    rw [h] at hnext
    cases hnext
  · rename_i hnext
    rw [h] at hnext
    cases hnext
    split
    · rename_i hread
      rw [hkey] at hread
      cases hread
    · rename_i hread
      rw [hkey] at hread
      cases hread
      split
      · rename_i hfault
        rw [hmember] at hfault
        cases hfault
      · rename_i hvalue
        rw [hmember] at hvalue
        cases hvalue
        exact hresult

/-- **The members that are read** are those up to the closing brace, and all are taken. -/
theorem exists_of_members (schema : Schema fields)
    (h : members fields first knowns text = .ok (knowns', rest)) :
    ∃ inner entries, text = inner ++ '\x7d' :: rest ∧
      Items (Member Spells) first inner entries ∧
      (Term.object entries).IsRecord fields.count ∧ schema.Takes knowns entries knowns' := by
  fun_induction members fields first knowns text with
  | case1 => cases h
  | case2 first knowns text after hnext =>
    obtain ⟨rfl, rfl⟩ := Prod.mk.inj (Except.ok.inj h)
    obtain ⟨before, hbefore, rfl⟩ := exists_of_nextKey_false hnext
    exact ⟨before, [], rfl, .none hbefore, List.forall_mem_nil _, takes_nil_iff.mpr rfl⟩
  | case3 => cases h
  | case4 => cases h
  | case5 first knowns text behind hnext name after hkey middle last hmember _ _ _ ih =>
    obtain ⟨separator, hseparator, rfl⟩ := exists_of_nextKey_true hnext
    obtain ⟨raw, rfl, hraw⟩ := exists_raw_of_readString hkey
    obtain ⟨term, ⟨before, between, body, hbefore, hbetween, rfl, hbody⟩, htakes⟩ :=
      takes_of_member schema hraw hmember
    obtain ⟨inner, entries, rfl, hitems, hrecord, hothers⟩ := ih h
    refine ⟨_, (raw, term) :: entries, ?_,
      .item hseparator (.mk hbefore hbetween hbody) hitems,
      List.forall_mem_cons.mpr ⟨⟨name, hraw⟩, hrecord⟩, ?_⟩
    · simp only [RawString.quoted, List.append_assoc, List.cons_append, List.nil_append]
    · exact takes_append_iff.mpr ⟨middle, htakes, hothers⟩

/-- **Members that are all taken** are read up to the closing brace. -/
theorem members_of_takes {inner : List Char} {entries : List (RawString × Term)}
    (hitems : Items (Member Spells) first inner entries)
    (hrecord : (Term.object entries).IsRecord fields.count)
    (h : schema.Takes knowns entries knowns') (rest : List Char) :
    members fields first knowns (inner ++ '\x7d' :: rest) = .ok (knowns', rest) := by
  induction entries generalizing first inner knowns with
  | nil =>
    obtain ⟨hblanks⟩ := hitems
    rw [takes_nil_iff.mp h]
    exact members_of_close (nextKey_blanks hblanks rest)
  | cons entry entries ih =>
    obtain _ | ⟨hseparator, hmember, hothers⟩ := hitems
    obtain @⟨raw, before, after, body, term, hbefore, hafter, hbody⟩ := hmember
    obtain ⟨⟨name, hraw⟩, hrecord⟩ := List.forall_mem_cons.mp hrecord
    obtain ⟨middle, hfirst, htakes⟩ :=
      takes_append_iff.mp (show schema.Takes knowns ([(raw, term)] ++ entries) knowns' from h)
    have hbrace : Stops ('\x7d' :: rest) := stops_cons (by decide)
    have hstops := hothers.stops hbrace
    have hread := member_of_takes hraw ⟨before, after, body, hbefore, hafter, rfl, hbody⟩
      hstops hfirst
    have hnext := nextKey_separator hseparator
    have hkey := readString_raw hraw
    simp only [RawString.quoted, List.append_assoc, List.cons_append, List.nil_append] at hread ⊢
    rw [members_of_more (hnext _) (hkey _) hread]
    exact ih hothers hrecord htakes

end Objects

/-! ## Lists -/

section Lists
variable {wanted : String} {place : Nat} {values : τ}

theorem closeList_eq_ok_iff :
    closeList text = .ok rest ↔ ∃ before, Blanks before ∧ text = before ++ ']' :: rest := by
  constructor
  · intro h
    unfold closeList at h
    split at h
    · cases h
    · rename_i after hskip
      obtain rfl := Except.ok.inj h
      exact exists_blanks_of_skipBlank_eq hskip
    · split at h <;> cases h
    · cases h
  · rintro ⟨before, hbefore, rfl⟩
    rw [closeList, skipBlank_blanks hbefore (by decide)]
    rfl

/-- Behind the first item of a list the others stand one place later. -/
theorem gives_tail_iff {term : Term} {items : List Term} :
    schema.Gives (fun _ other => (term :: items)[other - place]?.toList) (place + 1) values ↔
      schema.Gives (fun _ other => items[other - (place + 1)]?.toList) (place + 1) values := by
  have hshift : ∀ other, place + 1 ≤ other →
      (term :: items)[other - place]?.toList = items[other - (place + 1)]?.toList := by
    intro other hle
    obtain ⟨steps, rfl⟩ := Nat.exists_eq_add_of_le hle
    rw [Nat.add_sub_cancel_left, Nat.add_assoc, Nat.add_sub_cancel_left, Nat.add_comm 1 steps,
      List.getElem?_cons_succ]
  constructor
  · intro h
    exact gives_congr h fun _ _ other hle => hshift other hle
  · intro h
    exact gives_congr h fun _ _ other hle => (hshift other hle).symm

/-- Where a list has ended, every place is empty. -/
theorem gives_nil_iff {start start' : Nat} :
    schema.Gives (fun _ other => ([] : List Term)[other - start]?.toList) place values ↔
      schema.Gives (fun _ other => ([] : List Term)[other - start']?.toList) place values :=
  ⟨fun h => gives_congr h fun _ _ _ _ => rfl, fun h => gives_congr h fun _ _ _ _ => rfl⟩

/-- **The values that are read** are those up to the closing bracket; each is given at its
place. -/
theorem exists_of_positions (schema : Schema fields) {after : List Char}
    (h : positions wanted fields place text = .ok (values, after))
    (hclose : closeList after = .ok rest) :
    ∃ inner items, text = inner ++ ']' :: rest ∧ Items Spells (place = 0) inner items ∧
      items.length ≤ fields.count ∧
      schema.Gives (fun _ other => items[other - place]?.toList) place values := by
  induction schema generalizing place text with
  | nil =>
    obtain ⟨-, rfl⟩ := Prod.mk.inj (Except.ok.inj h)
    obtain ⟨before, hbefore, rfl⟩ := closeList_eq_ok_iff.mp hclose
    exact ⟨before, [], rfl, .none hbefore, Nat.le_refl _, trivial⟩
  | cons means hformat hkey schema ih =>
    unfold positions at h
    split at h
    · cases h
    · rename_i middle hnext
      split at h
      · cases h
      · rename_i value behind hread
        obtain ⟨⟨values, last⟩, hothers, hpair⟩ := map_eq_ok_iff.mp h
        obtain ⟨rfl, rfl⟩ := Prod.mk.inj hpair
        obtain ⟨separator, hseparator, rfl⟩ := Reader.exists_of_nextElement_true hnext
        obtain ⟨before, body, term, hbefore, rfl, hbody, hvalue⟩ := hformat.reads.sound hread
        obtain ⟨inner, items, rfl, hitems, hlength, hvalues⟩ := ih hothers
        refine ⟨_, term :: items, ?_, .item (hseparator.append_blanks hbefore) hbody hitems,
          Nat.succ_le_succ hlength, ?_, ?_⟩
        · simp only [List.append_assoc]
        · show Given means _ (term :: items)[place - place]?.toList value
          rw [Nat.sub_self]
          exact .once hvalue
        · exact gives_tail_iff.mpr hvalues
    · rename_i middle hnext
      split at h
      · cases h
      · rename_i value
        obtain ⟨⟨values, last⟩, hothers, hpair⟩ := map_eq_ok_iff.mp h
        obtain ⟨rfl, rfl⟩ := Prod.mk.inj hpair
        obtain ⟨before, behind, hbefore, rfl, rfl⟩ := Reader.exists_of_nextElement_false hnext
        obtain ⟨inner, items, htext, hitems, -, hvalues⟩ := ih hothers
        -- The list has ended, so the other fields find nothing either.
        obtain ⟨rfl, rfl⟩ := Items.of_closed hitems (by decide) (by decide) htext
        exact ⟨before, [], rfl, .none hbefore, Nat.zero_le _, .missing rfl,
          gives_nil_iff.mp hvalues⟩

/-- **Values that are given at their places** are read up to the closing bracket. -/
theorem positions_of_gives {inner : List Char} {items : List Term}
    (hitems : Items Spells (place = 0) inner items) (hlength : items.length ≤ fields.count)
    (h : schema.Gives (fun _ other => items[other - place]?.toList) place values)
    (rest : List Char) :
    ∃ after, positions wanted fields place (inner ++ ']' :: rest) = .ok (values, after) ∧
      closeList after = .ok rest := by
  induction schema generalizing place inner items with
  | nil =>
    obtain rfl : items = [] := List.eq_nil_of_length_eq_zero (Nat.le_zero.mp hlength)
    obtain ⟨hblanks⟩ := hitems
    exact ⟨_, rfl, closeList_eq_ok_iff.mpr ⟨inner, hblanks, rfl⟩⟩
  | cons means hformat hkey schema ih =>
    obtain ⟨value, values⟩ := values
    obtain ⟨hvalue, hvalues⟩ := h
    dsimp only at hvalue
    rw [Nat.sub_self] at hvalue
    cases items with
    | nil =>
      obtain ⟨hblanks⟩ := hitems
      obtain ⟨hdefault⟩ := hvalue
      obtain ⟨after, hothers, hclose⟩ :=
        ih (.none blanks_nil) (Nat.zero_le _) (gives_nil_iff.mp hvalues)
      refine ⟨after, ?_, hclose⟩
      rw [positions, Reader.nextElement_blanks hblanks, hdefault]
      dsimp only
      rw [← List.nil_append (']' :: rest), hothers]
      rfl
    | cons term items =>
      obtain _ | ⟨hseparator, hbody, hafter⟩ := hitems
      obtain _ | ⟨hvalue⟩ := hvalue
      have hbracket : Stops (']' :: rest) := stops_cons (by decide)
      have hstops := hafter.stops hbracket
      have hread := hformat.reads.complete blanks_nil hbody hvalue hstops
      obtain ⟨c, behind, rfl, hblank, hclose, -⟩ := hbody.exists_cons
      have hnext := Reader.nextElement_separator hseparator hblank hclose
      have hothers : Items Spells (decide (place + 1 = 0)) _ items := hafter
      obtain ⟨after, hothers, hclose⟩ :=
        ih hothers (Nat.le_of_succ_le_succ hlength) (gives_tail_iff.mp hvalues)
      refine ⟨after, ?_, hclose⟩
      simp only [List.append_assoc, List.cons_append, List.nil_append] at hread ⊢
      rw [positions, hnext]
      dsimp only
      rw [hread]
      dsimp only
      rw [hothers]
      rfl

end Lists

/-! ## Objects and lists -/

section Read
variable {name : String} {values : τ}

/-- **A record that is read** is the text of a term that describes its values. -/
theorem exists_of_read (schema : Schema fields) (h : fields.read name text = .ok (values, rest)) :
    ∃ before body term, Blanks before ∧ text = before ++ (body ++ rest) ∧ Spells body term ∧
      schema.Describes term values := by
  unfold Fields.read at h
  split at h
  · rename_i behind hskip
    obtain ⟨before, hbefore, rfl⟩ := exists_blanks_of_skipBlank_eq hskip
    split at h
    · cases h
    · rename_i knowns after hmembers
      split at h
      · cases h
      · rename_i found hcomplete
        obtain ⟨rfl, rfl⟩ := Prod.mk.inj (Except.ok.inj h)
        obtain ⟨inner, entries, rfl, hitems, hrecord, htakes⟩ := exists_of_members schema hmembers
        refine ⟨before, _, _, hbefore, ?_, .object hitems, hrecord,
          gives_iff_takes.mpr ⟨knowns, htakes, hcomplete⟩⟩
        simp only [List.append_assoc, List.cons_append, List.nil_append]
  · rename_i behind hskip
    obtain ⟨before, hbefore, rfl⟩ := exists_blanks_of_skipBlank_eq hskip
    dsimp only at h
    split at h
    · cases h
    · rename_i found after hpositions
      obtain ⟨last, hclose, hpair⟩ := map_eq_ok_iff.mp h
      obtain ⟨rfl, rfl⟩ := Prod.mk.inj hpair
      obtain ⟨inner, items, rfl, hitems, hlength, hgives⟩ :=
        exists_of_positions schema hpositions hclose
      refine ⟨before, _, _, hbefore, ?_, .list hitems, hlength, hgives⟩
      simp only [List.append_assoc, List.cons_append, List.nil_append]
  · cases h

/-- **A term that describes the values of a record** is read as these. -/
theorem read_of_describes {before body : List Char} {term : Term} (hbefore : Blanks before)
    (hbody : Spells body term) (h : schema.Describes term values) (rest : List Char) :
    fields.read name (before ++ (body ++ rest)) = .ok (values, rest) := by
  obtain ⟨hrecord, hgives⟩ := h
  cases hbody with
  | @object inner entries hitems =>
    obtain ⟨knowns, htakes, hcomplete⟩ := gives_iff_takes.mp hgives
    have hskip := skipBlank_blanks hbefore (show isBlank '\x7b' = false by decide)
      (inner ++ '\x7d' :: rest)
    simp only [List.append_assoc, List.cons_append, List.nil_append, Fields.read, hskip,
      members_of_takes hitems hrecord htakes, hcomplete]
  | @list inner items hitems =>
    have hskip := skipBlank_blanks hbefore (show isBlank '[' = false by decide)
      (inner ++ ']' :: rest)
    obtain ⟨after, hpositions, hclose⟩ : ∃ after, positions
        ("struct " ++ name ++ " with " ++ elementCount fields.count) fields 0
        (inner ++ ']' :: rest) = .ok (values, after) ∧ closeList after = .ok rest :=
      positions_of_gives (show Items Spells (decide (0 = 0)) inner items from hitems) hrecord
        hgives rest
    simp only [List.append_assoc, List.cons_append, List.nil_append, Fields.read, hskip,
      hpositions, hclose]
    rfl
  | _ => exact absurd hrecord id

end Read

/-! ## Written records -/

section Write

/-- A key that is none of the record's is not written. -/
theorem under_eq_nil {key : String} {values : τ} {entries : List (RawString × Term)}
    (h : List.Forall₂ WritesMember (fields.encode values) entries) (hkey : key ∉ fields.keys) :
    under key entries = [] := by
  induction fields generalizing entries with
  | nil =>
    cases h
    rfl
  | cons own format default others ih =>
    obtain ⟨value, values⟩ := values
    obtain _ | @⟨_, ⟨raw, term⟩, _, entries, hentry, hentries⟩ := h
    have hne : own.toList ≠ key.toList := by
      intro heq
      exact hkey (String.toList_inj.mp heq ▸ List.mem_cons_self)
    have hothers : key ∉ others.keys := fun hmem => hkey (List.mem_cons_of_mem _ hmem)
    rw [← List.singleton_append, under_append, under_singleton_of_ne hentry.name hne,
      ih hentries hothers]
    rfl

/-- **The values of a record are written as members that give them.** -/
theorem exists_entries (schema : Schema fields) (values : τ) (place : Nat) :
    ∃ entries, List.Forall₂ WritesMember (fields.encode values) entries ∧
      schema.Gives (fun key _ => under key entries) place values := by
  induction schema generalizing place with
  | nil => exact ⟨[], .nil, trivial⟩
  | @cons _ _ _ own _ _ _ means hformat hkey schema ih =>
    obtain ⟨value, values⟩ := values
    obtain ⟨term, hwrites, hvalue⟩ := hformat.writes value
    obtain ⟨raw, hquoted, hraw⟩ := exists_raw_quote own.toList
    obtain ⟨entries, hentries, hvalues⟩ := ih values (place + 1)
    refine ⟨[(raw, term)] ++ entries, .cons ⟨hquoted, hraw, hwrites⟩ hentries, ?_, ?_⟩
    · dsimp only
      rw [under_append, under_singleton_of_eq hraw rfl, under_eq_nil hentries hkey]
      exact .once hvalue
    · refine gives_congr hvalues ?_
      intro key hmem other hle
      have hne : own.toList ≠ key.toList := by
        intro heq
        exact hkey (String.toList_inj.mp heq ▸ hmem)
      rw [under_append, under_singleton_of_ne hraw hne]
      rfl

end Write

end Fields.Schema

namespace Format

section Record
variable {σ τ α : Type} {name : String} {fields : Fields σ τ} {ofValues : τ → α}
  {toValues : α → τ}

/-- **Records follow their schema.** -/
theorem record_follows (schema : fields.Schema)
    (hvalues : ∀ value, ofValues (toValues value) = value) :
    (record name fields ofValues toValues).Follows
      (fun term value => ∃ values, schema.Describes term values ∧ ofValues values = value) where
  reads :=
    { sound := by
        intro text rest value h
        obtain ⟨⟨values, after⟩, hread, hpair⟩ := map_eq_ok_iff.mp h
        obtain ⟨rfl, rfl⟩ := Prod.mk.inj hpair
        obtain ⟨before, body, term, hbefore, htext, hbody, hdescribes⟩ :=
          Fields.Schema.exists_of_read schema hread
        exact ⟨before, body, term, hbefore, htext, hbody, values, hdescribes, rfl⟩
      complete := by
        rintro before body rest term _ hbefore hbody ⟨values, hdescribes, rfl⟩ -
        have hread : fields.read name (before ++ (body ++ rest)) = .ok (values, rest) :=
          Fields.Schema.read_of_describes hbefore hbody hdescribes rest
        exact congrArg (Except.map _) hread }
  writes value := by
    obtain ⟨entries, hentries, hgives⟩ := schema.exists_entries (toValues value) 0
    exact ⟨.object entries, writes_object hentries, toValues value,
      ⟨exists_name_of_mem hentries, hgives⟩, hvalues value⟩

end Record

end Format

end LiveRoom.Json
