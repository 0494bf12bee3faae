import LiveRoom.Proofs.Json.Wanted

/-!
# What is written follows the grammar

A JSON value that is written, pretty or compact, is the text of a term (`Json.Writes`): its
strings are written as pieces that stand for them, its numbers as digits that spell them,
and its containers with blanks and commas where the grammar allows them.

A `Format` says both how a value is written and how it is read.  It follows a relation
between terms and values (`Format.Follows`) if it reads by it and what it writes is a term
that means the value.  Then every value comes back from its text, and different values have
different texts.
-/

namespace LiveRoom

namespace Json

/-- **A value is written as a term**, whichever way it is written. -/
structure Writes (json : Json) (term : Term) : Prop where
  pretty (depth : Nat) : Spells (prettyAt depth json) term
  compact : Spells (compactChars json) term

/-- A member is written as a key with its name and a term. -/
structure WritesMember (member : String × Json) (entry : RawString × Term) : Prop where
  quoted : entry.1.quoted = quote member.1.toList
  name : entry.1.value? = some member.1.toList
  value : Writes member.2 entry.2

/-! ## Scalars -/

theorem writes_null : Writes .null .null := ⟨fun _ => .null, .null⟩

theorem writes_flag (value : Bool) : Writes (.bool value) (.flag value) :=
  ⟨fun _ => .flag value, .flag value⟩

/-- **A string is written as pieces that stand for it.** -/
theorem exists_raw_quote (value : List Char) :
    ∃ raw : RawString, raw.quoted = quote value ∧ raw.value? = some value := by
  obtain ⟨raw, htext, hvalue⟩ := exists_raw_of_readString (readString_quoted value [])
  exact ⟨raw, (congrArg ('"' :: ·) htext).symm, hvalue⟩

theorem exists_writes_string (value : String) :
    ∃ raw : RawString, Writes (.string value) (.string raw) ∧ raw.value? = some value.toList := by
  obtain ⟨raw, hquoted, hvalue⟩ := exists_raw_quote value.toList
  have hspells : Spells (quote value.toList) (.string raw) := hquoted ▸ .string raw
  exact ⟨raw, ⟨fun _ => hspells, hspells⟩, hvalue⟩

/-- The digits of a number start with a zero only if that is all of them. -/
theorem toDigits_eq_zero (n : Nat) (h : (Nat.toDigits 10 n).head? = some '0') :
    Nat.toDigits 10 n = ['0'] := by
  induction n using Nat.strongRecOn with
  | ind n ih =>
    by_cases hn : n < 10
    · rw [Nat.toDigits_of_lt_base hn] at h ⊢
      rw [Option.some.inj h]
    · -- The digits in front of the last one would be a zero already, so there are none.
      have hle : 10 ≤ n := Nat.not_lt.mp hn
      rw [Nat.toDigits_of_base_le (by decide) hle,
        List.head?_append_of_ne_nil _ Nat.toDigits_ne_nil] at h
      have hzero := ih (n / 10) (by omega) h
      have hvalue : Nat.ofDigitChars 10 (Nat.toDigits 10 (n / 10)) 0 = n / 10 :=
        Nat.ofDigitChars_toDigits (by decide) (by decide)
      rw [hzero] at hvalue
      have : n / 10 = 0 := hvalue.symm
      omega

theorem digits_toDigits (n : Nat) : Digits (Nat.toDigits 10 n) :=
  ⟨Nat.toDigits_ne_nil, fun _ => Nat.isDigit_of_mem_toDigits (by decide) (by decide)⟩

theorem toList_toString (n : Int) :
    (toString n).toList = (if n < 0 then ['-'] else []) ++ Nat.toDigits 10 n.natAbs := by
  cases n with
  | ofNat m => exact Nat.toList_repr
  | negSucc m =>
    show ("-" ++ Nat.repr (m + 1)).toList = _
    rw [String.toList_append, Nat.toList_repr, if_pos (Int.negSucc_lt_zero m)]
    rfl

/-- **An integer is written as digits that spell it.** -/
theorem exists_writes_whole (n : Int) :
    ∃ literal : Literal, Writes (whole n) (.number literal) ∧ literal.IsInteger n := by
  let literal : Literal := ⟨decide (n < 0), Nat.toDigits 10 n.natAbs, none, none⟩
  have hnumber : SpellsNumber (toString n).toList literal := by
    have hspelled : SpellsNumber ((if decide (n < 0) = true then ['-'] else []) ++
        (Nat.toDigits 10 n.natAbs ++ ([] ++ []))) literal :=
      .mk (digits_toDigits _) (toDigits_eq_zero _) .none .none
    rw [toList_toString]
    simpa only [decide_eq_true_eq, List.append_nil] using hspelled
  refine ⟨literal, ⟨fun _ => .number hnumber, .number hnumber⟩, rfl, rfl, ?_, ?_⟩
  · have hvalue : Nat.ofDigitChars 10 (Nat.toDigits 10 n.natAbs) 0 = n.natAbs :=
      Nat.ofDigitChars_toDigits (by decide) (by decide)
    simp only [literal, hvalue, decide_eq_true_eq]
    split <;> omega
  · intro hnegative
    have : n < 0 := of_decide_eq_true hnegative
    omega

/-! ## Containers -/

theorem blanks_newline (depth : Nat) : Blanks (newline depth) :=
  fun _ => isBlank_of_mem_newline

theorem prettyItems_eq_flatMap (depth : Nat) (items : List Json) :
    prettyItems depth items =
      items.flatMap fun item => ',' :: (newline depth ++ prettyAt depth item) := by
  induction items with
  | nil => rfl
  | cons item items ih => simp only [prettyItems, ih, List.flatMap_cons, List.cons_append]

theorem prettyMembers_eq_flatMap (depth : Nat) (members : List (String × Json)) :
    prettyMembers depth members =
      members.flatMap fun member => ',' :: (newline depth ++ prettyMember depth member) := by
  induction members with
  | nil => rfl
  | cons member members ih => simp only [prettyMembers, ih, List.flatMap_cons, List.cons_append]

theorem compactItems_eq_flatMap (items : List Json) :
    compactItems items = items.flatMap fun item => ',' :: ([] ++ compactChars item) := by
  induction items with
  | nil => rfl
  | cons item items ih =>
    simp only [compactItems, ih, List.flatMap_cons, List.cons_append, List.nil_append]

theorem compactMembers_eq_flatMap (members : List (String × Json)) :
    compactMembers members = members.flatMap fun member => ',' :: ([] ++ compactMember member) := by
  induction members with
  | nil => rfl
  | cons member members ih =>
    simp only [compactMembers, ih, List.flatMap_cons, List.cons_append, List.nil_append]

section Items
variable {α β : Type} {spells : List Char → α → Prop} {write : β → List Char}
  {between blanks : List Char} {values : List β} {items : List α}

/-- Values after commas are items. -/
theorem items_flatMap (hbetween : Blanks between) (hblanks : Blanks blanks)
    (h : List.Forall₂ (fun value item => spells (write value) item) values items) :
    Items spells false ((values.flatMap fun value => ',' :: (between ++ write value)) ++ blanks)
      items := by
  induction h with
  | nil => exact .none hblanks
  | @cons value item values items hvalue _ ih =>
    have hitem := Items.item (.comma blanks_nil hbetween) hvalue ih
    simpa only [List.flatMap_cons, List.cons_append, List.nil_append, List.append_assoc]
      using hitem

/-- A value and others after commas are the inside of a container. -/
theorem items_cons_flatMap {value : β} {item : α} (hbetween : Blanks between)
    (hblanks : Blanks blanks)
    (h : List.Forall₂ (fun value item => spells (write value) item) (value :: values)
      (item :: items)) :
    Items spells true (between ++ (write value ++
      ((values.flatMap fun value => ',' :: (between ++ write value)) ++ blanks)))
      (item :: items) := by
  obtain ⟨hvalue, hvalues⟩ := List.forall₂_cons.mp h
  exact .item (.blanks hbetween) hvalue (items_flatMap hbetween hblanks hvalues)

end Items

/-- **A list is written as the terms of its items.** -/
theorem writes_array {items : List Json} {terms : List Term}
    (h : List.Forall₂ Writes items terms) : Writes (.array items) (.list terms) := by
  constructor
  · intro depth
    have hitems : List.Forall₂ (fun item term => Spells (prettyAt (depth + 1) item) term) items
        terms := h.imp fun _ _ hitem => hitem.pretty (depth + 1)
    cases h with
    | nil => exact .list (.none blanks_nil)
    | cons _ _ =>
      have hlist := Spells.list
        (items_cons_flatMap (blanks_newline (depth + 1)) (blanks_newline depth) hitems)
      simpa only [prettyAt, prettyItems_eq_flatMap, List.append_assoc, List.cons_append]
        using hlist
  · have hitems : List.Forall₂ (fun item term => Spells (compactChars item) term) items terms :=
      h.imp fun _ _ hitem => hitem.compact
    cases h with
    | nil => exact .list (.none blanks_nil)
    | cons _ _ =>
      have hlist := Spells.list (items_cons_flatMap blanks_nil blanks_nil hitems)
      simpa only [compactChars, compactItems_eq_flatMap, List.append_assoc, List.cons_append,
        List.nil_append, List.append_nil] using hlist

theorem WritesMember.pretty {member : String × Json} {entry : RawString × Term}
    (h : WritesMember member entry) (depth : Nat) :
    Member Spells (prettyMember depth member) entry := by
  have hblank : Blanks [' '] := by
    intro c hc
    rw [List.mem_singleton.mp hc]
    rfl
  obtain ⟨key, value⟩ := member
  obtain ⟨raw, term⟩ := entry
  have hmember : Member Spells _ (raw, term) := .mk blanks_nil hblank (h.value.pretty depth)
  rw [show raw.quoted = quote key.toList from h.quoted] at hmember
  simpa only [prettyMember, List.append_assoc, List.cons_append, List.nil_append] using hmember

theorem WritesMember.compact {member : String × Json} {entry : RawString × Term}
    (h : WritesMember member entry) : Member Spells (compactMember member) entry := by
  obtain ⟨key, value⟩ := member
  obtain ⟨raw, term⟩ := entry
  have hmember : Member Spells _ (raw, term) := .mk blanks_nil blanks_nil h.value.compact
  rw [show raw.quoted = quote key.toList from h.quoted] at hmember
  simpa only [compactMember, List.nil_append] using hmember

/-- The keys that are written stand for characters. -/
theorem exists_name_of_mem {members : List (String × Json)} {entries : List (RawString × Term)}
    (h : List.Forall₂ WritesMember members entries) :
    ∀ entry ∈ entries, ∃ name, entry.1.value? = some name := by
  induction h with
  | nil => exact List.forall_mem_nil _
  | cons hentry _ ih => exact List.forall_mem_cons.mpr ⟨⟨_, hentry.name⟩, ih⟩

/-- **An object is written as the terms of its members.** -/
theorem writes_object {members : List (String × Json)} {entries : List (RawString × Term)}
    (h : List.Forall₂ WritesMember members entries) :
    Writes (.object members) (.object entries) := by
  constructor
  · intro depth
    have hmembers : List.Forall₂
        (fun member entry => Member Spells (prettyMember (depth + 1) member) entry) members
        entries := h.imp fun _ _ hmember => hmember.pretty (depth + 1)
    cases h with
    | nil => exact .object (.none blanks_nil)
    | cons _ _ =>
      have hobject := Spells.object
        (items_cons_flatMap (blanks_newline (depth + 1)) (blanks_newline depth) hmembers)
      simpa only [prettyAt, prettyMembers_eq_flatMap, List.append_assoc, List.cons_append]
        using hobject
  · have hmembers : List.Forall₂ (fun member entry => Member Spells (compactMember member) entry)
        members entries := h.imp fun _ _ hmember => hmember.compact
    cases h with
    | nil => exact .object (.none blanks_nil)
    | cons _ _ =>
      have hobject := Spells.object (items_cons_flatMap blanks_nil blanks_nil hmembers)
      simpa only [compactChars, compactMembers_eq_flatMap, List.append_assoc, List.cons_append,
        List.nil_append, List.append_nil] using hobject

/-! ## Formats -/

/-- **A format follows a relation** between terms and values: it reads by it, and writes
each value as a term that means it. -/
structure Format.Follows {α : Type} (format : Format α) (means : Term → α → Prop) : Prop where
  reads : format.reader.Reads means
  writes (value : α) : ∃ term, Writes (format.encode value) term ∧ means term value

/-- **Every value comes back from its text**, whichever way it is written, and no two values
are written alike. -/
structure Format.RoundTrips {α : Type} (format : Format α) : Prop where
  parse_body (value : α) : format.parse (format.body value) = .ok value
  parse_compact (value : α) : format.parse (format.encode value).compact = .ok value
  body_injective : Function.Injective format.body

namespace Format

theorem text_follows : text.Follows IsText where
  reads := Reader.text_reads
  writes value := by
    obtain ⟨raw, hwrites, hvalue⟩ := exists_writes_string value
    exact ⟨.string raw, hwrites, hvalue⟩

theorem flag_follows : flag.Follows IsFlag where
  reads := Reader.flag_reads
  writes value := ⟨.flag value, writes_flag value, rfl⟩

theorem int32_follows : int32.Follows IsInt32 where
  reads := Reader.int32_reads
  writes value := by
    obtain ⟨literal, hwrites, hvalue⟩ := exists_writes_whole value.toInt
    exact ⟨.number literal, hwrites, hvalue⟩

theorem optionalText_follows : optionalText.Follows IsOptionalText where
  reads := Reader.optionalText_reads
  writes value := by
    cases value with
    | none => exact ⟨.null, writes_null, rfl⟩
    | some value =>
      obtain ⟨raw, hwrites, hvalue⟩ := exists_writes_string value
      exact ⟨.string raw, hwrites, value, rfl, hvalue⟩

variable {α : Type} {format : Format α} {means : Term → α → Prop}

theorem list_follows (h : format.Follows means) : (list format).Follows (IsList means) where
  reads := Reader.list_reads h.reads
  writes values := by
    have hterms : ∃ terms, List.Forall₂ Writes (values.map format.encode) terms ∧
        List.Forall₂ means terms values := by
      induction values with
      | nil => exact ⟨[], .nil, .nil⟩
      | cons value values ih =>
        obtain ⟨term, hwrites, hvalue⟩ := h.writes value
        obtain ⟨terms, hterms, hvalues⟩ := ih
        exact ⟨term :: terms, .cons hwrites hterms, .cons hvalue hvalues⟩
    obtain ⟨terms, hwrites, hvalues⟩ := hterms
    exact ⟨.list terms, writes_array hwrites, hvalues⟩

/-- A choice is written as its name, which must be known and no other's. -/
theorem choice_follows {name : α → String} {known : List α} (hall : ∀ value, value ∈ known)
    (hname : ∀ value other, name value = name other → value = other) :
    (choice name known).Follows (IsChoice (known.map fun value => (name value, value))) where
  reads := Reader.choice_reads
  writes value := by
    obtain ⟨raw, hwrites, hvalue⟩ := exists_writes_string (name value)
    let entries := known.map fun value => (name value, value)
    have hsome : (entries.find? fun entry => entry.1.toList = (name value).toList).isSome := by
      rw [List.find?_isSome]
      exact ⟨(name value, value), List.mem_map.mpr ⟨value, hall value, rfl⟩, by simp⟩
    obtain ⟨entry, hentry⟩ := Option.isSome_iff_exists.mp hsome
    obtain ⟨other, -, rfl⟩ := List.mem_map.mp (List.mem_of_find?_eq_some hentry)
    have hsame : (name other).toList = (name value).toList := by
      simpa using List.find?_some hentry
    exact ⟨.string raw, hwrites, (name value).toList, _, hvalue, hentry,
      hname other value (String.toList_inj.mp hsame)⟩

namespace Follows
variable (h : format.Follows means)
include h

theorem congr {means' : Term → α → Prop}
    (heq : ∀ term value, means term value ↔ means' term value) : format.Follows means' := by
  have hmeans : means = means' := funext fun term => funext fun value => propext (heq term value)
  exact hmeans ▸ h

/-- **A value is read** exactly from the texts of the terms that mean it. -/
theorem parse_eq_ok_iff {text : String} {value : α} :
    format.parse text = .ok value ↔ ∃ term, Document text.toList term ∧ means term value := by
  constructor
  · intro hparse
    unfold parse readWhole at hparse
    split at hparse
    · rename_i found hread
      obtain rfl := Except.ok.inj hparse
      split at hread
      · cases hread
      · rename_i value rest hvalue
        split at hread
        · rename_i hblank
          obtain rfl := Except.ok.inj hread
          obtain ⟨before, body, term, hbefore, htext, hbody, hmeans⟩ := h.reads.sound hvalue
          exact ⟨term, ⟨before, body, rest, hbefore, blanks_of_skipBlank_eq_nil hblank, htext,
            hbody⟩, hmeans⟩
        · cases hread
    · cases hparse
  · rintro ⟨term, ⟨before, body, after, hbefore, hafter, htext, hbody⟩, hmeans⟩
    have hread := h.reads.complete hbefore hbody hmeans hafter.stops
    rw [parse, readWhole, htext, hread]
    dsimp only
    rw [skipBlank_eq_nil_of_blanks hafter]

/-- A term that a value is written as is read back from its text. -/
theorem parse_of_spells {text : List Char} {term : Term} {value : α} (hspells : Spells text term)
    (hmeans : means term value) : format.parse (String.ofList text) = .ok value := by
  refine h.parse_eq_ok_iff.mpr ⟨term, ⟨[], text, [], blanks_nil, blanks_nil, ?_, hspells⟩, hmeans⟩
  rw [String.toList_ofList, List.append_nil, List.nil_append]

theorem parse_body (value : α) : format.parse (format.body value) = .ok value := by
  obtain ⟨term, hwrites, hmeans⟩ := h.writes value
  exact h.parse_of_spells (hwrites.pretty 0) hmeans

theorem parse_compact (value : α) : format.parse (format.encode value).compact = .ok value := by
  obtain ⟨term, hwrites, hmeans⟩ := h.writes value
  exact h.parse_of_spells hwrites.compact hmeans

/-- **A format that follows a relation makes round trips.** -/
theorem roundTrips : format.RoundTrips where
  parse_body := h.parse_body
  parse_compact := h.parse_compact
  body_injective := by
    intro value other heq
    have hparse : format.parse (format.body value) = .ok other := heq ▸ h.parse_body other
    rw [h.parse_body] at hparse
    exact Except.ok.inj hparse

end Follows

end Format

end Json

end LiveRoom
