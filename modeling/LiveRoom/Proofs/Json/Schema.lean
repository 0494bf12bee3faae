import LiveRoom.Proofs.Json.Written

/-!
# What the fields of a record are given

A record is given as an object or as a list.  What it gives for a field (`Term.given`) are
the values under the field's key, in the one case, and the value at its place, in the other.
The field's value is then the meaning of what is given once, or its default if nothing is
given (`Given`); a key that is given twice gives no value.  Keys of no field do not matter,
nor does the order of the members.

A `Schema` has the relations that the fields of a record follow, and `Schema.Describes` puts
them together.

While an object is being read, each of its members adds to what is known (`Schema.Takes`).
That relation can be cut between any two members, so it is enough to know what one member
does: it is read exactly if it is taken (`Schema.takes_of_member`,
`Schema.member_of_takes`).
-/

namespace LiveRoom.Json

/-! ## What a record gives -/

/-- The values under a key. -/
def under (key : String) (members : List (RawString × Term)) : List Term :=
  (members.filter fun member => member.1.value? = some key.toList).map (·.2)

/-- **What a record gives for a field**: in an object the values under its key, in a list the
value at its place. -/
def Term.given : Term → (key : String) → (place : Nat) → List Term
  | .object members, key, _ => under key members
  | .list items, _, place => items[place]?.toList
  | _, _, _ => []

/-- **A record of so many fields**: an object whose keys stand for characters, or a list that
is not longer. -/
def Term.IsRecord (count : Nat) : Term → Prop
  | .object members => ∀ member ∈ members, ∃ name, member.1.value? = some name
  | .list items => items.length ≤ count
  | _ => False

/-- **The value of a field**: the meaning of what is given once, or the default of what is not
given. -/
inductive Given {α : Type} (means : Term → α → Prop) (default : Option α) :
    List Term → α → Prop where
  | missing {value : α} (h : default = some value) : Given means default [] value
  | once {term : Term} {value : α} (h : means term value) : Given means default [term] value

namespace Fields

def keys {σ τ : Type} : Fields σ τ → List String
  | .nil => []
  | .cons key _ _ others => key :: others.keys

/-- **The relations that the fields of a record follow**, one for each; no two fields have
the same key. -/
inductive Schema : {σ τ : Type} → Fields σ τ → Type 1 where
  | nil : Schema .nil
  | cons {σ τ α : Type} {key : String} {format : Format α} {default : Option α}
      {others : Fields σ τ} (means : Term → α → Prop) (hformat : format.Follows means)
      (hkey : key ∉ others.keys) (schema : Schema others) :
      Schema (.cons key format default others)

namespace Schema

/-- Each field has the value that is given for it. -/
def Gives {σ τ : Type} {fields : Fields σ τ} : Schema fields →
    (given : String → Nat → List Term) → (place : Nat) → τ → Prop
  | .nil, _, _, _ => True
  | @cons _ _ _ key _ default _ means _ _ schema, given, place, (value, values) =>
    Given means default (given key place) value ∧ schema.Gives given (place + 1) values

/-- **A term describes the values of a record.** -/
structure Describes {σ τ : Type} {fields : Fields σ τ} (schema : Schema fields) (term : Term)
    (values : τ) : Prop where
  record : term.IsRecord fields.count
  gives : schema.Gives term.given 0 values

/-- Only the keys of the fields matter, and the places from the first one on. -/
theorem gives_congr {σ τ : Type} {fields : Fields σ τ} {schema : Schema fields}
    {given given' : String → Nat → List Term} {place : Nat} {values : τ}
    (h : schema.Gives given place values)
    (heq : ∀ key ∈ fields.keys, ∀ other, place ≤ other → given key other = given' key other) :
    schema.Gives given' place values := by
  induction schema generalizing place with
  | nil => trivial
  | cons means hformat hkey schema ih =>
    obtain ⟨hvalue, hvalues⟩ := h
    refine ⟨heq _ List.mem_cons_self place (Nat.le_refl _) ▸ hvalue, ih hvalues ?_⟩
    intro key hmem other hle
    exact heq key (List.mem_cons_of_mem _ hmem) other (Nat.le_of_succ_le hle)

end Schema

end Fields

section Under
variable {key : String} {raw : RawString} {term : Term} {name : List Char}

theorem under_append (key : String) (members members' : List (RawString × Term)) :
    under key (members ++ members') = under key members ++ under key members' := by
  rw [under, List.filter_append, List.map_append]
  rfl

theorem under_singleton_of_eq (hraw : raw.value? = some name) (h : name = key.toList) :
    under key [(raw, term)] = [term] := by
  simp [under, hraw, h]

theorem under_singleton_of_ne (hraw : raw.value? = some name) (h : name ≠ key.toList) :
    under key [(raw, term)] = [] := by
  simp [under, hraw, h]

end Under

/-! ## What is known of a field -/

/-- **What is known of a field** before and after some terms were given for it. -/
inductive Takes {α : Type} (means : Term → α → Prop) :
    Option α → List Term → Option α → Prop where
  | nothing {known : Option α} : Takes means known [] known
  | value {term : Term} {value : α} (h : means term value) : Takes means none [term] (some value)

section Takes
variable {α : Type} {means : Term → α → Prop} {known known' : Option α}

theorem takes_nil_iff : Takes means known [] known' ↔ known' = known := by
  constructor
  · rintro ⟨⟩
    rfl
  · rintro rfl
    exact .nothing

theorem takes_append_iff {given given' : List Term} :
    Takes means known (given ++ given') known' ↔
      ∃ middle, Takes means known given middle ∧ Takes means middle given' known' := by
  cases given with
  | nil =>
    constructor
    · intro h
      exact ⟨known, .nothing, h⟩
    · rintro ⟨middle, hfirst, hsecond⟩
      rw [takes_nil_iff] at hfirst
      exact hfirst ▸ hsecond
  | cons term given =>
    constructor
    · intro h
      obtain ⟨hnone, hnone'⟩ : given = [] ∧ given' = [] := by
        rw [List.cons_append] at h
        generalize hall : given ++ given' = others at h
        cases h
        exact List.append_eq_nil_iff.mp hall
      subst hnone hnone'
      exact ⟨known', h, .nothing⟩
    · rintro ⟨middle, hfirst, hsecond⟩
      obtain _ | ⟨hvalue⟩ := hfirst
      cases hsecond
      exact .value hvalue

/-- A field that nothing was known of ends with the value that is given for it. -/
theorem given_iff_takes {default : Option α} {given : List Term} {value : α} :
    Given means default given value ↔
      ∃ known, Takes means none given known ∧ (known <|> default) = some value := by
  constructor
  · intro h
    cases h with
    | missing h => exact ⟨none, .nothing, h⟩
    | once h => exact ⟨some value, .value h, rfl⟩
  · rintro ⟨known, htakes, hvalue⟩
    cases htakes with
    | nothing => exact .missing hvalue
    | value h =>
      obtain rfl := Option.some.inj hvalue
      exact .once h

end Takes

namespace Fields.Schema

/-- **What is known of the fields** before and after some members. -/
def Takes {σ τ : Type} {fields : Fields σ τ} : Schema fields → σ → List (RawString × Term) →
    σ → Prop
  | .nil, _, _, _ => True
  | @cons _ _ _ key _ _ _ means _ _ schema, (known, knowns), members, (known', knowns') =>
    Json.Takes means known (under key members) known' ∧ schema.Takes knowns members knowns'

variable {σ τ : Type} {fields : Fields σ τ} {schema : Schema fields} {knowns knowns' : σ}

section Takes

theorem takes_nil_iff : schema.Takes knowns [] knowns' ↔ knowns' = knowns := by
  induction schema with
  | nil => exact ⟨fun _ => rfl, fun _ => trivial⟩
  | cons means hformat hkey schema ih =>
    obtain ⟨known, knowns⟩ := knowns
    obtain ⟨known', knowns'⟩ := knowns'
    rw [Prod.mk.injEq]
    exact and_congr Json.takes_nil_iff ih

theorem takes_append_iff {members members' : List (RawString × Term)} :
    schema.Takes knowns (members ++ members') knowns' ↔
      ∃ middle, schema.Takes knowns members middle ∧ schema.Takes middle members' knowns' := by
  induction schema with
  | nil => exact ⟨fun _ => ⟨(), trivial, trivial⟩, fun _ => trivial⟩
  | cons means hformat hkey schema ih =>
    obtain ⟨known, knowns⟩ := knowns
    obtain ⟨known', knowns'⟩ := knowns'
    constructor
    · rintro ⟨hfirst, hothers⟩
      rw [under_append, Json.takes_append_iff] at hfirst
      obtain ⟨middle, hbefore, hbehind⟩ := hfirst
      obtain ⟨middles, hbefores, hbehinds⟩ := ih.mp hothers
      exact ⟨(middle, middles), ⟨hbefore, hbefores⟩, hbehind, hbehinds⟩
    · rintro ⟨⟨middle, middles⟩, ⟨hbefore, hbefores⟩, hbehind, hbehinds⟩
      refine ⟨?_, ih.mpr ⟨middles, hbefores, hbehinds⟩⟩
      rw [under_append, Json.takes_append_iff]
      exact ⟨middle, hbefore, hbehind⟩

/-- **A member whose key is none of the record's changes nothing.** -/
theorem takes_strange_iff {raw : RawString} {name : List Char} {term : Term}
    (hraw : raw.value? = some name) (hname : ∀ key ∈ fields.keys, name ≠ key.toList) :
    schema.Takes knowns [(raw, term)] knowns' ↔ knowns' = knowns := by
  induction schema with
  | nil => exact ⟨fun _ => rfl, fun _ => trivial⟩
  | cons means hformat hkey schema ih =>
    obtain ⟨known, knowns⟩ := knowns
    obtain ⟨known', knowns'⟩ := knowns'
    obtain ⟨hown, hkeys⟩ := List.forall_mem_cons.mp hname
    rw [Takes, under_singleton_of_ne hraw hown, Json.takes_nil_iff, ih hkeys, Prod.mk.injEq]

/-- **The values of a record are complete** exactly if each is given or has a default. -/
theorem gives_iff_takes {members : List (RawString × Term)} {place : Nat} {values : τ} :
    schema.Gives (fun key _ => under key members) place values ↔
      ∃ knowns, schema.Takes fields.unread members knowns ∧
        fields.complete knowns = .ok values := by
  induction schema generalizing place with
  | nil => exact ⟨fun _ => ⟨(), trivial, rfl⟩, fun _ => trivial⟩
  | cons means hformat hkey schema ih =>
    obtain ⟨value, values⟩ := values
    constructor
    · rintro ⟨hvalue, hvalues⟩
      obtain ⟨known, hknown, hcomplete⟩ := given_iff_takes.mp hvalue
      obtain ⟨knowns, hknowns, hcompletes⟩ := ih.mp hvalues
      refine ⟨(known, knowns), ⟨hknown, hknowns⟩, ?_⟩
      rw [complete, hcomplete]
      dsimp only
      rw [hcompletes]
    · rintro ⟨⟨known, knowns⟩, ⟨hknown, hknowns⟩, hcomplete⟩
      unfold complete at hcomplete
      split at hcomplete
      · cases hcomplete
      · rename_i found hfound
        split at hcomplete
        · cases hcomplete
        · rename_i others hothers
          obtain ⟨rfl, rfl⟩ := Prod.mk.inj (Except.ok.inj hcomplete)
          exact ⟨given_iff_takes.mpr ⟨known, hknown, hfound⟩,
            ih.mpr ⟨knowns, hknowns, hothers⟩⟩

end Takes

/-! ## One member -/

/-- The value of a member behind its key, with the colon. -/
def Behind (text rest : List Char) (term : Term) : Prop :=
  ∃ before after body, Blanks before ∧ Blanks after ∧
    text = before ++ ':' :: (after ++ (body ++ rest)) ∧ Spells body term

section Members
variable {text rest name : List Char} {raw : RawString} {term : Term}

/-- A key is looked for among those of the fields. -/
theorem member?_eq_none_iff :
    fields.member? name knowns text = none ↔ ∀ key ∈ fields.keys, name ≠ key.toList := by
  induction fields with
  | nil => exact ⟨fun _ => List.forall_mem_nil _, fun _ => rfl⟩
  | cons own format default others ih =>
    obtain ⟨known, knowns⟩ := knowns
    rw [member?.eq_def, keys, List.forall_mem_cons]
    dsimp only
    by_cases hown : name = own.toList
    · rw [if_pos hown]
      constructor
      · intro h
        split at h
        · cases h
        · split at h <;> cases h
      · rintro ⟨hne, -⟩
        exact absurd hown hne
    · rw [if_neg hown, Option.map_eq_none_iff, ih]
      exact ⟨fun h => ⟨hown, h⟩, And.right⟩

/-- **A known member that is read** is taken. -/
theorem takes_of_member? (schema : Schema fields) (hraw : raw.value? = some name)
    (h : fields.member? name knowns text = some (.ok (knowns', rest))) :
    ∃ term, Behind text rest term ∧ schema.Takes knowns [(raw, term)] knowns' := by
  induction schema with
  | nil => cases h
  | @cons _ _ _ own _ _ _ means hformat hkey schema ih =>
    obtain ⟨known, knowns⟩ := knowns
    rw [member?.eq_def] at h
    dsimp only at h
    split at h
    · rename_i heq
      split at h
      · cases h
      · split at h
        · cases h
        · rename_i behind hcolon
          obtain ⟨⟨value, after⟩, hread, hpair⟩ := map_eq_ok_iff.mp (Option.some.inj h)
          obtain ⟨rfl, rfl⟩ := Prod.mk.inj hpair
          obtain ⟨before, hbefore, rfl⟩ := exists_of_colon hcolon
          obtain ⟨between, body, term, hbetween, rfl, hbody, hvalue⟩ := hformat.reads.sound hread
          refine ⟨term, ⟨before, between, body, hbefore, hbetween, rfl, hbody⟩, ?_, ?_⟩
          · rw [under_singleton_of_eq hraw heq]
            exact .value hvalue
          · -- No other field has this key.
            refine (takes_strange_iff hraw ?_).mpr rfl
            rintro key hmem hname
            exact hkey (String.toList_inj.mp (heq.symm.trans hname) ▸ hmem)
    · rename_i hne
      obtain ⟨read, hread, hmap⟩ := Option.map_eq_some_iff.mp h
      obtain ⟨⟨found, after⟩, hfound, hpair⟩ := map_eq_ok_iff.mp hmap
      obtain ⟨rfl, rfl⟩ := Prod.mk.inj hpair
      obtain ⟨term, hbehind, htakes⟩ := ih (hfound ▸ hread)
      refine ⟨term, hbehind, ?_, htakes⟩
      rw [under_singleton_of_ne hraw hne]
      exact .nothing

/-- **A known member that is taken** is read. -/
theorem member?_of_takes (hraw : raw.value? = some name)
    (hkeys : ∃ key ∈ fields.keys, name = key.toList) (hbehind : Behind text rest term)
    (hrest : Stops rest) (h : schema.Takes knowns [(raw, term)] knowns') :
    fields.member? name knowns text = some (.ok (knowns', rest)) := by
  induction schema with
  | nil =>
    obtain ⟨key, hmem, -⟩ := hkeys
    cases hmem
  | @cons _ _ _ own _ _ _ means hformat hkey schema ih =>
    obtain ⟨known, knowns⟩ := knowns
    obtain ⟨known', knowns'⟩ := knowns'
    obtain ⟨hfirst, hothers⟩ := h
    rw [member?.eq_def]
    dsimp only
    by_cases heq : name = own.toList
    · rw [under_singleton_of_eq hraw heq] at hfirst
      obtain _ | ⟨hvalue⟩ := hfirst
      obtain ⟨before, after, body, hbefore, hafter, rfl, hbody⟩ := hbehind
      have hstrange : knowns' = knowns := by
        refine (takes_strange_iff hraw ?_).mp hothers
        rintro key hmem hname
        exact hkey (String.toList_inj.mp (heq.symm.trans hname) ▸ hmem)
      rw [if_pos heq, colon_blanks hbefore]
      dsimp only
      rw [hformat.reads.complete hafter hbody hvalue hrest, hstrange]
      rfl
    · rw [under_singleton_of_ne hraw heq, Json.takes_nil_iff] at hfirst
      obtain ⟨key, hmem, hname⟩ := hkeys
      have hmem' : key ∈ _ := (List.mem_cons.mp hmem).resolve_left fun h => heq (h ▸ hname)
      rw [if_neg heq, ih ⟨key, hmem', hname⟩ hothers, hfirst]
      rfl

/-- **A member that is read** is taken, whether or not its key is known. -/
theorem takes_of_member (schema : Schema fields) (hraw : raw.value? = some name)
    (h : fields.member name knowns text = .ok (knowns', rest)) :
    ∃ term, Behind text rest term ∧ schema.Takes knowns [(raw, term)] knowns' := by
  unfold member at h
  split at h
  · rename_i read hread
    exact takes_of_member? schema hraw (h ▸ hread)
  · rename_i hnone
    obtain ⟨after, hstrange, hpair⟩ := map_eq_ok_iff.mp h
    obtain ⟨rfl, rfl⟩ := Prod.mk.inj hpair
    unfold strange at hstrange
    split at hstrange
    · cases hstrange
    · rename_i behind hcolon
      obtain ⟨before, hbefore, rfl⟩ := exists_of_colon hcolon
      obtain ⟨between, body, term, hbetween, rfl, hbody⟩ := exists_of_skip hstrange
      exact ⟨term, ⟨before, between, body, hbefore, hbetween, rfl, hbody⟩,
        (takes_strange_iff hraw (member?_eq_none_iff.mp hnone)).mpr rfl⟩

/-- **A member that is taken** is read. -/
theorem member_of_takes (hraw : raw.value? = some name) (hbehind : Behind text rest term)
    (hrest : Stops rest) (h : schema.Takes knowns [(raw, term)] knowns') :
    fields.member name knowns text = .ok (knowns', rest) := by
  by_cases hkeys : ∃ key ∈ fields.keys, name = key.toList
  · rw [member, member?_of_takes hraw hkeys hbehind hrest h]
  · have hstrange : ∀ key ∈ fields.keys, name ≠ key.toList := by
      intro key hmem hname
      exact hkeys ⟨key, hmem, hname⟩
    obtain ⟨before, after, body, hbefore, hafter, rfl, hbody⟩ := hbehind
    rw [member, member?_eq_none_iff.mpr hstrange, (takes_strange_iff hraw hstrange).mp h]
    dsimp only
    rw [strange, colon_blanks hbefore]
    dsimp only
    rw [skip_spells hafter hbody hrest]
    rfl

end Members

end Fields.Schema

end LiveRoom.Json
