import LiveRoom.Proofs.Json.Records
import LiveRoom.Proofs.Json.Unique
import Mathlib.Data.List.Perm.Basic

/-!
# Records without defaults

Where no field of a record has a default, nothing may be left out.  The record is then read
from an object in which each of its keys stands once, or from a list of exactly as many
values (`Term.HasFields`), and from nothing else (`Format.record_follows_inFull`).

What a text says is settled by the text alone (`Document.unique`).  So it can also be said
which texts are refused, whatever they would be read as: those in which a key is missing,
stands twice or stands with `null`.  A format for which all of this holds is **strict**
(`Format.IsStrict`).
-/

namespace LiveRoom.Json

/-! ## Fields that are all given -/

/-- **A term has the fields of a record**, each under its key or at its place: an object whose
keys stand for characters, each of the fields once among them, or a list of the fields' values
alone. -/
inductive Term.HasFields : Term → List (String × Term) → Prop where
  | object {members : List (RawString × Term)} {fields : List (String × Term)}
      (hnamed : ∀ member ∈ members, ∃ name, member.1.value? = some name)
      (honce : ∀ field ∈ fields, under field.1 members = [field.2]) :
      HasFields (.object members) fields
  | list {fields : List (String × Term)} : HasFields (.list (fields.map (·.2))) fields

/-- **A record that is given in full.**  `given` says what the fields, with their keys, mean
together. -/
def InFull {α : Type} (given : List (String × Term) → α → Prop) (term : Term) (value : α) :
    Prop :=
  ∃ fields, term.HasFields fields ∧ given fields value

section HasFields
variable {members members' : List (RawString × Term)} {fields : List (String × Term)}

theorem Term.hasFields_object_iff : (Term.object members).HasFields fields ↔
    (∀ member ∈ members, ∃ name, member.1.value? = some name) ∧
      ∀ field ∈ fields, under field.1 members = [field.2] := by
  constructor
  · intro h
    obtain ⟨hnamed, honce⟩ | _ := h
    exact ⟨hnamed, honce⟩
  · rintro ⟨hnamed, honce⟩
    exact .object hnamed honce

theorem Term.hasFields_list_iff {items : List Term} :
    (Term.list items).HasFields fields ↔ items = fields.map (·.2) := by
  constructor
  · rintro ⟨⟩
    rfl
  · rintro rfl
    exact .list

/-- **The order of the members of an object does not matter.** -/
theorem Term.HasFields.perm (h : (Term.object members).HasFields fields)
    (hperm : members.Perm members') : (Term.object members').HasFields fields := by
  obtain ⟨hnamed, honce⟩ := Term.hasFields_object_iff.mp h
  refine .object (fun member hmem => hnamed member (hperm.mem_iff.mpr hmem)) ?_
  intro field hmem
  have hunder : (under field.1 members).Perm (under field.1 members') :=
    (hperm.filter _).map _
  rw [honce field hmem] at hunder
  exact (List.singleton_perm.mp hunder).symm

end HasFields

/-! ## Values that are there -/

theorem IsText.ne_null {term : Term} {value : String} (h : IsText term value) : term ≠ .null := by
  rintro rfl
  exact h

theorem IsList.ne_null {α : Type} {means : Term → α → Prop} {term : Term} {values : List α}
    (h : IsList means term values) : term ≠ .null := by
  rintro rfl
  exact h

theorem InFull.ne_null {α : Type} {given : List (String × Term) → α → Prop} {term : Term}
    {value : α} (h : InFull given term value) : term ≠ .null := by
  rintro rfl
  obtain ⟨_, ⟨⟩, -⟩ := h

/-! ## Schemas of required fields -/

/-- A field without a default is given once. -/
theorem given_none_iff {α : Type} {means : Term → α → Prop} {given : List Term} {value : α} :
    Given means none given value ↔ ∃ term, given = [term] ∧ means term value := by
  constructor
  · rintro (⟨⟨⟩⟩ | ⟨hvalue⟩)
    exact ⟨_, rfl, hvalue⟩
  · rintro ⟨term, rfl, hvalue⟩
    exact .once hvalue

namespace Fields

/-- No field has a default. -/
def Required {σ τ : Type} : Fields σ τ → Prop
  | .nil => True
  | .cons _ _ default others => default = none ∧ others.Required

namespace Schema

/-- **The fields mean the values of a record**, in their order and under their keys. -/
def Means {σ τ : Type} {fields : Fields σ τ} : Schema fields → List (String × Term) → τ → Prop
  | .nil, given, _ => given = []
  | @cons _ _ _ key _ _ _ means _ _ schema, given, (value, values) =>
    ∃ term others, given = (key, term) :: others ∧ means term value ∧ schema.Means others values

variable {σ τ : Type} {fields : Fields σ τ} {schema : Schema fields} {values : τ} {place : Nat}

/-- An object gives required fields exactly if each of them stands in it once. -/
theorem gives_under_iff (hrequired : fields.Required) {members : List (RawString × Term)} :
    schema.Gives (fun key _ => under key members) place values ↔
      ∃ given, (∀ field ∈ given, under field.1 members = [field.2]) ∧
        schema.Means given values := by
  induction schema generalizing place with
  | nil => exact ⟨fun _ => ⟨[], List.forall_mem_nil _, rfl⟩, fun _ => trivial⟩
  | cons means hformat hkey schema ih =>
    obtain ⟨rfl, hothers⟩ := hrequired
    obtain ⟨value, values⟩ := values
    constructor
    · rintro ⟨hvalue, hvalues⟩
      obtain ⟨term, hunder, hvalue⟩ := given_none_iff.mp hvalue
      obtain ⟨given, honce, hmeans⟩ := (ih hothers).mp hvalues
      exact ⟨_ :: given, List.forall_mem_cons.mpr ⟨hunder, honce⟩, term, given, rfl, hvalue,
        hmeans⟩
    · rintro ⟨_, honce, term, given, rfl, hvalue, hmeans⟩
      obtain ⟨hunder, honce⟩ := List.forall_mem_cons.mp honce
      exact ⟨given_none_iff.mpr ⟨term, hunder, hvalue⟩, (ih hothers).mpr ⟨given, honce, hmeans⟩⟩

/-- A list gives required fields exactly if it has their values and no others. -/
theorem gives_places_iff (hrequired : fields.Required) {items : List Term} :
    items.length ≤ fields.count ∧
        schema.Gives (fun _ other => items[other - place]?.toList) place values ↔
      ∃ given, items = given.map (·.2) ∧ schema.Means given values := by
  induction schema generalizing place items with
  | nil =>
    constructor
    · rintro ⟨hlength, -⟩
      exact ⟨[], List.eq_nil_of_length_eq_zero (Nat.le_zero.mp hlength), rfl⟩
    · rintro ⟨_, rfl, rfl⟩
      exact ⟨Nat.le_refl _, trivial⟩
  | cons means hformat hkey schema ih =>
    obtain ⟨rfl, hothers⟩ := hrequired
    obtain ⟨value, values⟩ := values
    constructor
    · rintro ⟨hlength, hvalue, hvalues⟩
      dsimp only at hvalue
      rw [Nat.sub_self] at hvalue
      obtain ⟨term, hterm, hmeaning⟩ := given_none_iff.mp hvalue
      cases items with
      | nil => cases hterm
      | cons item items =>
        obtain rfl : item = term := (List.cons.inj hterm).1
        obtain ⟨given, rfl, hmeans⟩ :=
          (ih hothers).mp ⟨Nat.le_of_succ_le_succ hlength, gives_tail_iff.mp hvalues⟩
        exact ⟨_ :: given, rfl, item, given, rfl, hmeaning, hmeans⟩
    · rintro ⟨_, rfl, term, given, rfl, hvalue, hmeans⟩
      obtain ⟨hlength, hvalues⟩ := (ih hothers).mpr ⟨given, rfl, hmeans⟩
      refine ⟨Nat.succ_le_succ hlength, ?_, gives_tail_iff.mpr hvalues⟩
      dsimp only
      rw [Nat.sub_self]
      exact given_none_iff.mpr ⟨term, rfl, hvalue⟩

/-- **A record without defaults is described by the terms that have all of its fields.** -/
theorem describes_iff (hrequired : fields.Required) {term : Term} :
    schema.Describes term values ↔ InFull schema.Means term values := by
  constructor
  · rintro ⟨hrecord, hgives⟩
    cases term with
    | object members =>
      obtain ⟨given, honce, hmeans⟩ := (gives_under_iff hrequired).mp hgives
      exact ⟨given, .object hrecord honce, hmeans⟩
    | list items =>
      have hplaces : schema.Gives (fun _ other => items[other - 0]?.toList) 0 values := hgives
      obtain ⟨given, rfl, hmeans⟩ := (gives_places_iff hrequired).mp ⟨hrecord, hplaces⟩
      exact ⟨given, .list, hmeans⟩
    | _ => exact absurd hrecord id
  · rintro ⟨given, hfields, hmeans⟩
    cases hfields with
    | object hnamed honce =>
      exact ⟨hnamed, (gives_under_iff hrequired).mpr ⟨given, honce, hmeans⟩⟩
    | list =>
      obtain ⟨hlength, hgives⟩ : _ ∧
          schema.Gives (fun _ other => (given.map (·.2))[other - 0]?.toList) 0 values :=
        (gives_places_iff hrequired).mpr ⟨given, rfl, hmeans⟩
      exact ⟨hlength, hgives⟩

end Schema

end Fields

/-! ## Strict formats -/

namespace Format

/-- **Records without defaults are read in full.**  `given` is what their fields mean, said of
the record itself. -/
theorem record_follows_inFull {σ τ α : Type} {name : String} {fields : Fields σ τ}
    {ofValues : τ → α} {toValues : α → τ} {given : List (String × Term) → α → Prop}
    (schema : fields.Schema) (hrequired : fields.Required)
    (hvalues : ∀ value, ofValues (toValues value) = value)
    (hgiven : ∀ terms values, schema.Means terms values ↔ given terms (ofValues values)) :
    (record name fields ofValues toValues).Follows (InFull given) := by
  refine (record_follows schema hvalues).congr ?_
  intro term value
  constructor
  · rintro ⟨values, hdescribes, rfl⟩
    obtain ⟨terms, hfields, hmeans⟩ := (Fields.Schema.describes_iff hrequired).mp hdescribes
    exact ⟨terms, hfields, (hgiven terms values).mp hmeans⟩
  · rintro ⟨terms, hfields, hmeans⟩
    rw [← hvalues value] at hmeans
    exact ⟨toValues value, (Fields.Schema.describes_iff hrequired).mpr
      ⟨terms, hfields, (hgiven terms _).mpr hmeans⟩, hvalues value⟩

/-- **A format is strict.**  A text is read exactly if it is an object in which each field is
given once, or a list of the fields' values; the order of the members of an object does not
matter.  A field that is missing, given twice or `null` is refused, and so is a list that is
too short, too long or has a `null` in it. -/
structure IsStrict {α : Type} (format : Format α) (keys : List String)
    (given : List (String × Term) → α → Prop) : Prop where
  parse_eq_ok_iff (text : String) (value : α) : format.parse text = .ok value ↔
    ∃ term fields, Document text.toList term ∧ term.HasFields fields ∧
      fields.map (·.1) = keys ∧ given fields value
  parse_eq_of_perm {text text' : String} {members members' : List (RawString × Term)} {value : α}
    (h : Document text.toList (.object members)) (h' : Document text'.toList (.object members'))
    (hperm : members.Perm members') (hparse : format.parse text = .ok value) :
    format.parse text' = .ok value
  once_of_parse {text : String} {members : List (RawString × Term)} {value : α}
    (h : Document text.toList (.object members)) (hparse : format.parse text = .ok value) :
    ∀ key ∈ keys, ∃ term, under key members = [term] ∧ term ≠ .null
  places_of_parse {text : String} {items : List Term} {value : α}
    (h : Document text.toList (.list items)) (hparse : format.parse text = .ok value) :
    items.length = keys.length ∧ ∀ term ∈ items, term ≠ .null

/-- **A format that reads records in full is strict**, if none of its fields may be `null`. -/
theorem Follows.isStrict {α : Type} {format : Format α}
    {given : List (String × Term) → α → Prop} {keys : List String}
    (h : format.Follows (InFull given))
    (hgiven : ∀ fields value, given fields value →
      fields.map (·.1) = keys ∧ ∀ field ∈ fields, field.2 ≠ .null) :
    format.IsStrict keys given := by
  -- What a text says is settled, so that is what it was read as.
  have hread : ∀ {text : String} {term : Term} {value : α}, Document text.toList term →
      format.parse text = .ok value → InFull given term value := by
    intro text term value hdocument hparse
    obtain ⟨found, hfound, hfull⟩ := h.parse_eq_ok_iff.mp hparse
    exact hfound.unique hdocument ▸ hfull
  constructor
  · intro text value
    rw [h.parse_eq_ok_iff]
    constructor
    · rintro ⟨term, hdocument, fields, hfields, hmeans⟩
      exact ⟨term, fields, hdocument, hfields, (hgiven fields value hmeans).1, hmeans⟩
    · rintro ⟨term, fields, hdocument, hfields, -, hmeans⟩
      exact ⟨term, hdocument, fields, hfields, hmeans⟩
  · intro text text' members members' value hdocument hdocument' hperm hparse
    obtain ⟨fields, hfields, hmeans⟩ := hread hdocument hparse
    exact h.parse_eq_ok_iff.mpr ⟨_, hdocument', fields, hfields.perm hperm, hmeans⟩
  · intro text members value hdocument hparse key hkey
    obtain ⟨fields, hfields, hmeans⟩ := hread hdocument hparse
    obtain ⟨-, honce⟩ := Term.hasFields_object_iff.mp hfields
    obtain ⟨rfl, hnull⟩ := hgiven fields value hmeans
    obtain ⟨field, hmem, rfl⟩ := List.mem_map.mp hkey
    exact ⟨field.2, honce field hmem, hnull field hmem⟩
  · intro text items value hdocument hparse
    obtain ⟨fields, hfields, hmeans⟩ := hread hdocument hparse
    obtain rfl := Term.hasFields_list_iff.mp hfields
    obtain ⟨rfl, hnull⟩ := hgiven fields value hmeans
    exact ⟨by rw [List.length_map, List.length_map], List.forall_mem_map.mpr hnull⟩

end Format

end LiveRoom.Json
