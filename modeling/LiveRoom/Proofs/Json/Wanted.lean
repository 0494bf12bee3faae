import LiveRoom.Proofs.Json.Unwanted
import Mathlib.Data.List.Forall2

/-!
# Wanted values

A reader of wanted values is described by what it takes a value to mean: a relation between
terms and the values of its type.  It reads by that relation (`Reader.Reads`) if what it
takes off the head of a text is always the text of a term with that meaning, and if every
such text is taken, with what follows it left over.

Strings, truth values, integers, lists and choices are read by the relations `IsText`,
`IsFlag`, `IsInt32`, `IsList` and `IsChoice`.  Readers of larger values are made of readers
of smaller ones, and so are the proofs.
-/

namespace LiveRoom.Json

/-- **A reader reads by a relation**: it takes exactly the texts of the terms with a
meaning, and returns that meaning. -/
structure Reader.Reads {α : Type} (reader : Reader α) (means : Term → α → Prop) : Prop where
  sound {text rest : List Char} {value : α} (h : reader.read text = .ok (value, rest)) :
    ∃ before body term, Blanks before ∧ text = before ++ (body ++ rest) ∧ Spells body term ∧
      means term value
  complete {before body rest : List Char} {term : Term} {value : α} (hbefore : Blanks before)
    (hbody : Spells body term) (h : means term value) (hrest : Stops rest) :
    reader.read (before ++ (body ++ rest)) = .ok (value, rest)

/-! ## Meanings -/

/-- A string that stands for a text. -/
def IsText : Term → String → Prop
  | .string raw, value => raw.value? = some value.toList
  | _, _ => False

/-- A string, or `null` for none. -/
def IsOptionalText : Term → Option String → Prop
  | .null, value => value = none
  | term, value => ∃ text, value = some text ∧ IsText term text

/-- A truth value. -/
def IsFlag : Term → Bool → Prop
  | .flag found, value => found = value
  | _, _ => False

/-- An integer of 32 bits, without point and exponent. -/
def IsInt32 : Term → Int32 → Prop
  | .number literal, value => literal.IsInteger value.toInt
  | _, _ => False

/-- A list of values with a meaning. -/
def IsList {α : Type} (means : Term → α → Prop) : Term → List α → Prop
  | .list items, values => List.Forall₂ means items values
  | _, _ => False

/-- A string that is one of the known names. -/
def Names {α : Type} (known : List (String × α)) (raw : RawString) (value : α) : Prop :=
  ∃ name entry, raw.value? = some name ∧
    (known.find? fun entry => entry.1.toList = name) = some entry ∧ entry.2 = value

/-- One of the known names, alone or as the only key of an object that holds `null`. -/
def IsChoice {α : Type} (known : List (String × α)) : Term → α → Prop
  | .string raw, value => Names known raw value
  | .object [(raw, .null)], value => Names known raw value
  | _, _ => False

/-- An object that is a choice has one key, which names it. -/
theorem IsChoice.exists_key {α : Type} {known : List (String × α)}
    {members : List (RawString × Term)} {value : α} (h : IsChoice known (.object members) value) :
    ∃ raw, members = [(raw, .null)] ∧ Names known raw value := by
  cases members with
  | nil => exact absurd h id
  | cons member others =>
    obtain ⟨raw, term⟩ := member
    cases term with
    | null =>
      cases others with
      | nil => exact ⟨raw, rfl, h⟩
      | cons => exact absurd h id
    | _ => exact absurd h id

variable {text rest : List Char} {first : Bool}

/-! ## Scalars -/

namespace Reader

/-- **Strings** are read. -/
theorem text_reads : Reads Reader.text IsText where
  sound := by
    intro text rest value h
    change readText text = _ at h
    unfold readText at h
    split at h
    · rename_i behind hskip
      obtain ⟨before, hbefore, rfl⟩ := exists_blanks_of_skipBlank_eq hskip
      obtain ⟨⟨characters, after⟩, hread, heq⟩ := map_eq_ok_iff.mp h
      obtain ⟨rfl, rfl⟩ := Prod.mk.inj heq
      obtain ⟨raw, rfl, hvalue⟩ := exists_raw_of_readString hread
      refine ⟨before, raw.quoted, .string raw, hbefore, ?_, .string raw, ?_⟩
      · rw [raw.quoted_append]
      · rw [IsText, String.toList_ofList]
        exact hvalue
    · cases h
  complete := by
    intro before body rest term value hbefore hbody h hrest
    cases hbody with
    | string raw =>
      change readText _ = _
      simp only [readText, skipBlank_quoted hbefore, readString_raw h, Except.map,
        String.ofList_toList]
    | _ => exact absurd h id

/-- A word that is read stands behind blanks. -/
theorem exists_of_word {α : Type} {c : Char} {word behind : List Char} {found value : α}
    (hskip : skipBlank text = c :: behind)
    (h : (literal word behind).map (fun rest => (found, rest)) = .ok (value, rest)) :
    found = value ∧ ∃ before, Blanks before ∧ text = before ++ (c :: word ++ rest) := by
  obtain ⟨before, hbefore, rfl⟩ := exists_blanks_of_skipBlank_eq hskip
  obtain ⟨after, hword, heq⟩ := map_eq_ok_iff.mp h
  obtain ⟨rfl, rfl⟩ := Prod.mk.inj heq
  rw [eq_append_of_literal hword]
  exact ⟨rfl, before, hbefore, rfl⟩

/-- **Truth values** are read. -/
theorem flag_reads : flag.Reads IsFlag where
  sound := by
    intro text rest value h
    change readFlag text = _ at h
    unfold readFlag at h
    split at h
    · rename_i behind hskip
      obtain ⟨rfl, before, hbefore, rfl⟩ := exists_of_word hskip h
      exact ⟨before, flagWord true, .flag true, hbefore, rfl, .flag true, rfl⟩
    · rename_i behind hskip
      obtain ⟨rfl, before, hbefore, rfl⟩ := exists_of_word hskip h
      exact ⟨before, flagWord false, .flag false, hbefore, rfl, .flag false, rfl⟩
    · cases h
  complete := by
    intro before body rest term value hbefore hbody h hrest
    cases hbody with
    | flag found =>
      obtain rfl : found = value := h
      change readFlag _ = _
      cases found with
      | true =>
        have hskip : skipBlank (before ++ (flagWord true ++ rest)) =
            't' :: (['r', 'u', 'e'] ++ rest) := skipBlank_blanks hbefore (by decide) _
        simp only [readFlag, hskip, literal_append, Except.map]
      | false =>
        have hskip : skipBlank (before ++ (flagWord false ++ rest)) =
            'f' :: (['a', 'l', 's', 'e'] ++ rest) := skipBlank_blanks hbefore (by decide) _
        simp only [readFlag, hskip, literal_append, Except.map]
    | _ => exact absurd h id

/-- **A string or `null`** is read. -/
theorem optionalText_reads : optionalText.Reads IsOptionalText where
  sound := by
    intro text rest value h
    change readOptionalText text = _ at h
    unfold readOptionalText at h
    split at h
    · rename_i behind hskip
      obtain ⟨rfl, before, hbefore, rfl⟩ := exists_of_word hskip h
      exact ⟨before, _, .null, hbefore, rfl, .null, rfl⟩
    · obtain ⟨⟨found, after⟩, hread, heq⟩ := map_eq_ok_iff.mp h
      obtain ⟨rfl, rfl⟩ := Prod.mk.inj heq
      obtain ⟨before, hbefore, htext⟩ := exists_blanks_of_skipBlank text
      obtain ⟨between, body, term, hbetween, hrest, hbody, hfound⟩ := text_reads.sound hread
      refine ⟨before ++ between, body, term, hbefore.append hbetween, ?_, hbody, ?_⟩
      · rw [htext, hrest, List.append_assoc]
      · cases term with
        | string raw => exact ⟨found, rfl, hfound⟩
        | _ => exact absurd hfound id
  complete := by
    intro before body rest term value hbefore hbody h hrest
    change readOptionalText _ = _
    cases hbody with
    | null =>
      obtain rfl : value = none := h
      have hskip : skipBlank (before ++ (['n', 'u', 'l', 'l'] ++ rest)) =
          'n' :: (['u', 'l', 'l'] ++ rest) := skipBlank_blanks hbefore (by decide) _
      simp only [readOptionalText, hskip, literal_append, Except.map]
    | string raw =>
      obtain ⟨found, rfl, hfound⟩ := h
      have hread : readText (raw.quoted ++ rest) = .ok (found, rest) :=
        text_reads.complete blanks_nil (.string raw) hfound hrest
      rw [raw.quoted_append] at hread
      rw [readOptionalText, skipBlank_quoted hbefore]
      show (readText _).map _ = _
      rw [hread]
      rfl
    | _ =>
      obtain ⟨_, -, hfound⟩ := h
      exact absurd hfound id

/-- A number is an integer of 32 bits exactly if it is the value of one. -/
theorem int32Of_eq_ok_iff {number : Number} {n : Int32} :
    int32Of number = .ok n ↔ number = .whole n.toInt := by
  have hlow := Int32.minValue_le_toInt n
  have hhigh := Int32.toInt_le n
  constructor
  · intro h
    unfold int32Of at h
    split at h
    · rename_i m
      split at h
      · rename_i hfits
        obtain rfl := Except.ok.inj h
        simp only [Bool.and_eq_true, decide_eq_true_eq, Int32.toInt_minValue,
          Int32.toInt_maxValue] at hfits
        rw [Int32.toInt_ofInt_of_le hfits.1 (by omega)]
      · cases h
    · cases h
  · rintro rfl
    have hfits : (decide (Int32.minValue.toInt ≤ n.toInt) &&
        decide (n.toInt ≤ Int32.maxValue.toInt)) = true := by
      rw [decide_eq_true hlow, decide_eq_true hhigh]
      rfl
    rw [int32Of, if_pos hfits, Int32.ofInt_toInt]

/-- **Integers of 32 bits** are read. -/
theorem int32_reads : int32.Reads IsInt32 where
  sound := by
    intro text rest value h
    change readInt32 text = _ at h
    unfold readInt32 at h
    split at h
    · cases h
    · rename_i c behind hskip
      obtain ⟨before, hbefore, rfl⟩ := exists_blanks_of_skipBlank_eq hskip
      split at h
      · split at h
        · cases h
        · rename_i number after hnumber
          split at h
          · rename_i n hn
            obtain ⟨rfl, rfl⟩ := Prod.mk.inj (Except.ok.inj h)
            obtain ⟨body, literal, htext, hbody, hvalue⟩ := exists_of_readNumber hnumber
            rw [int32Of_eq_ok_iff.mp hn] at hvalue
            exact ⟨before, body, .number literal, hbefore, by rw [htext], .number hbody,
              (Literal.value_eq_whole_iff.mp hvalue).1⟩
          · cases h
      · cases h
  complete := by
    intro before body rest term value hbefore hbody h hrest
    cases hbody with
    | @number _ literal hnumber =>
      have hlow := Int32.minValue_le_toInt value
      have hhigh := Int32.toInt_le value
      rw [Int32.toInt_minValue] at hlow
      rw [Int32.toInt_maxValue] at hhigh
      have hvalue : literal.value rest = .ok (.whole value.toInt) :=
        Literal.value_eq_whole_iff.mpr ⟨h, by omega, by omega⟩
      have hread := readNumber_number hnumber hvalue hrest
      obtain ⟨c, behind, rfl, hc⟩ := hnumber.exists_cons
      obtain ⟨_, _, heq, hblank, -, -⟩ := (Spells.number hnumber).exists_cons
      obtain ⟨rfl, -⟩ := List.cons.inj heq
      change readInt32 _ = _
      rw [readInt32, List.cons_append, skipBlank_blanks hbefore hblank]
      dsimp only
      rw [if_pos hc, ← List.cons_append, hread]
      dsimp only
      rw [int32Of_eq_ok_iff.mpr rfl]
    | _ => exact absurd h id

/-! ## Lists -/

section Elements
variable {α : Type} {element : Reader α} {means : Term → α → Prop}

/-- The elements that are read are the items up to the closing bracket. -/
theorem exists_of_elements (helement : element.Reads means) {values : List α}
    (h : elements element first text = .ok (values, rest)) :
    ∃ others items, text = others ++ ']' :: rest ∧ Items Spells first others items ∧
      List.Forall₂ means items values := by
  fun_induction elements element first text generalizing values with
  | case1 => cases h
  | case2 first text after hnext =>
    obtain ⟨rfl, rfl⟩ := Prod.mk.inj (Except.ok.inj h)
    obtain ⟨before, behind, hbefore, rfl, rfl⟩ := exists_of_nextElement_false hnext
    exact ⟨before, [], rfl, .none hbefore, .nil⟩
  | case3 => cases h
  | case4 first text middle hnext value after hread _ _ ih =>
    obtain ⟨⟨values, last⟩, hothers, heq⟩ := map_eq_ok_iff.mp h
    obtain ⟨rfl, rfl⟩ := Prod.mk.inj heq
    obtain ⟨separator, hseparator, rfl⟩ := exists_of_nextElement_true hnext
    obtain ⟨before, body, term, hbefore, rfl, hbody, hvalue⟩ := helement.sound hread
    obtain ⟨others, items, rfl, hitems, hvalues⟩ := ih hothers
    refine ⟨_, _, ?_, .item (hseparator.append_blanks hbefore) hbody hitems,
      .cons hvalue hvalues⟩
    simp only [List.append_assoc]

theorem elements_items (helement : element.Reads means) {others : List Char}
    {items : List Term} {values : List α} (h : Items Spells first others items)
    (hvalues : List.Forall₂ means items values) (rest : List Char) :
    elements element first (others ++ ']' :: rest) = .ok (values, rest) := by
  induction hvalues generalizing first others with
  | nil =>
    obtain ⟨hblanks⟩ := h
    exact elements_of_close (nextElement_blanks hblanks rest)
  | @cons item value items values hvalue hvalues ih =>
    obtain _ | @⟨_, separator, body, others, _, _, hseparator, hbody, hothers⟩ := h
    have hstops : Stops (others ++ ']' :: rest) := hothers.stops (stops_cons (by decide))
    have hread := helement.complete blanks_nil hbody hvalue hstops
    obtain ⟨c, behind, rfl, hblank, hclose, -⟩ := hbody.exists_cons
    have hnext := nextElement_separator hseparator hblank hclose
      (behind ++ (others ++ ']' :: rest))
    simp only [List.append_assoc, List.cons_append, List.nil_append] at hread ⊢
    rw [elements_of_more hnext hread, ih hothers]
    rfl

/-- **Lists** are read, if their elements are. -/
theorem list_reads (helement : element.Reads means) : (list element).Reads (IsList means) where
  sound := by
    intro text rest value h
    dsimp only [list] at h
    split at h
    · rename_i behind hskip
      obtain ⟨before, hbefore, rfl⟩ := exists_blanks_of_skipBlank_eq hskip
      obtain ⟨inner, items, rfl, hitems, hvalues⟩ := exists_of_elements helement h
      refine ⟨before, _, _, hbefore, ?_, .list hitems, hvalues⟩
      simp only [List.append_assoc, List.cons_append, List.nil_append]
    · cases h
  complete := by
    intro before body rest term value hbefore hbody h hrest
    cases hbody with
    | @list inner items hitems =>
      have hskip := skipBlank_blanks hbefore (show isBlank '[' = false by decide)
        (inner ++ ']' :: rest)
      simp only [list, List.append_assoc, List.cons_append, List.nil_append, hskip]
      exact elements_items helement hitems h rest
    | _ => exact absurd h id

end Elements

/-! ## Choices -/

section Choices
variable {α : Type} {known : List (String × α)} {value : α}

/-- A name that is found among the known ones. -/
theorem named_eq_ok_iff {name : List Char} : named known name text = .ok (value, rest) ↔
    text = rest ∧
      ∃ entry, (known.find? fun entry => entry.1.toList = name) = some entry ∧
        entry.2 = value := by
  unfold named
  split
  · rename_i entry hentry
    constructor
    · intro h
      obtain ⟨rfl, rfl⟩ := Prod.mk.inj (Except.ok.inj h)
      exact ⟨rfl, entry, hentry, rfl⟩
    · rintro ⟨rfl, found, hfound, rfl⟩
      rw [hentry] at hfound
      rw [Option.some.inj hfound]
  · rename_i hnone
    constructor
    · intro h
      cases h
    · rintro ⟨-, found, hfound, -⟩
      rw [hnone] at hfound
      cases hfound

/-- A name as the only key of an object is read up to the closing brace. -/
theorem exists_of_namedByKey (h : namedByKey known text = .ok (value, rest)) :
    ∃ inner raw, text = inner ++ '\x7d' :: rest ∧
      Items (Member Spells) true inner [(raw, .null)] ∧ Names known raw value := by
  unfold namedByKey at h
  split at h
  · rename_i behind hskip
    obtain ⟨before, hbefore, rfl⟩ := exists_blanks_of_skipBlank_eq hskip
    split at h
    · cases h
    · rename_i name behindName hname
      obtain ⟨raw, rfl, hraw⟩ := exists_raw_of_readString hname
      split at h
      · cases h
      · rename_i found behindFound hnamed
        obtain ⟨rfl, entry, hentry, rfl⟩ := named_eq_ok_iff.mp hnamed
        split at h
        · cases h
        · rename_i behindColon hcolon
          obtain ⟨between, hbetween, rfl⟩ := exists_of_colon hcolon
          split at h
          · rename_i behindN hskip'
            obtain ⟨after, hafter, rfl⟩ := exists_blanks_of_skipBlank_eq hskip'
            split at h
            · cases h
            · rename_i behindWord hword
              rw [eq_append_of_literal hword]
              split at h
              · cases h
              · rename_i last hclose
                obtain ⟨blanks, hblanks, rfl⟩ := exists_blanks_of_skipBlank_eq hclose
                obtain ⟨rfl, rfl⟩ := Prod.mk.inj (Except.ok.inj h)
                refine ⟨_, raw, ?_, .item (.blanks hbefore) (.mk hbetween hafter .null)
                  (.none hblanks), name, entry, hraw, hentry, rfl⟩
                simp only [RawString.quoted, List.append_assoc, List.cons_append,
                  List.nil_append]
              · cases h
          · cases h
  · cases h

/-- The only key of an object that holds `null` is read, if it is a known name. -/
theorem namedByKey_member {inner : List Char} {raw : RawString}
    (h : Items (Member Spells) true inner [(raw, .null)]) (hnames : Names known raw value)
    (rest : List Char) : namedByKey known (inner ++ '\x7d' :: rest) = .ok (value, rest) := by
  obtain ⟨name, entry, hraw, hentry⟩ := hnames
  obtain _ | ⟨hseparator, hmember, hothers⟩ := h
  obtain ⟨hbefore⟩ := hseparator
  obtain ⟨hblanks⟩ := hothers
  obtain ⟨hbetween, hafter, ⟨⟩⟩ := hmember
  have hnull := fun text => skipBlank_blanks hafter (show isBlank 'n' = false by decide)
    (['u', 'l', 'l'] ++ text)
  have hword := fun text => literal_append ['u', 'l', 'l'] text
  have hclose := skipBlank_blanks hblanks (show isBlank '\x7d' = false by decide) rest
  simp only [List.append_assoc, List.cons_append, List.nil_append] at hnull hword ⊢
  rw [namedByKey, skipBlank_quoted hbefore]
  simp only [readString_raw hraw, named_eq_ok_iff.mpr ⟨rfl, entry, hentry⟩,
    colon_blanks hbetween, hnull, hword, hclose]

/-- **Choices** are read. -/
theorem choice_reads : (choice known).Reads (IsChoice known) where
  sound := by
    intro text rest value h
    change readChoice known text = _ at h
    unfold readChoice at h
    split at h
    · cases h
    · rename_i behind hskip
      obtain ⟨before, hbefore, rfl⟩ := exists_blanks_of_skipBlank_eq hskip
      split at h
      · cases h
      · rename_i name after hname
        obtain ⟨raw, rfl, hraw⟩ := exists_raw_of_readString hname
        obtain ⟨rfl, entry, hentry⟩ := named_eq_ok_iff.mp h
        exact ⟨before, raw.quoted, .string raw, hbefore, by rw [raw.quoted_append], .string raw,
          name, entry, hraw, hentry⟩
    · rename_i behind hskip
      obtain ⟨before, hbefore, rfl⟩ := exists_blanks_of_skipBlank_eq hskip
      obtain ⟨inner, raw, rfl, hinner, hnames⟩ := exists_of_namedByKey h
      refine ⟨before, _, _, hbefore, ?_, .object hinner, hnames⟩
      simp only [List.append_assoc, List.cons_append, List.nil_append]
    · cases h
  complete := by
    intro before body rest term value hbefore hbody h hrest
    change readChoice known _ = _
    cases hbody with
    | string raw =>
      obtain ⟨name, entry, hraw, hentry⟩ := h
      rw [readChoice, skipBlank_quoted hbefore]
      simp only [readString_raw hraw]
      exact named_eq_ok_iff.mpr ⟨rfl, entry, hentry⟩
    | @object inner members hinner =>
      obtain ⟨raw, rfl, hnames⟩ := h.exists_key
      have hskip := skipBlank_blanks hbefore (show isBlank '\x7b' = false by decide)
        (inner ++ '\x7d' :: rest)
      simp only [List.append_assoc, List.cons_append, List.nil_append, readChoice, hskip]
      exact namedByKey_member hinner hnames rest
    | _ => exact absurd h id

end Choices

end Reader

end LiveRoom.Json
