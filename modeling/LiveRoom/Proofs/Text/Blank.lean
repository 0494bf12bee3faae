import LiveRoom.Text.Blank
import Mathlib.Data.List.TakeWhile

/-!
# What trimming leaves

Trimming takes blanks off both ends of a text and nothing else (`Text.exists_append_trim`),
and it takes all of them (`Text.trim_append`).  So it leaves nothing exactly of a text that
is blank all over.
-/

namespace LiveRoom.Text

theorem dropWhileEnd_append {p : Char → Bool} {text dropped : List Char}
    (hkept : ∀ c ∈ text.getLast?, p c = false) (hdropped : ∀ c ∈ dropped, p c) :
    dropWhileEnd p (text ++ dropped) = text := by
  have hreverse : ∀ c ∈ dropped.reverse, p c := fun c hc => hdropped c (List.mem_reverse.mp hc)
  rw [dropWhileEnd, List.reverse_append, List.dropWhile_append_of_pos hreverse]
  cases hlast : text.reverse with
  | nil =>
    rw [List.reverse_eq_nil_iff.mp hlast]
    rfl
  | cons c others =>
    have hc : p c = false := by
      refine hkept c ?_
      rw [← List.head?_reverse, hlast]
      rfl
    rw [List.dropWhile_cons_of_neg (by simp [hc]), ← hlast, List.reverse_reverse]

/-- What is dropped at the end can be put back. -/
theorem exists_append_dropWhileEnd (p : Char → Bool) (text : List Char) :
    ∃ dropped, text = dropWhileEnd p text ++ dropped ∧ ∀ c ∈ dropped, p c := by
  refine ⟨(text.reverse.takeWhile p).reverse, ?_, ?_⟩
  · rw [dropWhileEnd, ← List.reverse_append, List.takeWhile_append_dropWhile,
      List.reverse_reverse]
  · intro c hc
    exact List.mem_takeWhile_imp (List.mem_reverse.mp hc)

/-- The last character that is left is one to be kept. -/
theorem kept_of_mem_getLast?_dropWhileEnd {p : Char → Bool} {text : List Char} :
    ∀ c ∈ (dropWhileEnd p text).getLast?, p c = false := by
  intro c hc
  have hhead := List.head?_dropWhile_not p text.reverse
  rw [dropWhileEnd, List.getLast?_reverse] at hc
  rw [hc] at hhead
  simpa using hhead

/-- **Trimming takes off the blanks around a text** that has none at its ends. -/
theorem trim_append {lead text tail : List Char} (hlead : ∀ c ∈ lead, isBlank c)
    (htail : ∀ c ∈ tail, isBlank c) (hfirst : ∀ c ∈ text.head?, isBlank c = false)
    (hlast : ∀ c ∈ text.getLast?, isBlank c = false) : trim (lead ++ text ++ tail) = text := by
  rw [trim, trimStart, List.append_assoc, List.dropWhile_append_of_pos hlead]
  cases text with
  | nil =>
    rw [List.nil_append, List.dropWhile_eq_nil_iff.mpr htail]
    rfl
  | cons c text =>
    have hc : isBlank c = false := hfirst c rfl
    rw [List.cons_append, List.dropWhile_cons_of_neg (by simp [hc]), ← List.cons_append]
    exact dropWhileEnd_append hlast htail

/-- **What trimming takes off** a text are blanks, in front of what it leaves and behind. -/
theorem exists_append_trim (text : List Char) :
    ∃ lead tail, text = lead ++ trim text ++ tail ∧ (∀ c ∈ lead, isBlank c) ∧
      ∀ c ∈ tail, isBlank c := by
  obtain ⟨tail, hrest, htail⟩ := exists_append_dropWhileEnd isBlank (trimStart text)
  refine ⟨text.takeWhile isBlank, tail, ?_, fun c hc => List.mem_takeWhile_imp hc, htail⟩
  rw [List.append_assoc, trim, ← hrest, trimStart, List.takeWhile_append_dropWhile]

theorem kept_of_mem_head?_trim {text : List Char} : ∀ c ∈ (trim text).head?, isBlank c = false := by
  intro c hc
  obtain ⟨tail, hrest, -⟩ := exists_append_dropWhileEnd isBlank (trimStart text)
  have hfirst : (trimStart text).head? = some c := by
    rw [show trimStart text = trim text ++ tail from hrest, List.head?_append,
      Option.mem_def.mp hc, Option.some_or]
  have hhead := List.head?_dropWhile_not isBlank text
  rw [trimStart] at hfirst
  rw [hfirst] at hhead
  simpa using hhead

/-- **More blanks around a text** make no difference to what trimming leaves. -/
theorem trim_padded {lead tail : List Char} (hlead : ∀ c ∈ lead, isBlank c)
    (htail : ∀ c ∈ tail, isBlank c) (text : List Char) :
    trim (lead ++ text ++ tail) = trim text := by
  obtain ⟨first, last, htext, hfirst, hlast⟩ := exists_append_trim text
  have hwhole : lead ++ text ++ tail = (lead ++ first) ++ trim text ++ (last ++ tail) := calc
    lead ++ text ++ tail = lead ++ (first ++ trim text ++ last) ++ tail :=
      congrArg (fun middle => lead ++ middle ++ tail) htext
    _ = (lead ++ first) ++ trim text ++ (last ++ tail) := by simp only [List.append_assoc]
  rw [hwhole]
  refine trim_append ?_ ?_ kept_of_mem_head?_trim kept_of_mem_getLast?_dropWhileEnd
  · intro c hc
    exact (List.mem_append.mp hc).elim (hlead c) (hfirst c)
  · intro c hc
    exact (List.mem_append.mp hc).elim (hlast c) (htail c)

theorem trim_trim (text : List Char) : trim (trim text) = trim text := by
  have h := trim_append (List.forall_mem_nil _) (List.forall_mem_nil _)
    (@kept_of_mem_head?_trim text) kept_of_mem_getLast?_dropWhileEnd
  rwa [List.nil_append, List.append_nil] at h

theorem trimmed_padded {lead tail : String} (hlead : ∀ c ∈ lead.toList, isBlank c)
    (htail : ∀ c ∈ tail.toList, isBlank c) (text : String) :
    trimmed (lead ++ text ++ tail) = trimmed text := by
  rw [trimmed, String.toList_append, String.toList_append, trim_padded hlead htail, trimmed]

theorem trimmed_trimmed (text : String) : trimmed (trimmed text) = trimmed text := by
  rw [trimmed, trimmed, String.toList_ofList, trim_trim]

theorem dropWhileEnd_eq_nil_iff {p : Char → Bool} {text : List Char} :
    dropWhileEnd p text = [] ↔ ∀ c ∈ text, p c := by
  rw [dropWhileEnd, List.reverse_eq_nil_iff, List.dropWhile_eq_nil_iff]
  simp only [List.mem_reverse]

theorem trim_eq_nil_iff {text : List Char} : trim text = [] ↔ ∀ c ∈ text, isBlank c := by
  rw [trim, dropWhileEnd_eq_nil_iff]
  constructor
  · intro h c hc
    rw [← List.takeWhile_append_dropWhile (p := isBlank) (l := text)] at hc
    rcases List.mem_append.mp hc with hlead | hrest
    · exact List.mem_takeWhile_imp hlead
    · exact h c hrest
  · intro h c hc
    exact h c ((List.dropWhile_suffix _).mem hc)

/-- **Nothing is left of a text** exactly if it is blank all over. -/
theorem trimmed_eq_empty_iff {text : String} :
    trimmed text = "" ↔ ∀ c ∈ text.toList, isBlank c := by
  rw [trimmed, String.ofList_eq_empty_iff, trim_eq_nil_iff]

end LiveRoom.Text
