import LiveRoom.Domain.Ascii

/-!
# Blanks and controls in names

A blank or a control of ASCII stands for itself in a name.  No table replaces it, nothing
is joined with it, and a label is written with it.  So one that is typed is still there in
the name in ASCII (`Domain.mem_of_ascii?`), and a reader of hosts can refuse it there.
-/

namespace LiveRoom

namespace Text

variable {c : Char} {text : List Char}

/-! ## What is joined -/

/-- **A text above the blanks**: none of its characters is a blank or a control. -/
def IsVisible (text : String) : Prop := ∀ c ∈ text.toList, 0x20 < c.toNat

theorem isVisible_append {text other : String} :
    IsVisible (text ++ other) ↔ IsVisible text ∧ IsVisible other := by
  rw [IsVisible, String.toList_append, List.forall_mem_append]
  rfl

theorem isVisible_ofList {text : List Char}
    (h : (text.all fun c => 0x20 < c.toNat) = true) : IsVisible (String.ofList text) := by
  rw [IsVisible, String.toList_ofList]
  simpa using h

set_option maxRecDepth 4000 in
/-- No row of the table has a blank or a control in it. -/
theorem isVisible_of_mem_compositionRows : ∀ row ∈ compositionRows, IsVisible row.2 := by
  simp only [compositionRows, List.forall_mem_cons, isVisible_append]
  -- A literal is the list of its characters, which are then looked at one by one.
  and_intros
  all_goals first
    | exact isVisible_ofList (by decide +kernel)
    | exact List.forall_mem_nil _

theorem mem_of_mem_triples {second : Char} {row : List Char} {triple : Char × Char × Char}
    (h : triple ∈ triples second row) : triple.1 ∈ row := by
  fun_induction triples second row with
  | case1 first both row ih =>
    rcases List.mem_cons.mp h with rfl | h
    · exact List.mem_cons_self
    · exact List.mem_cons_of_mem _ (List.mem_cons_of_mem _ (ih h))
  | case2 => cases h

theorem lt_of_mem_compositions {triple : Char × Char × Char} (h : triple ∈ compositions) :
    0x20 < triple.1.toNat := by
  obtain ⟨row, hrow, htriple⟩ := List.mem_flatMap.mp h
  exact isVisible_of_mem_compositionRows row hrow _ (mem_of_mem_triples htriple)

theorem place?_eq_none {block : Nat × Nat} (h : c.toNat < block.1) : place? block c = none :=
  if_neg (by simp [Nat.not_le.mpr h])

/-- **Nothing is joined to a blank or a control.** -/
theorem join?_eq_none_of_first (h : c.toNat ≤ 0x20) (second : Char) : join? c second = none := by
  have hlead : place? leads c = none := place?_eq_none (Nat.lt_of_le_of_lt h (by decide))
  have hsyllable : place? syllables c = none := place?_eq_none (Nat.lt_of_le_of_lt h (by decide))
  have hpair : compositions.find?
      (fun triple => triple.1 = c && triple.2.1 = second) = none := by
    rw [List.find?_eq_none]
    intro triple htriple heq
    simp only [Bool.and_eq_true, decide_eq_true_eq] at heq
    have hlt := lt_of_mem_compositions htriple
    rw [heq.1] at hlt
    exact Nat.not_le.mpr hlt h
  simp [join?, joinHangul?, hlead, hsyllable, hpair]

/-- **A blank or a control is joined to nothing.** -/
theorem join?_eq_none_of_second (h : c.toNat ≤ 0x20) (first : Char) : join? first c = none := by
  have hvowel : place? vowels c = none := place?_eq_none (Nat.lt_of_le_of_lt h (by decide))
  have htrail : place? trails c = none := place?_eq_none (Nat.lt_of_le_of_lt h (by decide))
  have hlow : c.toNat < 0x300 := Nat.lt_of_le_of_lt h (by decide)
  simp [join?, joinHangul?, hvowel, htrail, hlow]

/-! ## Composed text -/

theorem splitUp_of_lt (h : c.toNat < 0xC0) (times : Nat) : splitUp times c = [c] := by
  cases times with
  | zero => rfl
  | succ times => simp only [splitUp, split?, if_pos h]

theorem mem_insertMark_iff {d : Char} : c ∈ insertMark d text ↔ c = d ∨ c ∈ text := by
  fun_induction insertMark d text with
  | case1 => simp
  | case2 other text _ ih =>
    rw [List.mem_cons, ih, List.mem_cons]
    exact or_left_comm
  | case3 other text _ => rw [List.mem_cons]

/-- Marks are put in order, and nothing else is done. -/
theorem mem_ordered_iff : c ∈ ordered text ↔ c ∈ text := by
  induction text with
  | nil => rfl
  | cons d text ih => rw [ordered, mem_insertMark_iff, ih, List.mem_cons]

/-- A blank or a control is still there when what stands around it is joined. -/
theorem mem_joinOn (h : c.toNat ≤ 0x20) {first : Char} {between : List Char}
    (hmem : c ∈ first :: (between ++ text)) : c ∈ joinOn first between text := by
  fun_induction joinOn first between text with
  | case1 first between => simpa using hmem
  | case2 first between d text reaches both hjoin ih =>
    -- Two characters that are joined are neither of them the one in question.
    have hreaches : join? first d = some both := by
      split at hjoin
      · exact hjoin
      · cases hjoin
    have hfirst : c ≠ first := by
      rintro rfl
      rw [join?_eq_none_of_first h] at hreaches
      cases hreaches
    have hsecond : c ≠ d := by
      rintro rfl
      rw [join?_eq_none_of_second h] at hreaches
      cases hreaches
    apply ih
    simp only [List.mem_cons, List.mem_append, hfirst, hsecond, false_or] at hmem ⊢
    exact .inr hmem
  | case3 first between d text reaches hjoin hclass ih =>
    simp only [List.mem_cons, List.mem_append, List.mem_reverse] at hmem ih ⊢
    rcases hmem with rfl | hmem | rfl | hmem
    · exact .inl (.inl rfl)
    · exact .inl (.inr hmem)
    · exact .inr (ih (.inl rfl))
    · exact .inr (ih (.inr (.inr hmem)))
  | case4 first between d text reaches hjoin hclass ih =>
    apply ih
    simp only [List.mem_cons, List.mem_append] at hmem ⊢
    rcases hmem with hmem | hmem | hmem | hmem <;> simp [hmem]

/-- **A composed text keeps its blanks and controls.** -/
theorem mem_composed (h : c.toNat ≤ 0x20) (hmem : c ∈ text) : c ∈ composed text := by
  have hsplit : c ∈ text.flatMap (splitUp deepest) := by
    refine List.mem_flatMap.mpr ⟨c, hmem, ?_⟩
    rw [splitUp_of_lt (Nat.lt_of_le_of_lt h (by decide))]
    exact List.mem_singleton_self c
  rw [← mem_ordered_iff] at hsplit
  unfold composed
  split
  · rename_i heq
    rw [heq] at hsplit
    cases hsplit
  · rename_i first others heq
    rw [heq] at hsplit
    exact mem_joinOn h hsplit

end Text

namespace Domain

variable {c : Char} {text : List Char}

/-! ## One character -/

theorem has_eq_false {ranges : Text.Ranges} (hall : ranges.all (fun range => 0x20 < range.1) = true)
    (h : c.toNat ≤ 0x20) : ranges.has c = false := by
  rw [Text.Ranges.has, List.any_eq_false]
  intro range hrange
  have hlt : 0x20 < range.1 := of_decide_eq_true (List.all_eq_true.mp hall range hrange)
  have hnot : ¬ range.1 ≤ c.toNat := by omega
  simp [hnot]

/-- **A blank or a control stands for itself.** -/
theorem meaning?_of_le (h : c.toNat ≤ 0x20) : meaning? c = some [c] := by
  have hruns : inRun? c = none := by
    have hall : runs.all (fun run => 0x20 < run.1) = true := by decide +kernel
    rw [inRun?, Option.map_eq_none_iff, List.find?_eq_none]
    intro run hrun
    have hlt : 0x20 < run.1 := of_decide_eq_true (List.all_eq_true.mp hall run hrun)
    have hnot : ¬ run.1 ≤ c.toNat := by omega
    simp [hnot]
  have hrows : inRow? c = none := by
    have hall : neighbours.all (fun row => 0x20 < row.1) = true := by decide +kernel
    have hnone : neighbourTexts.find?
        (fun row => row.1 ≤ c.toNat && c.toNat < row.1 + row.2.length) = none := by
      rw [List.find?_eq_none]
      intro row hrow
      obtain ⟨source, hsource, rfl⟩ := List.mem_map.mp hrow
      have hlt : 0x20 < source.1 := of_decide_eq_true (List.all_eq_true.mp hall source hsource)
      have hnot : ¬ source.1 ≤ c.toNat := by omega
      simp [hnot]
    rw [inRow?, hnone]
    rfl
  have hsilent : silent.has c = false := has_eq_false (by decide +kernel) h
  have hbanned : banned.has c = false := has_eq_false (by decide +kernel) h
  simp [meaning?, hruns, hrows, hsilent, hbanned]

/-! ## One label -/

theorem Label.mem_written {label : Label} (h : Label.ofText? text = some label)
    (hc : c.toNat < 0x80) (hmem : c ∈ text) : c ∈ label.written := by
  unfold Label.ofText? at h
  split at h
  · split at h
    · split at h
      · cases h
        exact hmem
      · cases h
    · cases h
  · split at h
    · cases h
      exact hmem
    · split at h
      · cases h
        have hplain : c ∈ text.filter fun d => decide (d.toNat < Punycode.startCode) :=
          List.mem_filter.mpr ⟨hmem, decide_eq_true hc⟩
        have hne := List.ne_nil_of_mem hplain
        simp only [Punycode.encode, if_neg hne]
        simp only [List.mem_append, hplain, true_or, or_true]
      · cases h

/-! ## Whole names -/

/-- What is made of each item of a list is made of every one in it. -/
theorem exists_of_mem_mapM {α β : Type} {f : α → Option β} {list : List α} {made : List β}
    (h : list.mapM f = some made) {a : α} (ha : a ∈ list) : ∃ b ∈ made, f a = some b := by
  induction list generalizing made with
  | nil => cases ha
  | cons first others ih =>
    rw [List.mapM_cons] at h
    obtain ⟨b, hb, h⟩ := Option.bind_eq_some_iff.mp h
    obtain ⟨bs, hbs, h⟩ := Option.bind_eq_some_iff.mp h
    obtain rfl := Option.some.inj h
    rcases List.mem_cons.mp ha with rfl | ha
    · exact ⟨b, List.mem_cons_self, hb⟩
    · obtain ⟨other, hmem, hother⟩ := ih hbs ha
      exact ⟨other, List.mem_cons_of_mem _ hmem, hother⟩

theorem mem_intercalate {separator part : List Char} {parts : List (List Char)}
    (hpart : part ∈ parts) (hmem : c ∈ part) : c ∈ separator.intercalate parts := by
  induction parts with
  | nil => cases hpart
  | cons first others ih =>
    cases others with
    | nil =>
      obtain rfl := List.mem_singleton.mp hpart
      rwa [List.intercalate_singleton]
    | cons second others =>
      rw [List.intercalate_cons_cons, List.mem_append, List.mem_append]
      rcases List.mem_cons.mp hpart with rfl | hpart
      · exact .inl (.inl hmem)
      · exact .inr (ih hpart)

/-- **A name keeps its blanks and controls.** -/
theorem mem_of_ascii? {name : List Char} (h : ascii? text = some name) (hc : c.toNat ≤ 0x20)
    (hmem : c ∈ text) : c ∈ name := by
  unfold ascii? at h
  obtain ⟨meant, hmeant, h⟩ := Option.bind_eq_some_iff.mp h
  obtain ⟨labels, hlabels, h⟩ := Option.bind_eq_some_iff.mp h
  obtain ⟨meaning, hmeaning, hown⟩ := exists_of_mem_mapM hmeant hmem
  rw [meaning?_of_le hc] at hown
  obtain rfl := Option.some.inj hown
  have hcomposed : c ∈ Text.composed meant.flatten :=
    Text.mem_composed hc (List.mem_flatten.mpr ⟨_, hmeaning, List.mem_singleton_self c⟩)
  have hpieces : c ∈ (Text.pieces (· == '.') (Text.composed meant.flatten)).flatten := by
    have hdot : c ≠ '.' := by
      rintro rfl
      exact absurd hc (by decide)
    rw [Text.flatten_pieces, List.mem_filter]
    exact ⟨hcomposed, by simp [hdot]⟩
  obtain ⟨piece, hpiece, hmem'⟩ := List.mem_flatten.mp hpieces
  obtain ⟨label, hlabel, hofText⟩ := exists_of_mem_mapM hlabels hpiece
  have hwritten := Label.mem_written hofText (Nat.lt_of_le_of_lt hc (by decide)) hmem'
  split at h
  · cases h
  · obtain rfl := Option.some.inj h
    exact mem_intercalate (List.mem_map_of_mem hlabel) hwritten

end Domain

end LiveRoom
