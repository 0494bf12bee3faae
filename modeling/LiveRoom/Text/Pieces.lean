/-!
# Cutting a list into pieces

A path is cut at its slashes, a list of names at its commas.  The cuts themselves
belong to no piece, and between two cuts next to each other lies an empty piece.  Nothing
but the cuts is lost (`flatten_pieces`).
-/

namespace LiveRoom.Text

variable {α : Type}

/-- **The pieces of a list** between the elements at which it is cut. -/
def pieces (isCut : α → Bool) : List α → List (List α)
  | [] => [[]]
  | a :: list =>
    if isCut a then [] :: pieces isCut list else (pieces isCut list).modifyHead (a :: ·)

theorem pieces_ne_nil (isCut : α → Bool) (list : List α) : pieces isCut list ≠ [] := by
  induction list with
  | nil => exact List.cons_ne_nil _ _
  | cons a list ih =>
    unfold pieces
    split
    · exact List.cons_ne_nil _ _
    · rwa [ne_eq, List.modifyHead_eq_nil_iff]

theorem pieces_of_forall {isCut : α → Bool} {list : List α} (h : ∀ a ∈ list, isCut a = false) :
    pieces isCut list = [list] := by
  induction list with
  | nil => rfl
  | cons a list ih =>
    rw [pieces, h a List.mem_cons_self, ih fun b hb => h b (List.mem_cons_of_mem a hb)]
    rfl

/-- What stands in front of the first cut is the first piece. -/
theorem pieces_append_cons {isCut : α → Bool} {piece : List α} (h : ∀ a ∈ piece, isCut a = false)
    {cut : α} (hcut : isCut cut = true) (list : List α) :
    pieces isCut (piece ++ cut :: list) = piece :: pieces isCut list := by
  induction piece with
  | nil => rw [List.nil_append, pieces, if_pos hcut]
  | cons a piece ih =>
    rw [List.cons_append, pieces, h a List.mem_cons_self,
      ih fun b hb => h b (List.mem_cons_of_mem a hb)]
    rfl

/-- Nothing but the cuts is lost. -/
theorem flatten_pieces (isCut : α → Bool) (list : List α) :
    (pieces isCut list).flatten = list.filter fun a => !isCut a := by
  induction list with
  | nil => rfl
  | cons a list ih =>
    unfold pieces
    split
    · rename_i h
      rw [List.flatten_cons, List.nil_append, ih, List.filter_cons_of_neg (by simp [h])]
    · rename_i h
      rw [List.filter_cons_of_pos (by simp [h]), ← ih]
      obtain ⟨piece, others, heq⟩ := List.exists_cons_of_ne_nil (pieces_ne_nil isCut list)
      rw [heq]
      rfl

end LiveRoom.Text
