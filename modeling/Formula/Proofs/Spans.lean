/-!
# Spans

Elements of a class in front of one that is not of the class, or of nothing, are split off as a whole.
-/

namespace Formula

variable {α : Type} {p : α → Bool} {front front' rest rest' : List α}

theorem takeWhile_span (hfront : ∀ a ∈ front, p a = true) (hrest : ∀ a ∈ rest.head?, p a = false) :
    (front ++ rest).takeWhile p = front := by
  rw [List.takeWhile_append_of_pos hfront]
  cases rest with
  | nil => rw [List.takeWhile_nil, List.append_nil]
  | cons a rest => rw [List.takeWhile_cons_of_neg (by simp [hrest a rfl]), List.append_nil]

theorem dropWhile_span (hfront : ∀ a ∈ front, p a = true) (hrest : ∀ a ∈ rest.head?, p a = false) :
    (front ++ rest).dropWhile p = rest := by
  rw [List.dropWhile_append_of_pos hfront]
  cases rest with
  | nil => rfl
  | cons a rest => rw [List.dropWhile_cons_of_neg (by simp [hrest a rfl])]

/-- Texts that open with such elements are equal only if these and what follows them are. -/
theorem append_inj_span (hfront : ∀ a ∈ front, p a = true) (hrest : ∀ a ∈ rest.head?, p a = false)
    (hfront' : ∀ a ∈ front', p a = true) (hrest' : ∀ a ∈ rest'.head?, p a = false)
    (h : front ++ rest = front' ++ rest') : front = front' ∧ rest = rest' := by
  have htake := congrArg (List.takeWhile p) h
  have hdrop := congrArg (List.dropWhile p) h
  rw [takeWhile_span hfront hrest, takeWhile_span hfront' hrest'] at htake
  rw [dropWhile_span hfront hrest, dropWhile_span hfront' hrest'] at hdrop
  exact ⟨htake, hdrop⟩

end Formula
