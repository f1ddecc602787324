import Formula.Proofs.Unicode.LowerCase
import Formula.Unicode.WhiteSpace
import Mathlib.Data.List.DropRight

/-!
# White space

* `forall_isWhiteSpace` : what holds of the characters of the table.
* `trim_eq_nil_iff` : a text is blank when nothing is left of it once it is trimmed.
* `Trimmed` : a text with no white space at its ends.
* `exists_trim`, `trimmed_trim` : trimming takes white space away and leaves none at the ends.
* `Trimmed.trim_eq` : it takes nothing else away.
-/

namespace Formula.Unicode

/-- What holds of the characters of the table holds of all white space. -/
theorem forall_isWhiteSpace {p : Char → Bool}
    (hp : (whiteSpaceRanges.all fun (a, b) =>
      (List.range' a (b + 1 - a)).all fun n => p (Char.ofNat n)) = true)
    {c : Char} (h : isWhiteSpace c = true) : p c = true := by
  obtain ⟨⟨a, b⟩, hmem, ha, hb⟩ := exists_of_inRanges h
  have hrange := List.all_eq_true.1 (List.all_eq_true.1 hp (a, b) hmem) c.toNat (List.mem_range'_1.2 (by omega))
  simpa using hrange

/-! ## Trimming -/

/-- A text is blank when skipping white space skips all of it. -/
theorem dropWhile_eq_nil_iff {cs : List Char} : cs.dropWhile isWhiteSpace = [] ↔ isBlank cs = true := by
  rw [List.dropWhile_eq_nil_iff, isBlank, List.all_eq_true]

/-- **Trimming** leaves nothing of a blank text only. -/
theorem trim_eq_nil_iff {cs : List Char} : trim cs = [] ↔ isBlank cs = true := by
  rw [trim, List.reverse_eq_nil_iff, dropWhile_eq_nil_iff, isBlank, List.all_reverse, ← isBlank,
    ← dropWhile_eq_nil_iff, List.dropWhile_idempotent, dropWhile_eq_nil_iff]

/-- Neither the first nor the last character of the text is white space. -/
structure Trimmed (cs : List Char) : Prop where
  head : ∀ c ∈ cs.head?, isWhiteSpace c = false
  last : ∀ c ∈ cs.getLast?, isWhiteSpace c = false

theorem trim_eq_rdropWhile (cs : List Char) : trim cs = (cs.dropWhile isWhiteSpace).rdropWhile isWhiteSpace := rfl

/-- What trimming takes away is white space. -/
theorem exists_trim (cs : List Char) :
    ∃ before after, isBlank before = true ∧ isBlank after = true ∧ cs = before ++ (trim cs ++ after) := by
  refine ⟨cs.takeWhile isWhiteSpace, (cs.dropWhile isWhiteSpace).rtakeWhile isWhiteSpace, List.all_takeWhile, ?_, ?_⟩
  · exact List.all_eq_true.2 fun _ => List.mem_rtakeWhile_imp
  · rw [trim_eq_rdropWhile, List.rdropWhile_append_rtakeWhile, List.takeWhile_append_dropWhile]

theorem mem_of_mem_trim {cs : List Char} {c : Char} (h : c ∈ trim cs) : c ∈ cs := by
  obtain ⟨before, after, -, -, hcs⟩ := exists_trim cs
  rw [hcs]
  exact List.mem_append_right before (List.mem_append_left after h)

/-- **Trimming leaves no white space** at the ends. -/
theorem trimmed_trim (cs : List Char) : Trimmed (trim cs) where
  head c hc := by
    have hdrop := List.head?_dropWhile_not isWhiteSpace cs
    obtain ⟨after, hafter⟩ := List.rdropWhile_prefix isWhiteSpace (cs.dropWhile isWhiteSpace)
    rw [← hafter, ← trim_eq_rdropWhile, List.head?_append, Option.mem_def.1 hc] at hdrop
    exact hdrop
  last c hc := by
    rw [trim_eq_rdropWhile] at hc
    obtain ⟨hne, rfl⟩ := List.mem_getLast?_eq_getLast hc
    exact Bool.eq_false_iff.2 (List.rdropWhile_last_not isWhiteSpace (cs.dropWhile isWhiteSpace) hne)

/-- **A text with no white space at its ends** is left as it is. -/
theorem Trimmed.trim_eq {cs : List Char} (h : Trimmed cs) : trim cs = cs := by
  have hdrop : cs.dropWhile isWhiteSpace = cs := by
    cases cs with
    | nil => rfl
    | cons c cs => exact List.dropWhile_cons_of_neg (Bool.eq_false_iff.1 (h.head c rfl))
  rw [trim_eq_rdropWhile, hdrop, List.rdropWhile_eq_self_iff]
  exact fun hne => Bool.eq_false_iff.1 (h.last _ (List.getLast_mem_getLast? hne))

/-- White space at the ends of a text without any is none at all. -/
theorem Trimmed.eq_nil_of_append {before cs after : List Char} (h : Trimmed (before ++ (cs ++ after)))
    (hbefore : isBlank before = true) (hafter : isBlank after = true) : before = [] ∧ after = [] := by
  constructor
  · cases before with
    | nil => rfl
    | cons c before =>
      have hc := List.all_eq_true.1 hbefore c List.mem_cons_self
      rw [h.head c rfl] at hc
      cases hc
  · rcases List.eq_nil_or_concat after with rfl | ⟨after, c, rfl⟩
    · rfl
    · have hc := List.all_eq_true.1 hafter c (by simp)
      rw [h.last c (by simp)] at hc
      cases hc

end Formula.Unicode
