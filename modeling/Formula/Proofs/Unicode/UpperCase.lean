import Formula.Proofs.Unicode.LowerCase

/-!
# The characters of a text in upper case

The images of the upper-case mappings are capital letters or lie beyond ASCII. Hence each character of a text in upper
case is one of the text or such an image (`mem_upperCase`), and a text that is not empty stays so
(`upperCase_ne_nil`).
-/

namespace Formula.Unicode

/-- The capital letters of ASCII, and all characters beyond it. -/
def capitalRanges : List (Nat × Nat) := [(0x0041, 0x005A), (0x0080, 0xD7FF), (0xE000, 0x10FFFF)]

/-! ## The tables -/

theorem upperRuns_images_capital :
    (upperRuns.all fun run => covers run.image (run.image + (run.last - run.first)) capitalRanges) = true := by
  decide +kernel

theorem upperExpansions_images_capital :
    (upperExpansions.all fun (_, ns) => !ns.isEmpty && ns.all (inRanges · capitalRanges)) = true := by
  decide +kernel

theorem toNat_ofNat_of_capital {n : Nat} (h : inRanges n capitalRanges = true) : (Char.ofNat n).toNat = n := by
  obtain ⟨range, hmem, hfirst, hlast⟩ := exists_of_inRanges h
  have hvalid : n.isValidChar := by
    simp only [capitalRanges, List.mem_cons, List.not_mem_nil, or_false] at hmem
    rw [Nat.isValidChar]
    rcases hmem with rfl | rfl | rfl <;> omega
  exact toNat_ofNat_of_isValidChar hvalid

/-! ## Texts -/

/-- The upper case of a character is not empty, and is the character itself or consists of images. -/
theorem upperChar_spec (c : Char) : upperChar c ≠ [] ∧
    ∀ d ∈ upperChar c, d = c ∨ inRanges d.toNat capitalRanges = true := by
  unfold upperChar
  split
  · rename_i ns hns
    obtain ⟨front, back, happend, -⟩ := List.lookup_eq_some_iff.1 hns
    have hmem : (c.toNat, ns) ∈ upperExpansions := by simp [happend]
    have hall := List.all_eq_true.1 upperExpansions_images_capital _ hmem
    simp only [Bool.and_eq_true, Bool.not_eq_true', List.isEmpty_eq_false_iff, List.all_eq_true] at hall
    refine ⟨by simpa using hall.1, fun d hd => .inr ?_⟩
    obtain ⟨n, hn, rfl⟩ := List.mem_map.1 hd
    rw [toNat_ofNat_of_capital (hall.2 n hn)]
    exact hall.2 n hn
  · split
    · rename_i n hn
      obtain ⟨run, hmem, hfirst, hlast, -, rfl⟩ := exists_run_of_image? hn
      have himage := inRanges_of_covers (n := run.image + (c.toNat - run.first)) (by omega) (by omega)
        (List.all_eq_true.1 upperRuns_images_capital run hmem)
      refine ⟨List.cons_ne_nil _ _, fun d hd => .inr ?_⟩
      rw [List.mem_singleton.1 hd, toNat_ofNat_of_capital himage]
      exact himage
    · exact ⟨List.cons_ne_nil _ _, fun d hd => .inl (List.mem_singleton.1 hd)⟩

/-- **The characters of a text in upper case** are those of the text, capital letters, and characters beyond ASCII. -/
theorem mem_upperCase {d : Char} {cs : List Char} (h : d ∈ upperCase cs) :
    d ∈ cs ∨ inRanges d.toNat capitalRanges = true := by
  obtain ⟨c, hc, hd⟩ := List.mem_flatMap.1 h
  rcases (upperChar_spec c).2 d hd with rfl | himage
  · exact .inl hc
  · exact .inr himage

theorem upperCase_ne_nil {cs : List Char} (h : cs ≠ []) : upperCase cs ≠ [] := by
  obtain ⟨c, rest, rfl⟩ := List.exists_cons_of_ne_nil h
  rw [upperCase, List.flatMap_cons]
  exact List.append_ne_nil_of_left_ne_nil (upperChar_spec c).1 _

end Formula.Unicode
