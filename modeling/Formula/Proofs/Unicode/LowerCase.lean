import Formula.Unicode.Alphabetic
import Formula.Unicode.Case

/-!
# Lower case twice

Every image of the lower-case mappings is a letter that is mapped to itself, but for the combining dot that `İ` brings.
Hence the lower case of a text is its own lower case (`lowerCase_lowerCase`), and each of its characters is one of the
text, a letter, or that dot (`mem_lowerCase`). The two facts about the tables are checked run by run, each run against
the ascending list of the others.
-/

namespace Formula.Unicode

/-! ## Runs and ranges -/

/-- Whether all code points from `first` to `last` lie in one of the ranges. -/
def covers (first last : Nat) : List (Nat × Nat) → Bool
  | [] => false
  | (a, b) :: rest => bif Nat.blt first a then false else bif Nat.ble last b then true else covers first last rest

theorem inRanges_of_covers {first last n : Nat} (hf : first ≤ n) (hl : n ≤ last) :
    ∀ {ranges : List (Nat × Nat)}, covers first last ranges = true → inRanges n ranges = true
  | [], h => by cases h
  | (a, b) :: rest, h => by
    rw [covers] at h
    cases hfa : Nat.blt first a with
    | true => simp [hfa] at h
    | false =>
      have hna : ¬n < a := by
        rw [← Bool.not_eq_true, Nat.blt_eq] at hfa
        omega
      rw [inRanges, if_neg hna]
      cases hlb : Nat.ble last b with
      | true =>
        have hnb : n ≤ b := Nat.le_trans hl (Nat.le_of_ble_eq_true hlb)
        simp [hnb]
      | false =>
        simp only [hfa, hlb, cond_false] at h
        simp [inRanges_of_covers hf hl h]

/-- Whether no run holds any of the code points that start at `image` and go on by `step` up to `len` further. -/
def apart (image len step : Nat) : List CaseRun → Bool
  | [] => true
  | r :: rest =>
    (Nat.blt (image + len) r.first || Nat.blt r.last image ||
      (Nat.beq r.step 2 && (Nat.beq step 2 || Nat.beq len 0) && !Nat.beq (image % 2) (r.first % 2))) &&
    apart image len step rest

theorem image?_eq_none_of_apart {image len step d : Nat} (hd : d ≤ len) (hstep : d % step = 0) :
    ∀ {runs : List CaseRun}, apart image len step runs = true → CaseRun.image? (image + d) runs = none
  | [], _ => rfl
  | r :: rest, h => by
    simp only [apart, Bool.and_eq_true, Bool.or_eq_true, Nat.blt_eq, Nat.beq_eq, Bool.not_eq_true'] at h
    obtain ⟨hr, hrest⟩ := h
    rw [CaseRun.image?]
    split
    · rfl
    · rename_i hfirst
      split
      · rename_i hin
        -- a run that holds the code point is neither below nor above all of them, so it takes every other one of the
        -- other parity
        rcases hr with (hr | hr) | ⟨⟨hr, hlen⟩, hparity⟩
        · omega
        · omega
        · rw [Bool.eq_false_iff, Ne, Nat.beq_eq] at hparity
          have hodd := hin.2
          rw [hr] at hodd
          rcases hlen with hlen | hlen
          · rw [hlen] at hstep
            omega
          · omega
      · exact image?_eq_none_of_apart hd hstep hrest

theorem exists_run_of_image? {codePoint n : Nat} : ∀ {runs : List CaseRun}, CaseRun.image? codePoint runs = some n →
    ∃ run ∈ runs, run.first ≤ codePoint ∧ codePoint ≤ run.last ∧ (codePoint - run.first) % run.step = 0 ∧
      n = run.image + (codePoint - run.first)
  | [], h => by cases h
  | run :: rest, h => by
    rw [CaseRun.image?] at h
    split at h
    · cases h
    · rename_i hfirst
      split at h
      · rename_i hin
        cases h
        exact ⟨run, List.mem_cons_self, by omega, hin.1, hin.2, rfl⟩
      · obtain ⟨run', hmem, hrun⟩ := exists_run_of_image? h
        exact ⟨run', List.mem_cons_of_mem _ hmem, hrun⟩

theorem exists_of_inRanges {n : Nat} : ∀ {ranges : List (Nat × Nat)}, inRanges n ranges = true →
    ∃ range ∈ ranges, range.1 ≤ n ∧ n ≤ range.2
  | [], h => by cases h
  | (a, b) :: rest, h => by
    rw [inRanges] at h
    split at h
    · cases h
    · rw [Bool.or_eq_true, decide_eq_true_eq] at h
      rcases h with h | h
      · exact ⟨(a, b), List.mem_cons_self, by omega, h⟩
      · obtain ⟨range, hmem, hrange⟩ := exists_of_inRanges h
        exact ⟨range, List.mem_cons_of_mem _ hmem, hrange⟩

/-! ## The tables -/

theorem isValidChar_of_alphabetic {n : Nat} (h : inRanges n alphabeticRanges = true) : n.isValidChar := by
  obtain ⟨⟨a, b⟩, hmem, ha, hb⟩ := exists_of_inRanges h
  have hall : (alphabeticRanges.all fun range =>
      Nat.blt range.2 0xD800 || Nat.blt 0xDFFF range.1 && Nat.blt range.2 0x110000) = true := by decide +kernel
  have hrange := List.all_eq_true.1 hall (a, b) hmem
  simp only [Bool.or_eq_true, Bool.and_eq_true, Nat.blt_eq] at hrange
  rw [Nat.isValidChar]
  omega

/-- The images of every run are letters. -/
theorem lowerRuns_images_covered :
    (lowerRuns.all fun run => covers run.image (run.image + (run.last - run.first)) alphabeticRanges) = true := by
  decide +kernel

/-- No image of a run is mapped again. -/
theorem lowerRuns_images_apart :
    (lowerRuns.all fun run => apart run.image (run.last - run.first) run.step lowerRuns) = true := by
  decide +kernel

/-- No image of a run is the letter with two characters. -/
theorem lowerRuns_images_ne :
    (lowerRuns.all fun run =>
      Nat.blt (run.image + (run.last - run.first)) 0x0130 || Nat.blt 0x0130 run.image) = true := by
  decide +kernel

theorem toNat_ofNat_of_isValidChar {n : Nat} (h : n.isValidChar) : (Char.ofNat n).toNat = n := by
  rw [Char.ofNat, dif_pos h]
  rfl

/-! ## One character -/

/-- The combining dot in the lower case of `İ`. -/
def combiningDot : Char := Char.ofNat 0x0307

/-- A character that is its own lower case. -/
def IsLower (c : Char) : Prop := lowerChar c = [c]

instance : DecidablePred IsLower := fun c => inferInstanceAs (Decidable (lowerChar c = [c]))

theorem IsLower.ne_sigma {c : Char} (h : IsLower c) : c ≠ 'Σ' := by
  rintro rfl
  exact absurd h (by decide +kernel)

/-- What a character may become in lower case: itself, another letter, or the two characters of `İ`. -/
inductive LowerImage (c : Char) : List Char → Prop
  | self (lower : IsLower c) : LowerImage c [c]
  | letter {d : Char} (lower : IsLower d) (alphabetic : isAlphabetic d = true) : LowerImage c [d]
  | dotted : LowerImage c ['i', combiningDot]

theorem lowerImage_lowerChar (c : Char) : LowerImage c (lowerChar c) := by
  unfold lowerChar
  split
  · exact .dotted
  · rename_i hc
    split
    · rename_i n hn
      obtain ⟨run, hmem, hfirst, hlast, hstep, rfl⟩ := exists_run_of_image? hn
      have hletter := inRanges_of_covers (n := run.image + (c.toNat - run.first)) (by omega) (by omega)
        (List.all_eq_true.1 lowerRuns_images_covered run hmem)
      have hmapped := image?_eq_none_of_apart (d := c.toNat - run.first) (by omega) hstep
        (List.all_eq_true.1 lowerRuns_images_apart run hmem)
      have hother := List.all_eq_true.1 lowerRuns_images_ne run hmem
      rw [Bool.or_eq_true, Nat.blt_eq, Nat.blt_eq] at hother
      have hnat := toNat_ofNat_of_isValidChar (isValidChar_of_alphabetic hletter)
      refine .letter ?_ ?_
      · rw [IsLower, lowerChar, hnat, if_neg (by omega), hmapped]
      · rwa [isAlphabetic, hnat]
    · rename_i hn
      refine .self ?_
      rw [IsLower, lowerChar, if_neg hc, hn]

theorem LowerImage.isLower {c d : Char} {image : List Char} (h : LowerImage c image) (hd : d ∈ image) : IsLower d := by
  cases h with
  | self lower => exact List.mem_singleton.1 hd ▸ lower
  | letter lower _ => exact List.mem_singleton.1 hd ▸ lower
  | dotted =>
    rcases List.mem_cons.1 hd with rfl | hd
    · decide +kernel
    · obtain rfl := List.mem_singleton.1 hd
      decide +kernel

/-! ## Texts -/

/-- The lower case of a text goes character by character, although a sigma looks at its surroundings. -/
theorem lowerAfter_cons (before : List Char) (c : Char) (rest : List Char) :
    ∃ image, lowerAfter before (c :: rest) = image ++ lowerAfter (c :: before) rest ∧ LowerImage c image := by
  rw [lowerAfter]
  refine ⟨_, rfl, ?_⟩
  split
  · split
    · exact .letter (by decide +kernel) (by decide +kernel)
    · exact .letter (by decide +kernel) (by decide +kernel)
  · exact lowerImage_lowerChar c

theorem isLower_of_mem_lowerAfter {d : Char} : ∀ {before cs : List Char}, d ∈ lowerAfter before cs → IsLower d
  | _, [], h => by simp [lowerAfter] at h
  | before, c :: rest, h => by
    obtain ⟨image, he, himage⟩ := lowerAfter_cons before c rest
    rw [he, List.mem_append] at h
    rcases h with h | h
    · exact himage.isLower h
    · exact isLower_of_mem_lowerAfter h

theorem lowerAfter_eq_self : ∀ {before cs : List Char}, (∀ d ∈ cs, IsLower d) → lowerAfter before cs = cs
  | _, [], _ => rfl
  | before, c :: rest, h => by
    have hc := h c List.mem_cons_self
    have hrest := @lowerAfter_eq_self (c :: before) rest fun d hd => h d (List.mem_cons_of_mem _ hd)
    rw [lowerAfter, if_neg hc.ne_sigma, hc, hrest]
    rfl

/-- **A text in lower case is its own lower case.** -/
theorem lowerCase_lowerCase (cs : List Char) : lowerCase (lowerCase cs) = lowerCase cs :=
  lowerAfter_eq_self fun _ => isLower_of_mem_lowerAfter

theorem mem_lowerAfter {d : Char} : ∀ {before cs : List Char}, d ∈ lowerAfter before cs →
    d ∈ cs ∨ isAlphabetic d = true ∨ d = combiningDot
  | _, [], h => by simp [lowerAfter] at h
  | before, c :: rest, h => by
    obtain ⟨image, he, himage⟩ := lowerAfter_cons before c rest
    rw [he, List.mem_append] at h
    rcases h with h | h
    · cases himage with
      | self _ => exact .inl (List.mem_singleton.1 h ▸ List.mem_cons_self)
      | letter _ alphabetic => exact .inr (.inl (List.mem_singleton.1 h ▸ alphabetic))
      | dotted =>
        rcases List.mem_cons.1 h with rfl | h
        · exact .inr (.inl (by decide +kernel))
        · exact .inr (.inr (List.mem_singleton.1 h))
    · rcases mem_lowerAfter h with h | h
      · exact .inl (List.mem_cons_of_mem _ h)
      · exact .inr h

/-- **The characters of a text in lower case** are those of the text, letters, and the combining dot. -/
theorem mem_lowerCase {d : Char} {cs : List Char} (h : d ∈ lowerCase cs) :
    d ∈ cs ∨ isAlphabetic d = true ∨ d = combiningDot := mem_lowerAfter h

/-- The lower case of a text opens with its first character or with a letter. -/
theorem exists_lowerCase_eq_cons (c : Char) (rest : List Char) :
    ∃ d ds, lowerCase (c :: rest) = d :: ds ∧ (d = c ∨ isAlphabetic d = true) := by
  obtain ⟨image, he, himage⟩ := lowerAfter_cons [] c rest
  rw [lowerCase, he]
  cases himage with
  | self _ => exact ⟨_, _, rfl, .inl rfl⟩
  | letter _ alphabetic => exact ⟨_, _, rfl, .inr alphabetic⟩
  | dotted => exact ⟨_, _, rfl, .inr (by decide +kernel)⟩

end Formula.Unicode
