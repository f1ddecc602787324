import Formula.Binary64.Numeral
import Formula.Proofs.Binary64.Nearest
import Formula.Proofs.Spans
import Mathlib.Data.List.TakeWhile

/-!
# Numerals without a sign

* `ofDecimal_neg`, `ofDecimal_natCast` : a decimal reads as the nearest double, the shortcuts for small and for large
  ones included.
* `ofDecimal_eq_round` : both, for an exponent that is a difference.
* `ofNumeral?_eq_ofDigits?`, `ofDigits?_whole`, `ofDigits?_point` : what a text that opens with a digit or a point reads
  as.
* `ofNumeral?_pointed` : digits with at most one point between them read as the decimal fraction they write.
* `exists_eq_finite_of_ofNumeral?` : a numeral that opens with a digit is not negative.
-/

namespace Formula.Binary64

/-! ## Decimals -/

/-- Below half the least positive magnitude there is nothing left of a decimal: ten to its number of bits is more than
half of it. -/
theorem nearest_eq_zero_of_small {digits n : Nat} (h : digits.log2 + exponentBound < n) :
    nearest (digits * unitsPerOne) (10 ^ n) = 0 := by
  have hdigits : digits ≤ 2 * 10 ^ digits.log2 := by
    have hlog : digits < 2 ^ (digits.log2 + 1) := Nat.lt_log2_self
    have hpow : 2 ^ digits.log2 ≤ 10 ^ digits.log2 := Nat.pow_le_pow_left (by decide) _
    rw [Nat.pow_succ] at hlog
    omega
  have hbound : 4 * unitsPerOne ≤ 10 ^ (exponentBound + 1) := by decide +kernel
  have hexponent : 10 ^ digits.log2 * 10 ^ (exponentBound + 1) ≤ 10 ^ n := by
    rw [← Nat.pow_add]
    exact Nat.pow_le_pow_right (by decide) (by omega)
  refine nearest_eq_zero (Nat.pow_pos (by decide)) ?_
  calc 2 * (digits * unitsPerOne) ≤ 2 * (2 * 10 ^ digits.log2 * unitsPerOne) :=
        Nat.mul_le_mul_left _ (Nat.mul_le_mul_right _ hdigits)
    _ = 10 ^ digits.log2 * (4 * unitsPerOne) := by
        rw [Nat.mul_assoc 2, ← Nat.mul_assoc, Nat.mul_left_comm]
    _ ≤ 10 ^ digits.log2 * 10 ^ (exponentBound + 1) := Nat.mul_le_mul_left _ hbound
    _ ≤ 10 ^ n := hexponent

theorem ofDecimal_zero (negative : Bool) (exponent : Int) : ofDecimal negative 0 exponent = zero negative := by
  rw [ofDecimal, if_neg (fun h => h.1 rfl), if_pos (.inl rfl)]

/-- **A decimal fraction reads as the nearest double**, also where its powers of ten are not computed. -/
theorem ofDecimal_neg (negative : Bool) (digits n : Nat) :
    ofDecimal negative digits (-(n : Int)) = round negative (digits * unitsPerOne) (10 ^ n) := by
  rw [ofDecimal, if_neg (by omega)]
  split
  · rename_i hsmall
    rcases hsmall with rfl | hsmall
    · rw [Nat.zero_mul, round_zero]
    · rw [round, nearest_eq_zero_of_small (by omega), ofRank_zero]
  · split
    · obtain rfl : n = 0 := by omega
      simp [ofWhole]
    · rw [Int.neg_neg, Int.toNat_natCast]

/-- **A whole decimal reads as the nearest double**, also where it is infinite without being computed. -/
theorem ofDecimal_natCast (negative : Bool) (digits n : Nat) :
    ofDecimal negative digits (n : Int) = round negative (digits * 10 ^ n * unitsPerOne) 1 := by
  rw [ofDecimal]
  split
  · rename_i hlarge
    refine (round_eq_infinite negative Nat.one_pos ?_).symm
    have hbound : units rankCount ≤ 10 ^ (exponentBound + 1) * unitsPerOne := by decide +kernel
    have hpow : 10 ^ (exponentBound + 1) ≤ 10 ^ n := Nat.pow_le_pow_right (by decide) (by omega)
    calc units rankCount * 1 ≤ 10 ^ (exponentBound + 1) * unitsPerOne := (Nat.mul_one _).le.trans hbound
      _ ≤ 10 ^ n * unitsPerOne := Nat.mul_le_mul_right _ hpow
      _ ≤ digits * (10 ^ n * unitsPerOne) := Nat.le_mul_of_pos_left _ (Nat.pos_of_ne_zero hlarge.1)
      _ = digits * 10 ^ n * unitsPerOne := (Nat.mul_assoc _ _ _).symm
  · split
    · rename_i hsmall
      obtain rfl : digits = 0 := by omega
      rw [Nat.zero_mul, Nat.zero_mul, round_zero]
    · rw [if_pos (Int.natCast_nonneg n), Int.toNat_natCast, ofWhole]

/-- **A decimal reads as the nearest double.** -/
theorem ofDecimal_eq_round (negative : Bool) (digits a b : Nat) :
    ofDecimal negative digits ((a : Int) - b) = round negative (digits * 10 ^ a * unitsPerOne) (10 ^ b) := by
  have hpos (n : Nat) : 0 < 10 ^ n := Nat.pow_pos (by decide)
  rcases Nat.le_total a b with h | h
  · obtain ⟨n, rfl⟩ := Nat.exists_eq_add_of_le h
    rw [show (a : Int) - (a + n : Nat) = -(n : Int) by omega, ofDecimal_neg]
    refine round_congr negative (hpos n) (hpos _) ?_
    rw [Nat.pow_add, ← Nat.mul_assoc, Nat.mul_right_comm digits]
  · obtain ⟨n, rfl⟩ := Nat.exists_eq_add_of_le h
    rw [show ((b + n : Nat) : Int) - b = (n : Int) by omega, ofDecimal_natCast]
    refine round_congr negative Nat.one_pos (hpos b) ?_
    rw [Nat.pow_add, Nat.mul_one, Nat.mul_right_comm _ unitsPerOne, Nat.mul_assoc digits, Nat.mul_comm (10 ^ n)]

/-! ## Digits -/

/-- What holds of the ten digits holds of every digit. -/
theorem forall_isDigit {p : Char → Bool} (h : ((List.range' 48 10).all fun n => p (Char.ofNat n)) = true) {c : Char}
    (hc : c.isDigit = true) : p c = true := by
  have hmem : c.toNat ∈ List.range' 48 10 := by
    simp only [Char.isDigit, Bool.and_eq_true, decide_eq_true_eq, UInt32.le_iff_toNat_le] at hc
    exact List.mem_range'_1.2 ⟨hc.1, Nat.lt_succ_of_le hc.2⟩
  simpa using List.all_eq_true.1 h _ hmem

theorem point_not_mem_of_isDigit {cs : List Char} (h : ∀ c ∈ cs, c.isDigit = true) : '.' ∉ cs := by
  intro hmem
  cases h '.' hmem

/-- Digits in front of a point and behind it, with no point when there are none behind it. -/
def pointed (whole : List Char) : List Char → List Char
  | [] => whole
  | fraction => whole ++ '.' :: fraction

/-- A text that opens with a digit or a point has no sign and is no word. -/
theorem ofNumeral?_eq_ofDigits? {c : Char} (hc : c.isDigit = true ∨ c = '.') (cs : List Char) :
    ofNumeral? (c :: cs) = ofDigits? false (c :: cs) := by
  have hhead : (c != '-' && c != '+' && c.toLower != 'i' && c.toLower != 'n') = true := by
    rcases hc with hc | rfl
    · exact forall_isDigit (p := fun c => c != '-' && c != '+' && c.toLower != 'i' && c.toLower != 'n') (by decide) hc
    · decide
  simp only [Bool.and_eq_true, bne_iff_ne] at hhead
  obtain ⟨⟨⟨hminus, hplus⟩, hi⟩, hn⟩ := hhead
  have hsign : splitSign (c :: cs) = (false, c :: cs) := by
    unfold splitSign
    split
    · rename_i he
      exact absurd (List.cons.inj he).1 hminus
    · rename_i he
      exact absurd (List.cons.inj he).1 hplus
    · rfl
  have hword (d : Char) (ds : List Char) (hd : c.toLower ≠ d) :
      String.ofList ((c :: cs).map Char.toLower) ≠ String.ofList (d :: ds) := by
    intro he
    have hlist := String.ofList_injective he
    exact hd (List.cons.inj hlist).1
  rw [ofNumeral?, hsign]
  simp only
  rw [if_neg, if_neg (hword 'n' ['a', 'n'] hn)]
  rintro (he | he)
  · exact hword 'i' ['n', 'f'] hi he
  · exact hword 'i' ['n', 'f', 'i', 'n', 'i', 't', 'y'] hi he

section

variable {whole fraction : List Char}

/-- Digits alone. -/
theorem ofDigits?_whole {negative : Bool} (hne : whole ≠ []) (hwhole : ∀ c ∈ whole, c.isDigit = true) :
    ofDigits? negative whole = some (ofDecimal negative (Nat.ofDigitChars 10 whole 0) 0) := by
  have htake := List.takeWhile_eq_self_iff.2 hwhole
  have hdrop := List.dropWhile_eq_nil_iff.2 hwhole
  simp [ofDigits?, htake, hdrop, splitFraction, exponent?, hne]

/-- Digits, a point and digits again, in front of something that is none. -/
theorem ofDigits?_point (negative : Bool) (hwhole : ∀ c ∈ whole, c.isDigit = true)
    (hfraction : ∀ c ∈ fraction, c.isDigit = true) (rest : List Char) (hrest : ∀ c ∈ rest.head?, c.isDigit = false) :
    ofDigits? negative (whole ++ '.' :: (fraction ++ rest)) =
      if whole = [] ∧ fraction = [] then none
      else (exponent? rest).map fun exponent =>
        ofDecimal negative (Nat.ofDigitChars 10 (whole ++ fraction) 0) (exponent - fraction.length) := by
  have hpoint : ∀ c ∈ ('.' :: (fraction ++ rest)).head?, c.isDigit = false := by simp
  simp only [ofDigits?, takeWhile_span hwhole hpoint, dropWhile_span hwhole hpoint, splitFraction,
    takeWhile_span hfraction hrest, dropWhile_span hfraction hrest]

/-- **Digits with at most one point** read as the decimal fraction they write. -/
theorem ofNumeral?_pointed (hne : whole ≠ []) (hdigits : ∀ c ∈ whole ++ fraction, c.isDigit = true) :
    ofNumeral? (pointed whole fraction) =
      some (ofDecimal false (Nat.ofDigitChars 10 (whole ++ fraction) 0) (-(fraction.length : Int))) := by
  have hwhole : ∀ c ∈ whole, c.isDigit = true := fun c hc => hdigits c (List.mem_append_left _ hc)
  have hfraction : ∀ c ∈ fraction, c.isDigit = true := fun c hc => hdigits c (List.mem_append_right _ hc)
  have hopens (cs : List Char) : ofNumeral? (whole ++ cs) = ofDigits? false (whole ++ cs) := by
    obtain ⟨c, ds, rfl⟩ := List.exists_cons_of_ne_nil hne
    exact ofNumeral?_eq_ofDigits? (.inl (hwhole c List.mem_cons_self)) _
  cases fraction with
  | nil =>
    have hread := hopens []
    rw [List.append_nil] at hread
    rw [pointed, hread, ofDigits?_whole hne hwhole, List.append_nil]
    rfl
  | cons d ds =>
    have hpoint := ofDigits?_point false hwhole hfraction [] (by simp)
    rw [List.append_nil] at hpoint
    rw [pointed, hopens, hpoint, if_neg (fun h => hne h.1), exponent?, Option.map_some, Int.zero_sub]
    exact nofun

end

/-! ## Signs -/

theorem exists_eq_finite_of_ofRank {k : Nat} (h : (ofRank false k).isFinite = true) :
    ∃ rank, ofRank false k = finite false rank := by
  unfold ofRank at h ⊢
  split at h
  · rename_i hk
    exact ⟨⟨k, hk⟩, dif_pos hk⟩
  · cases h

theorem exists_eq_finite_of_ofDecimal {digits : Nat} {exponent : Int}
    (h : (ofDecimal false digits exponent).isFinite = true) :
    ∃ rank, ofDecimal false digits exponent = finite false rank := by
  unfold ofDecimal at h ⊢
  split at h
  · cases h
  · rename_i hlarge
    rw [if_neg hlarge]
    split at h
    · rename_i hsmall
      rw [if_pos hsmall]
      exact ⟨_, rfl⟩
    · rename_i hsmall
      rw [if_neg hsmall]
      split at h
      · rename_i hexponent
        rw [if_pos hexponent]
        exact exists_eq_finite_of_ofRank h
      · rename_i hexponent
        rw [if_neg hexponent]
        exact exists_eq_finite_of_ofRank h

/-- **A numeral that opens with a digit** is not negative. -/
theorem exists_eq_finite_of_ofNumeral? {c : Char} (hc : c.isDigit = true) {cs : List Char} {x : Binary64}
    (h : ofNumeral? (c :: cs) = some x) (hx : x.isFinite = true) : ∃ rank, x = finite false rank := by
  rw [ofNumeral?_eq_ofDigits? (.inl hc), ofDigits?] at h
  simp only at h
  split at h
  · cases h
  · obtain ⟨exponent, -, rfl⟩ := Option.map_eq_some_iff.1 h
    exact exists_eq_finite_of_ofDecimal hx

end Formula.Binary64
