import Formula.Binary64.Arithmetic
import Formula.Proofs.Binary64.Scaled

/-!
# Whole numbers among the doubles

* `IsWhole` : a double is a whole number of a sign and a magnitude.
* `IsWhole.eq_ofWhole`, `isWhole_ofNat`, `isWhole_power_of_ten` : a double that is a whole number is the nearest one to
  it, and whole numbers of at most 53 bits and small powers of ten are doubles.
* `exists_units_nearest_eq` : whole numbers are rounded to whole numbers.
* `overflow`, `nearest_whole_lt_iff` : which of them are beyond the last double.
* `IsWhole.roundEven`, `IsWhole.mul`, `IsWhole.div` : rounding, products and quotients of whole numbers.
-/

namespace Formula.Binary64

/-- The number is the whole number `n` with a sign. -/
def IsWhole (x : Binary64) (negative : Bool) (n : Nat) : Prop :=
  ∃ rank, x = finite negative rank ∧ units rank = n * unitsPerOne

variable {x y : Binary64} {a b : Bool} {n m : Nat}

theorem unitsPerOne_pos : 0 < unitsPerOne := by
  unfold unitsPerOne
  exact Nat.two_pow_pos 1074

theorem ofRank_rank (negative : Bool) (rank : Fin rankCount) : ofRank negative rank = finite negative rank :=
  dif_pos rank.isLt

theorem offset_mul_unitsPerOne (n : Nat) : offset (n * unitsPerOne) = offset n * unitsPerOne := by
  unfold unitsPerOne
  exact offset_mul_two_pow n 1074

theorem gap_mul_unitsPerOne (hn : n ≠ 0) : gap (n * unitsPerOne) * 2 ^ 52 = 2 ^ n.log2 * unitsPerOne := by
  unfold unitsPerOne
  exact gap_mul_two_pow (w := 1074) hn (by decide)

/-! ## Rounding whole numbers -/

/-- A double that is a whole number is the nearest one to it. -/
theorem IsWhole.eq_ofWhole (h : x.IsWhole a n) : x = ofWhole a n := by
  obtain ⟨rank, rfl, hunits⟩ := h
  rw [ofWhole, round, ← hunits, nearest_units_one, ofRank_rank]

/-- **Whole numbers are rounded to whole numbers**, and are missed by their offset. -/
theorem exists_units_nearest_eq (n : Nat) : ∃ m, units (nearest (n * unitsPerOne) 1) = m * unitsPerOne ∧
    (m + offset n = n ∨ m = n + offset n) := by
  have hcases := units_nearest_one (n * unitsPerOne)
  rw [offset_mul_unitsPerOne] at hcases
  rcases hcases with h | h
  · have hle : offset n ≤ n := by
      refine Nat.le_of_mul_le_mul_right (?_ : offset n * unitsPerOne ≤ n * unitsPerOne) unitsPerOne_pos
      omega
    refine ⟨n - offset n, ?_, .inl (Nat.sub_add_cancel hle)⟩
    rw [Nat.sub_mul]
    omega
  · exact ⟨n + offset n, by rw [h, Nat.add_mul], .inr rfl⟩

/-- The least whole number that is rounded to infinity: the midpoint between the last double and the power of two after
it. -/
def overflow : Nat := 2 ^ 1024 - 2 ^ 970

/-- The midpoint between the last double and the power of two after it. -/
theorem units_last_midpoint : units (rankCount - 1) + units (rankCount - 1 + 1) = 2 * (overflow * unitsPerOne) := by
  decide +kernel

theorem rankCount_sub_one_odd : (rankCount - 1) % 2 = 1 := by
  decide

/-- The ranks of the doubles are those up to the last one. -/
theorem lt_rankCount_iff {k : Nat} : k < rankCount ↔ ¬rankCount - 1 < k := by
  have hpositive : 0 < rankCount := by decide
  generalize rankCount = count at hpositive ⊢
  omega

/-- **The whole numbers below the overflow** are rounded to doubles, and no others. -/
theorem nearest_whole_lt_iff : nearest (n * unitsPerOne) 1 < rankCount ↔ n < overflow := by
  rw [lt_rankCount_iff, lt_nearest_iff Nat.one_pos, Nat.one_mul, units_last_midpoint,
    and_iff_left rankCount_sub_one_odd, ← Nat.le_iff_lt_or_eq, Nat.not_le, Nat.mul_lt_mul_left (by decide),
    Nat.mul_lt_mul_right unitsPerOne_pos]

theorem ofWhole_eq_finite (a : Bool) (h : nearest (n * unitsPerOne) 1 < rankCount) :
    ofWhole a n = finite a ⟨nearest (n * unitsPerOne) 1, h⟩ := dif_pos h

theorem ofWhole_eq_infinite (a : Bool) (h : overflow ≤ n) : ofWhole a n = infinite a :=
  dif_neg fun hlt => Nat.not_lt_of_le h (nearest_whole_lt_iff.1 hlt)

/-- A whole number below the overflow that rounding does not miss is a double. -/
theorem isWhole_ofNat_of_offset (hoffset : offset n = 0) (hlt : n < overflow) : (ofNat n).IsWhole false n := by
  obtain ⟨m, hunits, hm⟩ := exists_units_nearest_eq n
  obtain rfl : m = n := by omega
  exact ⟨_, ofWhole_eq_finite false (nearest_whole_lt_iff.2 hlt), hunits⟩

theorem offset_of_lt (h : n < 2 ^ 53) : offset n = 0 := by rw [offset, gap_of_lt h, Nat.mod_one, Nat.zero_min]

/-- Whole numbers of at most 53 bits are doubles. -/
theorem isWhole_ofNat (h : n < 2 ^ 53) : (ofNat n).IsWhole false n :=
  isWhole_ofNat_of_offset (offset_of_lt h) (Nat.lt_trans h (by decide +kernel))

/-- The powers of ten whose odd part has at most 53 bits are doubles. -/
theorem isWhole_power_of_ten (h : n ≤ 22) : (ofNat (10 ^ n)).IsWhole false (10 ^ n) := by
  have hodd : 5 ^ n < 2 ^ 53 := Nat.lt_of_le_of_lt (Nat.pow_le_pow_right (by decide) h) (by decide)
  have hlt : 10 ^ n < overflow := Nat.lt_of_le_of_lt (Nat.pow_le_pow_right (by decide) h) (by decide +kernel)
  have hoffset : offset (10 ^ n) = 0 := by
    rw [show 10 ^ n = 5 ^ n * 2 ^ n from Nat.mul_pow 5 2 n, offset_mul_two_pow, offset_of_lt hodd, Nat.zero_mul]
  exact isWhole_ofNat_of_offset hoffset hlt

/-! ## Arithmetic -/

theorem IsWhole.roundEven (h : x.IsWhole a n) : x.roundEven = x := by
  have hwhole := h.eq_ofWhole
  obtain ⟨rank, rfl, hunits⟩ := h
  have hchoice : evenWhole n 0 = n := by
    rw [evenWhole, Nat.mul_zero, if_pos unitsPerOne_pos]
  rw [Binary64.roundEven, toWhole, hunits, Nat.mul_div_cancel _ unitsPerOne_pos, Nat.mul_mod_left, hchoice, hwhole]

/-- The product of whole numbers is the whole number nearest to the exact one. -/
theorem IsWhole.mul (hx : x.IsWhole a n) (hy : y.IsWhole b m) : x.mul y = ofWhole (a != b) (n * m) := by
  obtain ⟨j, rfl, hj⟩ := hx
  obtain ⟨k, rfl, hk⟩ := hy
  rw [Binary64.mul, hj, hk, ofWhole]
  refine round_congr _ unitsPerOne_pos Nat.one_pos ?_
  ring

/-- The quotient of whole numbers is the double nearest to the exact one. -/
theorem IsWhole.div (hx : x.IsWhole a n) (hy : y.IsWhole b m) (hm : 0 < m) :
    x.div y = round (a != b) (n * unitsPerOne) m := by
  obtain ⟨j, rfl, hj⟩ := hx
  obtain ⟨k, rfl, hk⟩ := hy
  have hne : k.val ≠ 0 := by
    intro h
    rw [h] at hk
    exact (Nat.mul_pos hm unitsPerOne_pos).ne hk
  rw [Binary64.div, if_neg hne, hj, hk]
  refine round_congr _ (Nat.mul_pos hm unitsPerOne_pos) hm ?_
  ring

end Formula.Binary64
