import Formula.Proofs.Binary64.Whole
import Mathlib.Algebra.Order.Field.Rat
import Mathlib.Tactic.Linarith

/-!
# Correct rounding

What rounding is meant to do, said of rational numbers without computing anything. The nearest magnitude is taken, and
of two equally near the one of even rank; the exponent is not bounded in this, and what then lies beyond the last double
is infinite.

* `IsNearest`, `RoundsTo` : the rank nearest to a number, and the double that it is rounded to.
* `isNearest_iff` : the ranks below the nearest one are those whose midpoint to the next rank is passed.
* `roundsTo_iff`, `RoundsTo.unique`, `exists_roundsTo` : `round` finds the double that a fraction is rounded to, and
  there is one double for every number.
* `RoundsTo.isFinite_eq_false_iff` : which numbers are rounded to infinity.
-/

namespace Formula.Binary64

/-- The number that is the magnitude of rank `k`. -/
def magnitude (k : Nat) : ℚ := units k / unitsPerOne

/-- No magnitude is nearer to the number than that of rank `k`, and the rank is even if another is as near. -/
structure IsNearest (q : ℚ) (k : Nat) : Prop where
  closest : ∀ j, |q - magnitude k| ≤ |q - magnitude j|
  even : ∀ j, j ≠ k → |q - magnitude k| = |q - magnitude j| → k % 2 = 0

/-- The number, which is not negative, is correctly rounded to the double. -/
def RoundsTo (q : ℚ) (x : Binary64) : Prop := ∃ k, IsNearest q k ∧ ofRank false k = x

/-! ## Midpoints -/

section

variable {a b q : ℚ}

theorem nearer_right_iff (h : a < b) : |q - b| ≤ |q - a| ↔ a + b ≤ 2 * q := by
  rcases abs_cases (q - a) with ⟨ha, _⟩ | ⟨ha, _⟩ <;> rcases abs_cases (q - b) with ⟨hb, _⟩ | ⟨hb, _⟩ <;>
    constructor <;> intro <;> linarith

theorem nearer_left_iff (h : a < b) : |q - a| ≤ |q - b| ↔ 2 * q ≤ a + b := by
  rcases abs_cases (q - a) with ⟨ha, _⟩ | ⟨ha, _⟩ <;> rcases abs_cases (q - b) with ⟨hb, _⟩ | ⟨hb, _⟩ <;>
    constructor <;> intro <;> linarith

/-- Two numbers are equally near to the one halfway between them. -/
theorem equally_near_iff (h : a < b) : |q - a| = |q - b| ↔ a + b = 2 * q := by
  rw [le_antisymm_iff, le_antisymm_iff, nearer_left_iff h, nearer_right_iff h, and_comm]

end

section

variable {q : ℚ} {j k num den : Nat}

theorem unitsPerOne_cast_pos : (0 : ℚ) < unitsPerOne := Nat.cast_pos.2 unitsPerOne_pos

theorem magnitude_strictMono : StrictMono magnitude := fun j k h => by
  have hunits : (units j : ℚ) < units k := Nat.cast_lt.2 (units_strictMono h)
  exact div_lt_div_of_pos_right hunits unitsPerOne_cast_pos

/-- The number is beyond the midpoint of rank `j` and the next one, or on it and rank `j` is odd. -/
def Passes (q : ℚ) (j : Nat) : Prop :=
  magnitude j + magnitude (j + 1) < 2 * q ∨ magnitude j + magnitude (j + 1) = 2 * q ∧ j % 2 = 1

theorem magnitude_le_iff : magnitude j ≤ magnitude k ↔ j ≤ k := magnitude_strictMono.le_iff_le

/-- The midpoints of the ranks below the nearest one are passed, and no others. -/
theorem IsNearest.lt_iff (h : IsNearest q k) (j : Nat) : j < k ↔ Passes q j := by
  constructor
  · intro hj
    have hnear := (nearer_right_iff (magnitude_strictMono hj)).1 (h.closest j)
    have hnext := magnitude_le_iff.2 (show j + 1 ≤ k from hj)
    rcases lt_or_eq_of_le (show magnitude j + magnitude (j + 1) ≤ 2 * q by linarith) with hlt | heq
    · exact .inl hlt
    · -- on the midpoint the next rank is the nearest one, and so it is even
      obtain rfl : j + 1 = k := le_antisymm hj (magnitude_le_iff.1 (by linarith))
      have := h.even j (by omega) ((equally_near_iff (magnitude_strictMono hj)).2 heq).symm
      exact .inr ⟨heq, by omega⟩
  · intro hpasses
    by_contra hj
    have hnear := (nearer_left_iff (magnitude_strictMono (show k < j + 1 by omega))).1 (h.closest (j + 1))
    have hle := magnitude_le_iff.2 (show k ≤ j by omega)
    rcases hpasses with hlt | ⟨heq, hodd⟩
    · linarith
    · obtain rfl : k = j := le_antisymm (by omega) (magnitude_le_iff.1 (by linarith))
      have := h.even (k + 1) (by omega) ((equally_near_iff (magnitude_strictMono (by omega))).2 heq)
      omega

/-- A rank is the nearest one if the midpoints below it are passed and its own is not. -/
theorem isNearest_of_lt_iff (h : ∀ j, j < k ↔ Passes q j) : IsNearest q k := by
  have habove : ¬Passes q k := mt (h k).2 (lt_irrefl k)
  rw [Passes, not_or, not_lt, not_and] at habove
  constructor
  case closest =>
    intro j
    rcases lt_trichotomy j k with hj | rfl | hj
    · obtain ⟨i, rfl⟩ : ∃ i, k = i + 1 := ⟨k - 1, by omega⟩
      have hpasses := (h i).1 (Nat.lt_succ_self i)
      have hle := magnitude_le_iff.2 (show j ≤ i by omega)
      refine (nearer_right_iff (magnitude_strictMono hj)).2 ?_
      rcases hpasses with hlt | ⟨heq, -⟩ <;> linarith
    · exact le_refl _
    · have hle := magnitude_le_iff.2 (show k + 1 ≤ j from hj)
      exact (nearer_left_iff (magnitude_strictMono hj)).2 (by linarith)
  case even =>
    intro j hne hnear
    rcases lt_or_gt_of_ne hne with hj | hj
    · -- the midpoint to the rank below is just reached, and so that rank is odd
      obtain ⟨i, rfl⟩ : ∃ i, k = i + 1 := ⟨k - 1, by omega⟩
      have hmidpoint := (equally_near_iff (magnitude_strictMono hj)).1 hnear.symm
      have hle := magnitude_le_iff.2 (show j ≤ i by omega)
      rcases (h i).1 (Nat.lt_succ_self i) with hlt | ⟨-, hodd⟩
      · linarith
      · omega
    · have hmidpoint := (equally_near_iff (magnitude_strictMono hj)).1 hnear
      have hle := magnitude_le_iff.2 (show k + 1 ≤ j from hj)
      have hodd := habove.2 (by linarith)
      omega

/-- **The nearest rank** is the one below which the midpoints are passed, and no others. -/
theorem isNearest_iff : IsNearest q k ↔ ∀ j, j < k ↔ Passes q j := ⟨IsNearest.lt_iff, isNearest_of_lt_iff⟩

/-! ## Fractions -/

/-- The midpoint of a rank in units. -/
theorem passes_iff (hden : 0 < den) (hq : q * (den * unitsPerOne) = num) :
    Passes q k ↔ k < nearest num den := by
  have hden' : (0 : ℚ) < den := Nat.cast_pos.2 hden
  have hunits := unitsPerOne_cast_pos
  have hscaled : (magnitude k + magnitude (k + 1)) * (den * unitsPerOne) = (den * (units k + units (k + 1)) : Nat) := by
    rw [magnitude, magnitude, ← add_div, mul_comm (den : ℚ), ← mul_assoc, div_mul_cancel₀ _ hunits.ne']
    push_cast
    ring
  have hpos : (0 : ℚ) < den * unitsPerOne := mul_pos hden' hunits
  have hdouble : 2 * q * (den * unitsPerOne) = (2 * num : Nat) := by
    push_cast
    rw [mul_assoc, hq]
  rw [lt_nearest_iff hden, Passes, ← mul_lt_mul_iff_left₀ hpos, ← mul_left_inj' hpos.ne', hscaled, hdouble, Nat.cast_lt,
    Nat.cast_inj]

/-- **The nearest rank to a fraction** is the one that is computed. -/
theorem isNearest_iff_nearest_eq (hden : 0 < den) (hq : q * (den * unitsPerOne) = num) :
    IsNearest q k ↔ nearest num den = k := by
  simp only [isNearest_iff, passes_iff hden hq]
  refine ⟨fun h => ?_, fun h j => by rw [h]⟩
  exact eq_of_forall_lt_iff fun j => (h j).symm

variable {x : Binary64}

/-- **Rounding a fraction** gives the double that it is correctly rounded to, and there is no other. -/
theorem roundsTo_iff (hden : 0 < den) (hq : q * (den * unitsPerOne) = num) :
    RoundsTo q x ↔ round false num den = x := by
  simp only [RoundsTo, isNearest_iff_nearest_eq hden hq, exists_eq_left']
  rfl

/-- A number is rounded to one double only. -/
theorem RoundsTo.unique {y : Binary64} (hx : RoundsTo q x) (hy : RoundsTo q y) : x = y := by
  obtain ⟨j, hj, rfl⟩ := hx
  obtain ⟨k, hk, rfl⟩ := hy
  rw [eq_of_forall_lt_iff fun i => (hj.lt_iff i).trans (hk.lt_iff i).symm]

/-- Every number that is not negative is rounded to a double. -/
theorem exists_roundsTo (hq : 0 ≤ q) : ∃ x, RoundsTo q x := by
  refine ⟨round false (q.num.toNat * unitsPerOne) q.den, (roundsTo_iff q.den_pos ?_).2 rfl⟩
  have hnum : ((q.num.toNat : Int) : ℚ) = q.num := by
    rw [Int.toNat_of_nonneg (Rat.num_nonneg.2 hq)]
  push_cast at hnum ⊢
  rw [hnum, ← mul_assoc, Rat.mul_den_eq_num]

/-- **What is rounded to infinity**: every number from the midpoint between the last double and the power of two after
it on. -/
theorem RoundsTo.isFinite_eq_false_iff (h : RoundsTo q x) : x.isFinite = false ↔ (overflow : ℚ) ≤ q := by
  obtain ⟨k, hk, rfl⟩ := h
  have hlast : magnitude (rankCount - 1) + magnitude (rankCount - 1 + 1) = 2 * overflow := by
    have hsum : ((units (rankCount - 1) + units (rankCount - 1 + 1) : Nat) : ℚ) = 2 * overflow * unitsPerOne := by
      rw [units_last_midpoint]
      push_cast
      ring
    rw [magnitude, magnitude, ← add_div, ← Nat.cast_add, hsum, mul_div_cancel_right₀ _ unitsPerOne_cast_pos.ne']
  have hfinite : (ofRank false k).isFinite = false ↔ rankCount - 1 < k := by
    rw [← not_iff_not, ← lt_rankCount_iff, ofRank]
    split <;> simp [isFinite, *]
  rw [hfinite, hk.lt_iff, Passes, hlast, and_iff_left rankCount_sub_one_odd, ← le_iff_lt_or_eq,
    mul_le_mul_iff_right₀ two_pos]

end

end Formula.Binary64
