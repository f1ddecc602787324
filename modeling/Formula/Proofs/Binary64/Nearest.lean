import Formula.Binary64.Nearest
import Mathlib.Order.WellFounded
import Mathlib.Tactic.SplitIfs

/-!
# Magnitudes and rounding

* `units_strictMono`, `units_rankBelow` : the magnitudes ascend with their ranks, and the two around a number are the
  multiples of the gap there on both sides of it.
* `nearest_congr` : only the ratio of a fraction counts.
* `lt_nearest_iff` : which fractions round beyond a rank, told by the midpoint to the next one.
* `le_nearest`, `nearest_le`, `nearest_units` : rounding passes over no magnitude, and keeps one.
* `nearest_eq_zero`, `round_zero` : what is at most half the least positive magnitude rounds to zero.
* `round_eq_infinite` : what is not below the magnitude after the last finite one is infinite.
-/

namespace Formula.Binary64

/-! ## Magnitudes -/

theorem units_of_lt {k : Nat} (h : k < 2 ^ 52) : units k = k := if_pos h

/-- A rank from the first full significand on is an exponent and the bits below the leading one. Twice the first
significand of an exponent is the first one of the next. -/
theorem units_eq (exponent bits : Nat) (h : bits ≤ 2 ^ 52) :
    units ((exponent + 1) * 2 ^ 52 + bits) = (2 ^ 52 + bits) * 2 ^ exponent := by
  rcases Nat.lt_or_eq_of_le h with h | rfl
  · have hdiv : ((exponent + 1) * 2 ^ 52 + bits) / 2 ^ 52 = exponent + 1 := by omega
    have hmod : ((exponent + 1) * 2 ^ 52 + bits) % 2 ^ 52 = bits := by omega
    rw [units, if_neg (by omega), hdiv, hmod, Nat.add_sub_cancel]
  · have hdiv : ((exponent + 1) * 2 ^ 52 + 2 ^ 52) / 2 ^ 52 = exponent + 2 := by omega
    have hmod : ((exponent + 1) * 2 ^ 52 + 2 ^ 52) % 2 ^ 52 = 0 := by omega
    have hsucc : 2 ^ (exponent + 1) = 2 * 2 ^ exponent := Nat.pow_succ'
    rw [units, if_neg (by omega), hdiv, hmod, Nat.add_zero, show exponent + 2 - 1 = exponent + 1 by omega, hsucc,
      ← Nat.mul_assoc]

/-- A rank is below the first full significand or has an exponent and bits. -/
theorem rank_cases (k : Nat) : k < 2 ^ 52 ∨ ∃ exponent bits, bits < 2 ^ 52 ∧ k = (exponent + 1) * 2 ^ 52 + bits := by
  rcases Nat.lt_or_ge k (2 ^ 52) with h | h
  · exact .inl h
  · exact .inr ⟨k / 2 ^ 52 - 1, k % 2 ^ 52, Nat.mod_lt _ (by decide), by omega⟩

theorem units_lt_units_succ (k : Nat) : units k < units (k + 1) := by
  rcases rank_cases k with hk | ⟨e, bits, hbits, rfl⟩
  · rcases Nat.lt_or_ge (k + 1) (2 ^ 52) with hk' | hk'
    · rw [units_of_lt hk, units_of_lt hk']
      omega
    · have hnext := units_eq 0 0 (by decide)
      rw [show k + 1 = (0 + 1) * 2 ^ 52 + 0 by omega, hnext, units_of_lt hk]
      omega
  · rw [Nat.add_assoc, units_eq e bits (by omega), units_eq e (bits + 1) (by omega)]
    exact Nat.mul_lt_mul_of_pos_right (by omega) (Nat.two_pow_pos e)

theorem units_strictMono : StrictMono units := strictMono_nat_of_lt_succ units_lt_units_succ

/-- How far apart the magnitudes around `q` units lie: the value of the last of 53 bits. -/
def gap (q : Nat) : Nat := 2 ^ (q.log2 - 52)

theorem gap_pos (q : Nat) : 0 < gap q := Nat.two_pow_pos _

theorem gap_of_lt {q : Nat} (h : q < 2 ^ 53) : gap q = 1 := by
  have hlog : q.log2 < 53 := by
    rcases Nat.eq_zero_or_pos q with rfl | hq
    · decide
    · exact (Nat.log2_lt (by omega)).2 h
  rw [gap, show q.log2 - 52 = 0 by omega, Nat.pow_zero]

/-- **The ranks around a number of units**: their magnitudes are the multiples of the gap on both sides of it. -/
theorem units_rankBelow (q : Nat) :
    units (rankBelow q) = q / gap q * gap q ∧ units (rankBelow q + 1) = (q / gap q + 1) * gap q := by
  by_cases hq : q < 2 ^ 53
  · have hsmall (k : Nat) (hk : k ≤ 2 ^ 53) : units k = k := by
      rcases Nat.lt_or_ge k (2 ^ 52) with h | h
      · exact units_of_lt h
      · have := units_eq 0 (k - 2 ^ 52) (by omega)
        rw [show (0 + 1) * 2 ^ 52 + (k - 2 ^ 52) = k by omega] at this
        omega
    rw [rankBelow, if_pos hq, gap_of_lt hq, hsmall q (by omega), hsmall (q + 1) (by omega)]
    simp
  · -- the leading bits of the number are a full significand, and the last place of it is that of the others
    have hne : q ≠ 0 := by omega
    have hlog : 53 ≤ q.log2 := (Nat.le_log2 hne).2 (by omega)
    obtain ⟨e, he⟩ : ∃ e, q.log2 = 52 + e := ⟨q.log2 - 52, by omega⟩
    have hpow : 0 < 2 ^ e := Nat.two_pow_pos e
    have hlower : 2 ^ 52 ≤ q / 2 ^ e := by
      rw [Nat.le_div_iff_mul_le hpow, ← Nat.pow_add, ← he]
      exact Nat.log2_self_le hne
    have hupper : q / 2 ^ e < 2 ^ 53 := by
      rw [Nat.div_lt_iff_lt_mul hpow, ← Nat.pow_add, show 53 + e = q.log2 + 1 by omega]
      exact Nat.lt_log2_self
    have hrank : rankBelow q = (e + 1) * 2 ^ 52 + (q / 2 ^ e - 2 ^ 52) := by
      rw [rankBelow, if_neg hq, he, Nat.add_sub_cancel_left]
      omega
    rw [hrank, gap, he, Nat.add_sub_cancel_left, Nat.add_assoc, units_eq e _ (by omega), units_eq e _ (by omega),
      ← Nat.add_assoc, Nat.add_sub_cancel' hlower]
    exact ⟨rfl, rfl⟩

/-- **The magnitude below is not beyond.** -/
theorem units_rankBelow_le (q : Nat) : units (rankBelow q) ≤ q := by
  rw [(units_rankBelow q).1]
  exact Nat.div_mul_le_self q (gap q)

/-- **The next magnitude is beyond.** -/
theorem lt_units_rankBelow_succ (q : Nat) : q < units (rankBelow q + 1) := by
  rw [(units_rankBelow q).2]
  exact Nat.lt_mul_of_div_lt (Nat.lt_succ_self _) (gap_pos q)

/-! ## Rounding -/

theorem nearest_mul_right (num den : Nat) {c : Nat} (hc : 0 < c) : nearest (num * c) (den * c) = nearest num den := by
  have hnum : 2 * (num * c) = 2 * num * c := by rw [Nat.mul_assoc]
  have hden (u : Nat) : den * c * u = den * u * c := by rw [Nat.mul_assoc, Nat.mul_comm c, ← Nat.mul_assoc]
  simp only [nearest, Nat.mul_div_mul_right _ _ hc, hnum, hden, Nat.mul_lt_mul_right hc]

/-- **Only the ratio counts.** -/
theorem nearest_congr {num den num' den' : Nat} (hden : 0 < den) (hden' : 0 < den') (h : num * den' = num' * den) :
    nearest num den = nearest num' den' := by
  rw [← nearest_mul_right num den hden', ← nearest_mul_right num' den' hden, h, Nat.mul_comm den den']

/-- **Rounding goes beyond a rank** just when the fraction is beyond the midpoint to the next one, or on it and the rank
is odd. -/
theorem lt_nearest_iff {k num den : Nat} (hden : 0 < den) : k < nearest num den ↔
    den * (units k + units (k + 1)) < 2 * num ∨ den * (units k + units (k + 1)) = 2 * num ∧ k % 2 = 1 := by
  have hbounds : rankBelow (num / den) ≤ nearest num den ∧ nearest num den ≤ rankBelow (num / den) + 1 := by
    simp only [nearest]
    split_ifs <;> omega
  have hbelow : den * units (rankBelow (num / den)) ≤ num := by
    rw [Nat.mul_comm]
    exact (Nat.le_div_iff_mul_le hden).1 (units_rankBelow_le _)
  have habove : num < den * units (rankBelow (num / den) + 1) := by
    rw [Nat.mul_comm]
    exact (Nat.div_lt_iff_lt_mul hden).1 (lt_units_rankBelow_succ _)
  rcases Nat.lt_trichotomy k (rankBelow (num / den)) with hk | hk | hk
  · -- the midpoint is below the magnitude below the fraction
    have hmidpoint : den * (units k + units (k + 1)) < 2 * (den * units (rankBelow (num / den))) := by
      have hk' := units_strictMono.le_iff_le.2 (show k + 1 ≤ rankBelow (num / den) from hk)
      have := units_lt_units_succ k
      rw [Nat.mul_left_comm]
      exact Nat.mul_lt_mul_of_pos_left (by omega) hden
    omega
  · subst hk
    simp only [nearest]
    split_ifs <;> omega
  · -- the midpoint is beyond the next magnitude
    have hmidpoint : 2 * (den * units (rankBelow (num / den) + 1)) < den * (units k + units (k + 1)) := by
      have hk' := units_strictMono.le_iff_le.2 (show rankBelow (num / den) + 1 ≤ k from hk)
      have := units_lt_units_succ k
      rw [Nat.mul_left_comm]
      exact Nat.mul_lt_mul_of_pos_left (by omega) hden
    omega

/-- **Rounding does not go below a magnitude** that is not above. -/
theorem le_nearest {k num den : Nat} (hden : 0 < den) (h : units k * den ≤ num) : k ≤ nearest num den := by
  cases k with
  | zero => exact Nat.zero_le _
  | succ j =>
    refine (lt_nearest_iff hden).2 (.inl ?_)
    have hlt := Nat.mul_lt_mul_of_pos_left (units_lt_units_succ j) hden
    rw [Nat.mul_comm] at h
    rw [Nat.mul_add]
    omega

/-- **Rounding does not go beyond a magnitude** that is not below. -/
theorem nearest_le {k num den : Nat} (hden : 0 < den) (h : num ≤ units k * den) : nearest num den ≤ k := by
  refine Nat.le_of_not_lt fun hk => ?_
  have hmidpoint := (lt_nearest_iff hden).1 hk
  have hlt := Nat.mul_lt_mul_of_pos_left (units_lt_units_succ k) hden
  rw [Nat.mul_comm] at h
  rw [Nat.mul_add] at hmidpoint
  omega

/-- **A magnitude is nearest to itself.** -/
theorem nearest_units (k : Nat) {den : Nat} (hden : 0 < den) : nearest (units k * den) den = k :=
  Nat.le_antisymm (nearest_le hden (Nat.le_refl _)) (le_nearest hden (Nat.le_refl _))

theorem round_congr (negative : Bool) {num den num' den' : Nat} (hden : 0 < den) (hden' : 0 < den')
    (h : num * den' = num' * den) : round negative num den = round negative num' den' := by
  rw [round, round, nearest_congr hden hden' h]

/-- What is not below the magnitude after the last finite one is infinite. -/
theorem round_eq_infinite (negative : Bool) {num den : Nat} (hden : 0 < den) (h : units rankCount * den ≤ num) :
    round negative num den = infinite negative := by
  rw [round, ofRank, dif_neg (Nat.not_lt_of_le (le_nearest hden h))]

/-- At most half the least positive magnitude rounds to zero. -/
theorem nearest_eq_zero {num den : Nat} (hden : 0 < den) (h : 2 * num ≤ den) : nearest num den = 0 := by
  have hunits : units 0 + units (0 + 1) = 1 := by decide
  refine Nat.eq_zero_of_not_pos fun hpos => ?_
  have hmidpoint := (lt_nearest_iff hden).1 hpos
  rw [hunits] at hmidpoint
  omega

theorem ofRank_zero (negative : Bool) : ofRank negative 0 = zero negative := by
  simp [ofRank, zero]

/-- **Nothing rounds to zero**, and keeps its sign. -/
theorem round_zero (negative : Bool) (den : Nat) : round negative 0 den = zero negative := by
  have hnearest : nearest 0 den = 0 := by
    rcases Nat.eq_zero_or_pos den with rfl | hden
    · rfl
    · exact nearest_eq_zero hden (Nat.zero_le _)
  rw [round, hnearest, ofRank_zero]

end Formula.Binary64
