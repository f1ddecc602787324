import Formula.Proofs.Binary64.Nearest
import Mathlib.Tactic.Ring

/-!
# Scaling up and down again

A number of units is rounded to a multiple of the gap there, and so is missed by its offset from those multiples. When a
magnitude is multiplied by a whole number and divided by it again, both results being rounded, what comes back depends
on the offset of the product alone.

* `offset`, `units_nearest_one` : what rounding misses.
* `nearest_scaled_eq_iff` : when a magnitude comes back.
* `nearest_scaled_adjacent` : otherwise one next to it comes back.
-/

namespace Formula.Binary64

/-! ## Rounding to a multiple of the gap -/

/-- How far `q` units are from the nearest multiple of the gap there. -/
def offset (q : Nat) : Nat := Min.min (q % gap q) (gap q - q % gap q)

theorem offset_le (q : Nat) : 2 * offset q ≤ gap q := by
  have := Nat.mod_lt q (gap_pos q)
  rw [offset]
  omega

/-- **Rounding misses a number of units by its offset.** -/
theorem units_nearest_one (q : Nat) :
    units (nearest q 1) + offset q = q ∨ units (nearest q 1) = q + offset q := by
  obtain ⟨hbelow, habove⟩ := units_rankBelow q
  have hsplit := Nat.div_add_mod' q (gap q)
  have hmod := Nat.mod_lt q (gap_pos q)
  rw [Nat.add_mul, Nat.one_mul] at habove
  simp only [nearest, Nat.div_one, Nat.one_mul, offset]
  split_ifs <;> omega

theorem nearest_units_one (k : Nat) : nearest (units k) 1 = k := by
  have := nearest_units k Nat.one_pos
  rwa [Nat.mul_one] at this

theorem offset_units (k : Nat) : offset (units k) = 0 := by
  have := units_nearest_one (units k)
  rw [nearest_units_one] at this
  omega

theorem log2_mul_two_pow {n : Nat} (hn : n ≠ 0) (w : Nat) : (n * 2 ^ w).log2 = n.log2 + w := by
  induction w with
  | zero => simp
  | succ w ih =>
    have hne : n * 2 ^ w ≠ 0 := Nat.mul_ne_zero hn (Nat.two_pow_pos w).ne'
    rw [Nat.pow_succ', Nat.mul_left_comm, Nat.log2_two_mul hne, ih, Nat.add_assoc]

/-- The offset of a multiple by a power of two is that multiple of the offset. -/
theorem offset_mul_two_pow (n w : Nat) : offset (n * 2 ^ w) = offset n * 2 ^ w := by
  rcases Nat.eq_zero_or_pos n with rfl | hn
  · simp [offset]
  have hlog := log2_mul_two_pow (Nat.pos_iff_ne_zero.1 hn) w
  by_cases h : 52 ≤ n.log2
  · have hgap : gap (n * 2 ^ w) = gap n * 2 ^ w := by
      rw [gap, gap, hlog, ← Nat.pow_add, Nat.sub_add_comm h]
    rw [offset, offset, hgap, Nat.mul_mod_mul_right, ← Nat.sub_mul, Nat.mul_min_mul_right]
  · -- both are multiples of the gap there
    have hone : gap n = 1 := by rw [gap, Nat.sub_eq_zero_of_le (by omega), Nat.pow_zero]
    have hdvd : gap (n * 2 ^ w) ∣ n * 2 ^ w := by
      refine Nat.dvd_trans (Nat.pow_dvd_pow 2 ?_) (Nat.dvd_mul_left _ n)
      omega
    simp [offset, hone, Nat.mod_one, Nat.mod_eq_zero_of_dvd hdvd]

/-- From the least full significand on, the gap is the power of two that is left of the leading bit. -/
theorem gap_mul_two_pow {n w : Nat} (hn : n ≠ 0) (hw : 52 ≤ w) : gap (n * 2 ^ w) * 2 ^ 52 = 2 ^ n.log2 * 2 ^ w := by
  rw [gap, log2_mul_two_pow hn, ← Nat.pow_add, ← Nat.pow_add, Nat.sub_add_cancel (by omega)]

/-! ## Scaling up and down again -/

/-- A magnitude with a full significand, the gap there, and what lies next to it; below the least significand of an
exponent the gap is half as wide. -/
theorem exists_significand {k : Nat} (hk : 2 ^ 52 ≤ k) : ∃ m w, 2 ^ 52 ≤ m ∧ m < 2 ^ 53 ∧ units k = m * 2 ^ w ∧
    gap (units k) = 2 ^ w ∧ units (k + 1) = units k + 2 ^ w ∧
    (m ≠ 2 ^ 52 → ∃ j, k = j + 1 ∧ units k = units j + 2 ^ w) := by
  obtain hlt | ⟨w, bits, hbits, rfl⟩ := rank_cases k
  · omega
  have hunits := units_eq w bits (by omega)
  have hlog : (2 ^ 52 + bits).log2 = 52 := (Nat.log2_eq_iff (by omega)).2 (by omega)
  refine ⟨2 ^ 52 + bits, w, by omega, by omega, hunits, ?_, ?_, fun hm => ?_⟩
  · rw [gap, hunits, log2_mul_two_pow (by omega), hlog, Nat.add_sub_cancel_left]
  · rw [Nat.add_assoc, units_eq w (bits + 1) (by omega), hunits, ← Nat.add_assoc, Nat.succ_mul]
  · refine ⟨(w + 1) * 2 ^ 52 + (bits - 1), by omega, ?_⟩
    rw [hunits, units_eq w (bits - 1) (by omega), ← Nat.succ_mul]
    congr 1
    omega

/-- The offset of a product is never just half of what the scale makes of the gap: both are multiples of one power of
two, and what remains of the scale is odd. -/
theorem two_mul_offset_ne {k s t : Nat} (hk : 2 ^ 52 ≤ k) (hodd : s % 2 = 1) :
    2 * offset (units k * (s * 2 ^ t)) ≠ s * 2 ^ t * gap (units k) := by
  obtain ⟨m, w, -, -, hunits, hgap, -, -⟩ := exists_significand hk
  have hproduct : units k * (s * 2 ^ t) = m * s * 2 ^ (w + t) := by rw [hunits]; ring
  have hscaled : s * 2 ^ t * gap (units k) = s * 2 ^ (w + t) := by rw [hgap]; ring
  rw [hproduct, offset_mul_two_pow, hscaled, ← Nat.mul_assoc]
  intro heq
  have := Nat.eq_of_mul_eq_mul_right (Nat.two_pow_pos _) heq
  omega

/-- The least significand of an exponent has no offset at all when it is scaled. -/
theorem offset_power_scaled {s : Nat} (hs : s < 2 ^ 53) (w t : Nat) : offset (2 ^ 52 * 2 ^ w * (s * 2 ^ t)) = 0 := by
  have hproduct : 2 ^ 52 * 2 ^ w * (s * 2 ^ t) = s * 2 ^ (52 + w + t) := by ring
  rw [hproduct, offset_mul_two_pow, offset, gap_of_lt hs, Nat.mod_one, Nat.zero_min, Nat.zero_mul]

/-- **Scaling up and down again** by a number of at most 53 bits gives a number back just when what the product is
missed by, divided by the scale, is less than half the gap at the number. -/
theorem nearest_scaled_eq_iff {k s t : Nat} (hk : 2 ^ 52 ≤ k) (hodd : s % 2 = 1) (hs : s < 2 ^ 53) :
    nearest (units (nearest (units k * (s * 2 ^ t)) 1)) (s * 2 ^ t) = k ↔
      2 * offset (units k * (s * 2 ^ t)) < s * 2 ^ t * gap (units k) := by
  have hne := two_mul_offset_ne (t := t) hk hodd
  obtain ⟨m, w, hm, -, hunits, hgap, hnext, hprevious⟩ := exists_significand hk
  have hpower : m = 2 ^ 52 → offset (units k * (s * 2 ^ t)) = 0 := by
    rintro rfl
    rw [hunits, offset_power_scaled hs]
  have hscale : 0 < s * 2 ^ t := Nat.mul_pos (by omega) (Nat.two_pow_pos t)
  rw [← hgap] at hnext hprevious
  generalize hproduct : units k * (s * 2 ^ t) = q at hne hpower ⊢
  generalize s * 2 ^ t = den at hproduct hscale hne ⊢
  have hwide : 0 < den * gap (units k) := Nat.mul_pos hscale (gap_pos _)
  by_cases hlow : units (nearest q 1) + offset q = q ∧ offset q ≠ 0
  · -- the product is rounded down, and so the quotient is not above the number
    obtain ⟨j, rfl, hj⟩ := hprevious fun hm => hlow.2 (hpower hm)
    have hle : nearest (units (nearest q 1)) den ≤ j + 1 := nearest_le hscale (by omega)
    have hbeyond : j < nearest (units (nearest q 1)) den ↔ 2 * offset q < den * gap (units (j + 1)) := by
      have hdouble : den * (units j + units (j + 1)) + den * gap (units (j + 1)) = 2 * q := by
        rw [← Nat.mul_add, ← hproduct, Nat.mul_comm _ den, Nat.mul_left_comm]
        congr 1
        omega
      rw [lt_nearest_iff hscale]
      omega
    omega
  · -- the product is not rounded down, and so the quotient is not below the number
    have hhigh : units (nearest q 1) = q + offset q := by
      have := units_nearest_one q
      omega
    have hge : k ≤ nearest (units (nearest q 1)) den := le_nearest hscale (by omega)
    have hbeyond : k < nearest (units (nearest q 1)) den ↔ den * gap (units k) < 2 * offset q := by
      rw [lt_nearest_iff hscale, hnext, Nat.mul_add, Nat.mul_add, Nat.mul_comm den, hhigh]
      omega
    omega

/-- The offset of a product is at most what the scale makes of the gap. -/
theorem offset_scaled_le {k den : Nat} (hk : 2 ^ 52 ≤ k) (hden : 0 < den) :
    offset (units k * den) ≤ den * gap (units k) := by
  obtain ⟨m, w, hm, hm', hunits, hgap, -, -⟩ := exists_significand hk
  have hlower : 2 ^ 52 ≤ units k * den :=
    Nat.le_trans (Nat.le_trans hk (units_strictMono.le_apply)) (Nat.le_mul_of_pos_right _ hden)
  have hupper : units k * den < 2 ^ 53 * (den * gap (units k)) := by
    rw [hgap, hunits, Nat.mul_assoc, Nat.mul_comm (2 ^ w)]
    exact Nat.mul_lt_mul_of_pos_right hm' (Nat.mul_pos hden (Nat.two_pow_pos w))
  have hwidth : gap (units k * den) * 2 ^ 52 ≤ units k * den := by
    rw [gap, ← Nat.pow_add, Nat.sub_add_cancel ((Nat.le_log2 (by omega)).2 hlower)]
    exact Nat.log2_self_le (by omega)
  have := offset_le (units k * den)
  omega

/-- A magnitude that does not come back is replaced by one next to it. -/
theorem nearest_scaled_adjacent {k s t : Nat} (hk : 2 ^ 52 ≤ k) (hodd : s % 2 = 1) (hs : s < 2 ^ 53) :
    k ≤ nearest (units (nearest (units k * (s * 2 ^ t)) 1)) (s * 2 ^ t) + 1 ∧
      nearest (units (nearest (units k * (s * 2 ^ t)) 1)) (s * 2 ^ t) ≤ k + 1 := by
  obtain ⟨m, w, hm, -, hunits, hgap, hnext, hprevious⟩ := exists_significand hk
  have hscale : 0 < s * 2 ^ t := Nat.mul_pos (by omega) (Nat.two_pow_pos t)
  have hpower : m = 2 ^ 52 → offset (units k * (s * 2 ^ t)) = 0 := by
    rintro rfl
    rw [hunits, offset_power_scaled hs]
  have hoffset := offset_scaled_le hk hscale
  have hcases := units_nearest_one (units k * (s * 2 ^ t))
  rw [hgap] at hoffset
  constructor
  · by_cases hm' : m = 2 ^ 52
    · exact Nat.le_succ_of_le (le_nearest hscale (by have := hpower hm'; omega))
    · obtain ⟨j, rfl, hj⟩ := hprevious hm'
      refine Nat.succ_le_succ (le_nearest hscale ?_)
      have hproduct : units (j + 1) * (s * 2 ^ t) = units j * (s * 2 ^ t) + s * 2 ^ t * 2 ^ w := by
        rw [hj, Nat.add_mul, Nat.mul_comm (2 ^ w)]
      omega
  · refine nearest_le hscale ?_
    rw [hnext, Nat.add_mul, Nat.mul_comm (2 ^ w)]
    omega

end Formula.Binary64
