import Formula.Eval
import Formula.Proofs.Binary64.Alike
import Formula.Proofs.Binary64.Whole

/-!
# Rounding whole numbers

A whole number has nothing to be rounded, but `round` scales it up and down again when it is asked for decimals, and
both steps are rounded. What comes back is told exactly.

* `Builtin.decimals` : how many decimals the arguments ask for.
* `Builtin.rescaled`, `Builtin.rescaled_whole` : the rank that comes back from scaling up and down again.
* `Builtin.Kept`, `Builtin.roundTo_whole` : which whole numbers rounding to decimals keeps.
* `Builtin.round_whole` : when `round` gives a whole number back, and what it gives otherwise.
-/

namespace Formula

namespace Builtin

open Binary64

/-- How many decimals a call of `round` asks for. -/
def decimals (args : List Value) : Nat := (secondNumber? args).elim 0 digits

theorem digits_le (x : Binary64) : digits x ≤ maxDigits := by
  cases x with
  | nan => exact Nat.zero_le _
  | infinite negative => cases negative <;> simp [digits]
  | finite negative k =>
    rw [digits]
    split
    · exact Nat.zero_le _
    · exact Nat.min_le_left _ _

theorem decimals_le (args : List Value) : decimals args ≤ maxDigits := by
  unfold decimals
  cases secondNumber? args with
  | none => exact Nat.zero_le _
  | some x => exact digits_le x

variable {x : Binary64} {a : Bool} {n d : Nat}

/-! ## The rank that comes back -/

/-- The rank that multiplying by a power of ten and dividing by it again leads to, both results being rounded. -/
def rescaled (d k : Nat) : Nat := nearest (units (nearest (units k * 10 ^ d) 1)) (10 ^ d)

theorem rescaled_zero (k : Nat) : rescaled 0 k = k := by
  rw [rescaled, Nat.pow_zero, Nat.mul_one, nearest_units_one, nearest_units_one]

/-- The scaled magnitude is not below what comes back. -/
theorem rescaled_le (d k : Nat) : rescaled d k ≤ nearest (units k * 10 ^ d) 1 :=
  nearest_le (Nat.pow_pos (by decide)) (Nat.le_mul_of_pos_right _ (Nat.pow_pos (by decide)))

/-- What the scaling of a whole number is missed by, in units. -/
theorem two_mul_offset_lt_iff (hn : n ≠ 0) : 2 * offset (n * unitsPerOne * 10 ^ d) < 10 ^ d * gap (n * unitsPerOne) ↔
    2 ^ 53 * offset (n * 10 ^ d) < 10 ^ d * 2 ^ n.log2 := by
  have hleft : 2 * offset (n * unitsPerOne * 10 ^ d) * 2 ^ 52 = 2 ^ 53 * offset (n * 10 ^ d) * unitsPerOne := by
    rw [Nat.mul_right_comm n, offset_mul_unitsPerOne]
    ring
  have hright : 10 ^ d * gap (n * unitsPerOne) * 2 ^ 52 = 10 ^ d * 2 ^ n.log2 * unitsPerOne := by
    rw [Nat.mul_assoc, gap_mul_unitsPerOne hn, Nat.mul_assoc]
  rw [← Nat.mul_lt_mul_right (Nat.two_pow_pos 52), hleft, hright, Nat.mul_lt_mul_right unitsPerOne_pos]

/-- **The whole numbers that come back**, and what comes back in place of the others. -/
theorem rescaled_whole {k : Nat} (hunits : units k = n * unitsPerOne) (hd : d ≤ maxDigits) :
    (rescaled d k = k ↔ 2 ^ 53 * offset (n * 10 ^ d) < 10 ^ d * 2 ^ n.log2) ∧
      k ≤ rescaled d k + 1 ∧ rescaled d k ≤ k + 1 := by
  rcases Nat.eq_zero_or_pos n with rfl | hn
  · obtain rfl : k = 0 := units_strictMono.injective (by rw [hunits, Nat.zero_mul, units_zero])
    have hzero : rescaled d 0 = 0 := Nat.le_zero.1 ((rescaled_le d 0).trans (by simp [units_zero, nearest_eq_zero]))
    simp [hzero, offset]
  · have hk : 2 ^ 52 ≤ k := by
      refine Nat.le_of_not_lt fun hk => ?_
      have hone : 2 ^ 52 ≤ unitsPerOne := by decide +kernel
      have := Nat.le_mul_of_pos_left unitsPerOne hn
      rw [units_of_lt hk] at hunits
      omega
    -- ten is twice five, and the powers of five have at most 53 bits
    have hten : 10 ^ d = 5 ^ d * 2 ^ d := Nat.mul_pow 5 2 d
    have hodd : 5 ^ d % 2 = 1 := by rw [Nat.pow_mod, Nat.one_pow]
    have hfive : 5 ^ d < 2 ^ 53 := Nat.lt_of_le_of_lt (Nat.pow_le_pow_right (by decide) hd) (by decide)
    rw [← two_mul_offset_lt_iff (Nat.pos_iff_ne_zero.1 hn), ← hunits, rescaled, hten]
    exact ⟨nearest_scaled_eq_iff hk hodd hfive, nearest_scaled_adjacent hk hodd hfive⟩

/-! ## Scaling -/

theorem isWhole_scale (hd : d ≤ maxDigits) : (Binary64.ofNat (10 ^ d)).IsWhole false (10 ^ d) := by
  refine isWhole_ofNat ?_
  calc 10 ^ d ≤ 10 ^ maxDigits := Nat.pow_le_pow_right (by decide) hd
    _ < 2 ^ 53 := by decide

theorem roundTo_zero (hx : x.IsWhole a n) : roundTo 0 x = x := by
  rw [roundTo, if_pos rfl, hx.roundEven]

/-- A whole number that is too large to be scaled is left alone. -/
theorem roundTo_beyond (hx : x.IsWhole a n) (hd : d ≤ maxDigits) (h : overflow ≤ n * 10 ^ d) :
    roundTo d x = x := by
  by_cases hzero : d = 0
  · rw [hzero, roundTo_zero hx]
  · simp only [roundTo, if_neg hzero, hx.mul (isWhole_scale hd), ofWhole_eq_infinite _ h]
    rfl

/-- Any other is scaled up and down again. -/
theorem roundTo_within {rank : Fin rankCount} (hunits : units rank = n * unitsPerOne) (hd : d ≤ maxDigits)
    (h : n * 10 ^ d < overflow) : roundTo d (finite a rank) = ofRank a (rescaled d rank) := by
  have hx : (finite a rank).IsWhole a n := ⟨rank, rfl, hunits⟩
  by_cases hzero : d = 0
  · rw [hzero, roundTo_zero hx, rescaled_zero, ofRank_rank]
  have hproduct : units rank * 10 ^ d = n * 10 ^ d * unitsPerOne := by rw [hunits, Nat.mul_right_comm]
  obtain ⟨m, hm, -⟩ := exists_units_nearest_eq (n * 10 ^ d)
  have hscaled : ((finite a rank).mul (.ofNat (10 ^ d))).IsWhole a m := by
    rw [hx.mul (isWhole_scale hd), Bool.bne_false, ofWhole_eq_finite a (nearest_whole_lt_iff.2 h)]
    exact ⟨_, rfl, hm⟩
  have hfinite : ((finite a rank).mul (.ofNat (10 ^ d))).isFinite = true := by
    obtain ⟨scaled, hscaled, -⟩ := hscaled
    rw [hscaled, isFinite]
  simp only [roundTo, if_neg hzero, hfinite, if_true, hscaled.roundEven]
  rw [hscaled.div (isWhole_scale hd) (Nat.pow_pos (by decide)), Bool.bne_false, rescaled, hproduct, hm, Binary64.round]

/-! ## Whole numbers -/

/-- Whether rounding to `d` decimals gives the whole number `n` back: its product with the power of ten is beyond the
doubles, or what that is missed by is less than the scale makes of half the gap at the number. -/
def Kept (d n : Nat) : Prop :=
  overflow ≤ n * 10 ^ d ∨ 2 ^ 53 * offset (n * 10 ^ d) < 10 ^ d * 2 ^ n.log2

instance (d n : Nat) : Decidable (Kept d n) := inferInstanceAs (Decidable (_ ∨ _))

/-- **A whole number that is rounded to decimals** stays the same just when it is kept, and otherwise becomes one of the
doubles next to it. -/
theorem roundTo_whole (hx : x.IsWhole a n) (hd : d ≤ maxDigits) : ∃ rank rank' : Fin rankCount, x = finite a rank ∧
    roundTo d x = finite a rank' ∧ (rank' = rank ↔ Kept d n) ∧ rank.val ≤ rank'.val + 1 ∧ rank'.val ≤ rank.val + 1 := by
  rcases Nat.lt_or_ge (n * 10 ^ d) overflow with hwithin | hbeyond
  · obtain ⟨rank, rfl, hunits⟩ := hx
    obtain ⟨hcomes, hadjacent⟩ := rescaled_whole hunits hd
    have hlt : rescaled d rank < rankCount := by
      refine Nat.lt_of_le_of_lt (rescaled_le d rank) ?_
      rw [hunits, Nat.mul_right_comm]
      exact nearest_whole_lt_iff.2 hwithin
    refine ⟨rank, ⟨rescaled d rank, hlt⟩, rfl, ?_, ?_, hadjacent⟩
    · rw [roundTo_within hunits hd hwithin, ofRank, dif_pos hlt]
    · rw [Fin.ext_iff, hcomes, Kept, or_iff_right (Nat.not_le_of_lt hwithin)]
  · have hround := roundTo_beyond hx hd hbeyond
    obtain ⟨rank, rfl, -⟩ := hx
    exact ⟨rank, rank, rfl, hround, iff_of_true rfl (.inl hbeyond), Nat.le_succ _, Nat.le_succ _⟩

/-- A whole number is kept when no decimals are asked for, or when scaling takes it to at most 53 bits besides the
powers of two. -/
theorem kept_of_small (hx : x.IsWhole a n) (h : d = 0 ∨ n * 5 ^ d < 2 ^ 53) : Kept d n := by
  have hoffset : offset (n * 10 ^ d) = 0 := by
    rcases h with rfl | h
    · obtain ⟨rank, -, hunits⟩ := hx
      have := offset_units rank
      rw [hunits, offset_mul_unitsPerOne] at this
      rw [Nat.pow_zero, Nat.mul_one]
      exact (Nat.mul_eq_zero.1 this).resolve_right unitsPerOne_pos.ne'
    · rw [show 10 ^ d = 5 ^ d * 2 ^ d from Nat.mul_pow 5 2 d, ← Nat.mul_assoc, offset_mul_two_pow, offset, gap_of_lt h,
        Nat.mod_one, Nat.zero_min, Nat.zero_mul]
  refine .inr ?_
  rw [hoffset, Nat.mul_zero]
  exact Nat.mul_pos (Nat.pow_pos (by decide)) (Nat.two_pow_pos _)

theorem same_finite_iff {j k : Fin rankCount} : (finite a j).same (finite a k) = true ↔ j = k := by
  have hsigned : signed a (units j) = signed a (units k) ↔ units j = units k := by
    cases a <;> simp [signed]
  simp [Binary64.same, related, key?, hsigned, units_strictMono.injective.eq_iff, Fin.ext_iff]

/-- **Rounding a whole number**: `round` gives a number for it, whatever it is told about decimals, and that number is
equal to it just when the whole number is kept. A whole number that is not kept becomes one of the doubles next to
it. -/
theorem round_whole {args : List Value} (hx : firstNumber? args = some x) (hn : x.IsWhole a n) :
    ∃ rank rank' : Fin rankCount, x = finite a rank ∧ callBuiltin "round" args = .ok (.number (finite a rank')) ∧
      (Value.same (.number (finite a rank')) (.number x) = true ↔ Kept (decimals args) n) ∧
      (rank' = rank ↔ Kept (decimals args) n) ∧ rank.val ≤ rank'.val + 1 ∧ rank'.val ≤ rank.val + 1 ∧
      (decimals args = 0 ∨ n * 5 ^ decimals args < 2 ^ 53 → Kept (decimals args) n) := by
  obtain ⟨rank, rank', rfl, hround, hkept, hadjacent⟩ := roundTo_whole hn (decimals_le args)
  have hcall : callBuiltin "round" args = .ok (.number (finite a rank')) := by
    rw [← hround]
    simp only [callBuiltin, ofName?, apply, hx, Option.map_some, numberOrNull, decimals]
  exact ⟨rank, rank', rfl, hcall, same_finite_iff.trans hkept, hkept, hadjacent.1, hadjacent.2, kept_of_small hn⟩

/-- The number 295149 is not kept with fifteen decimals. -/
theorem round_whole_fifteen_decimals :
    let x := Binary64.ofNat 295149
    let args := [Value.number x, Value.number (.ofNat 15)]
    firstNumber? args = some x ∧ x.IsWhole false 295149 ∧ decimals args = 15 ∧
      ∃ z, callBuiltin "round" args = .ok (.number z) ∧ Value.same (.number z) (.number x) = false := by
  intro x args
  have hfirst : firstNumber? args = some x := rfl
  have hx : x.IsWhole false 295149 := isWhole_ofNat (by decide)
  have hdecimals : decimals args = 15 := by decide +kernel
  obtain ⟨rank, rank', -, hcall, hsame, -⟩ := round_whole hfirst hx
  refine ⟨hfirst, hx, hdecimals, _, hcall, ?_⟩
  rw [← Bool.not_eq_true, hsame, hdecimals]
  decide +kernel

/-- **A whole number that rounding changes**: with two decimals 360287970189641 becomes 360287970189640.94. -/
theorem round_changes_whole_number :
    let x := Binary64.ofNat 360287970189641
    x.IsWhole false 360287970189641 ∧ ∃ z, callBuiltin "round" [.number x, .number (.ofNat 2)] = .ok (.number z) ∧
      z.text = "360287970189640.94" ∧ Value.same (.number z) (.number x) = false := by
  intro x
  refine ⟨isWhole_ofNat (by decide), roundTo 2 x, ?_, ?_, ?_⟩
  · decide +kernel
  · decide +kernel
  · decide +kernel

end Builtin
end Formula
