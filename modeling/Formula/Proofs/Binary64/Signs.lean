import Formula.Proofs.Binary64.Alike
import Formula.Proofs.Binary64.Numeral
import Formula.Proofs.Binary64.Whole

/-!
# Signs

* `zero_add`, `zero_add_of_isZero` : a zero in a sum, which takes no part in it unless the other number is a zero too.
* `neg_ofDecimal` : the sign of a decimal is that of the double.
* `exists_eq_of_less_zero` : what is below zero has a sign.
* `zero_sub_neg` : what is no zero is zero less its opposite.
-/

namespace Formula.Binary64

/-- **Negative zero** is absorbed by every number, zeros of either sign included. -/
theorem zero_add (x : Binary64) : (zero true).add x = x := by
  cases x with
  | nan | infinite => rfl
  | finite negative rank =>
    have hadd : (zero true).add (finite negative rank) =
        roundSigned negative (signed negative (units rank)) := by
      simp [zero, add, signed, units_zero]
    rw [hadd, roundSigned]
    split_ifs with hzero
    · have hrank : units rank = units 0 := by cases negative <;> simpa [signed, units_zero] using hzero
      rw [← ofRank_zero, ← units_strictMono.injective hrank, ofRank_rank]
    · have hsign : decide (signed negative (units rank) < 0) = negative := by
        cases negative
        · simp [signed]
        · simp only [signed, if_true] at hzero ⊢
          exact decide_eq_true (by omega)
      have hmagnitude : (signed negative (units rank)).natAbs = units rank := by
        cases negative <;> simp [signed]
      rw [hsign, hmagnitude, round, nearest_units_one, ofRank_rank]

/-- A zero of either sign is absorbed by every number that is none. -/
theorem zero_add_of_isZero (negative : Bool) {x : Binary64} (h : x.isZero = false) : (zero negative).add x = x := by
  have halike := (alike_zero negative true).add (.refl x)
  rw [zero_add] at halike
  rcases halike.eq_or_zeros with heq | ⟨a, b, -, rfl⟩
  · exact heq
  · cases h

theorem neg_neg (x : Binary64) : x.neg.neg = x := by
  cases x <;> simp [neg]

theorem neg_round (num den : Nat) : (round false num den).neg = round true num den := by
  rw [round, round, ofRank, ofRank]
  split <;> rfl

theorem neg_ofDecimal (digits : Nat) (exponent : Int) :
    (ofDecimal false digits exponent).neg = ofDecimal true digits exponent := by
  rcases Int.le_total 0 exponent with h | h
  · obtain ⟨k, rfl⟩ := Int.eq_ofNat_of_zero_le h
    rw [ofDecimal_natCast, ofDecimal_natCast, neg_round]
  · obtain ⟨k, rfl⟩ : ∃ k : Nat, exponent = -(k : Int) := ⟨exponent.natAbs, by omega⟩
    rw [ofDecimal_neg, ofDecimal_neg, neg_round]

/-- **A number below zero** has a sign, and is no zero. -/
theorem exists_eq_of_less_zero {x : Binary64} (hx : x.isFinite = true) (h : x.less (zero false) = true) :
    x.isZero = false ∧ ∃ rank, x = finite true rank := by
  cases x with
  | nan | infinite => cases hx
  | finite negative rank =>
    have hplace : signed negative (units rank) < 0 := by
      simpa [less, related, key?, zero, units_zero, signed_zero] using h
    constructor
    · simp only [isZero, decide_eq_false_iff_not]
      intro hrank
      rw [hrank, units_zero, signed_zero] at hplace
      exact absurd hplace (Int.lt_irrefl 0)
    · cases negative with
      | false => exact absurd hplace (Int.not_lt.2 (Int.natCast_nonneg _))
      | true => exact ⟨rank, rfl⟩

/-- What is no zero is zero less its opposite. -/
theorem zero_sub_neg {x : Binary64} (h : x.isZero = false) : (zero false).sub x.neg = x := by
  rw [sub, neg_neg, zero_add_of_isZero false h]

end Formula.Binary64
