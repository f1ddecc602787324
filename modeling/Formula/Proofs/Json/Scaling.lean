import Formula.Proofs.Binary64.Signs
import Formula.Proofs.Json.Written

/-!
# Scaling digits by a power of ten

The library that scales rounds twice or more: the digits, the power of ten and their product or quotient. Nothing is
lost of the digits and of the power when both are short, and the number is read correctly rounded then.

* `Numeral.IsShort` : at most fifteen digits, and a power of ten that is a double.
* `Numeral.gather_eq` : short digits are gathered to the last one.
* `Numeral.scaled?_of_isShort` : short numbers are read correctly rounded.
* `Library.scaling_roundsCorrectly` : so are the values that are written as short numbers.
-/

namespace Formula.Json

open Binary64

namespace Numeral

variable {n : Numeral}

/-- The number has at most fifteen digits, and its power of ten is a double or the inverse of one. -/
structure IsShort (n : Numeral) : Prop where
  digits : (n.whole ++ n.fraction).length ≤ 15
  place : (n.exponent - n.fraction.length).natAbs ≤ 22

/-! ## Digits -/

theorem digit_le {c : Char} (h : c.isDigit = true) : c.toNat - '0'.toNat ≤ 9 := by
  have hbounds := Char.isDigit_iff_toNat.1 h
  have hlast : '9'.toNat - '0'.toNat = 9 := rfl
  omega

theorem ofDigitChars_lt : ∀ {cs : List Char} (k : Nat), (∀ c ∈ cs, c.isDigit = true) →
    Nat.ofDigitChars 10 cs k < (k + 1) * 10 ^ cs.length
  | [], k, _ => by simp
  | c :: cs, k, h => by
    obtain ⟨hc, hcs⟩ := List.forall_mem_cons.1 h
    have hdigit := digit_le hc
    rw [Nat.ofDigitChars_cons, List.length_cons, Nat.pow_succ', ← Nat.mul_assoc]
    refine Nat.lt_of_lt_of_le (ofDigitChars_lt _ hcs) (Nat.mul_le_mul_right _ ?_)
    omega

/-- **Digits are gathered to the last one** as long as no number with as many digits reaches the bound. -/
theorem gather_eq : ∀ {cs : List Char} {k : Nat}, (∀ c ∈ cs, c.isDigit = true) →
    (k + 1) * 10 ^ cs.length ≤ gatherBound → gather k cs = (Nat.ofDigitChars 10 cs k, 0)
  | [], _, _, _ => rfl
  | c :: cs, k, h, hbound => by
    obtain ⟨hc, hcs⟩ := List.forall_mem_cons.1 h
    have hdigit := digit_le hc
    have hpower : 0 < 10 ^ cs.length := Nat.pow_pos (by decide)
    have hnext : 10 * k + (c.toNat - '0'.toNat) + 1 ≤ (k + 1) * 10 := by omega
    rw [List.length_cons, Nat.pow_succ', ← Nat.mul_assoc] at hbound
    have hlt : 10 * k + (c.toNat - '0'.toNat) < gatherBound :=
      calc 10 * k + (c.toNat - '0'.toNat) < (k + 1) * 10 := hnext
        _ ≤ (k + 1) * 10 * 10 ^ cs.length := Nat.le_mul_of_pos_right _ hpower
        _ ≤ gatherBound := hbound
    rw [gather, if_pos hlt, gather_eq hcs (Nat.le_trans (Nat.mul_le_mul_right _ hnext) hbound), Nat.ofDigitChars_cons]

/-! ## Scaling -/

theorem grow?_of_le {digits k : Nat} (hdigits : digits < 10 ^ 15) (hk : k ≤ 22) :
    grow? (ofNat digits) k = some (ofWhole false (digits * 10 ^ k)) := by
  have hwhole := isWhole_ofNat (Nat.lt_trans hdigits (by decide))
  have hlt : digits * 10 ^ k < overflow :=
    calc digits * 10 ^ k < 10 ^ 15 * 10 ^ k := Nat.mul_lt_mul_of_pos_right hdigits (Nat.pow_pos (by decide))
      _ ≤ 10 ^ 15 * 10 ^ 22 := Nat.mul_le_mul_left _ (Nat.pow_le_pow_right (by decide) hk)
      _ < overflow := by decide +kernel
  have hfinite : (ofWhole false (digits * 10 ^ k)).isFinite = true := by
    rw [ofWhole_eq_finite false (nearest_whole_lt_iff.2 hlt)]
    rfl
  have hmul : (ofNat digits).mul (powerOfTen k) = ofWhole false (digits * 10 ^ k) :=
    hwhole.mul (isWhole_power_of_ten hk)
  have hle : k ≤ greatestPower := Nat.le_trans hk (by decide)
  simp only [grow?, hle, if_true, hmul, hfinite]

theorem shrink_of_le {digits k : Nat} (hdigits : digits < 10 ^ 15) (hk : k ≤ 22) :
    shrink (ofNat digits) k = round false (digits * unitsPerOne) (10 ^ k) := by
  have hwhole := isWhole_ofNat (Nat.lt_trans hdigits (by decide))
  have hsteps : (k - 1) / greatestPower = 0 := Nat.div_eq_of_lt (by rw [greatestPower]; omega)
  simp only [shrink, hsteps, shrinkSteps, Nat.zero_mul, Nat.sub_zero]
  exact hwhole.div (isWhole_power_of_ten hk) (Nat.pow_pos (by decide))

/-- Few digits with a short power of ten are scaled with a single rounding. -/
theorem scale?_eq_ofDecimal {digits : Nat} {exponent : Int} (hdigits : digits < 10 ^ 15)
    (hplace : exponent.natAbs ≤ 22) :
    scale? (ofNat digits) exponent = some (ofDecimal false digits exponent) := by
  rw [scale?]
  split
  · rename_i hsign
    obtain ⟨k, rfl⟩ := Int.eq_ofNat_of_zero_le hsign
    rw [Int.natAbs_natCast] at hplace ⊢
    rw [grow?_of_le hdigits hplace, ofDecimal_natCast, ofWhole]
  · rename_i hsign
    obtain ⟨k, rfl⟩ : ∃ k : Nat, exponent = -(k : Int) := ⟨exponent.natAbs, by omega⟩
    rw [Int.natAbs_neg, Int.natAbs_natCast] at hplace ⊢
    rw [shrink_of_le hdigits hplace, ofDecimal_neg]

/-- **Short numbers are read correctly rounded.** -/
theorem scaled?_of_isShort (h : n.IsShort) (hdigits : ∀ c ∈ n.whole ++ n.fraction, c.isDigit = true) :
    n.scaled? = some n.nearest := by
  obtain ⟨hwhole, hfraction⟩ := List.forall_mem_append.1 hdigits
  have hlength := h.digits
  have hpower : 10 ^ (n.whole ++ n.fraction).length ≤ 10 ^ 15 := Nat.pow_le_pow_right (by decide) hlength
  have hbound : 10 ^ (n.whole ++ n.fraction).length ≤ gatherBound := Nat.le_trans hpower (by decide)
  have hgathered : Nat.ofDigitChars 10 (n.whole ++ n.fraction) 0 < 10 ^ 15 := by
    have hlt := ofDigitChars_lt 0 hdigits
    omega
  have hfirst : gather 0 n.whole = (Nat.ofDigitChars 10 n.whole 0, 0) := by
    refine gather_eq hwhole ?_
    rw [Nat.zero_add, Nat.one_mul]
    refine Nat.le_trans (Nat.pow_le_pow_right (by decide) ?_) hbound
    rw [List.length_append]
    omega
  have hsecond : gather (Nat.ofDigitChars 10 n.whole 0) n.fraction =
      (Nat.ofDigitChars 10 (n.whole ++ n.fraction) 0, 0) := by
    have hlt := ofDigitChars_lt 0 hwhole
    rw [Nat.ofDigitChars_append]
    refine gather_eq hfraction (Nat.le_trans (Nat.mul_le_mul_right _ ?_) (?_ : 10 ^ n.whole.length * _ ≤ _))
    · omega
    · rwa [← Nat.pow_add, ← List.length_append]
  have hscale := scale?_eq_ofDecimal hgathered h.place
  simp only [scaled?, hfirst, hsecond, Nat.sub_zero, Int.natCast_zero, Int.add_zero, hscale, Option.map_some]
  rw [nearest]
  cases n.negative with
  | true => rw [if_pos rfl, neg_ofDecimal]
  | false => rw [if_neg Bool.false_ne_true]

/-- A number of sixteen digits, of which the last one is lost in the first rounding. -/
example : (Numeral.mk false "94".toList "52706955539223".toList 0).scaled? ≠
    some (Numeral.mk false "94".toList "52706955539223".toList 0).nearest := by decide +kernel

end Numeral

/-- **What is written as a short number** is read correctly rounded by the library that scales. -/
theorem Library.scaling_roundsCorrectly {v : Value} {negative : Bool} {text : List Char} {n : Numeral}
    (hchars : v.jsonChars = withSign negative text) (htext : MagnitudeText negative text n) (h : n.IsShort) :
    scaling.RoundsCorrectly v := by
  refine roundsCorrectly_of_numeral hchars htext (Numeral.scaled?_of_isShort h ?_)
  obtain ⟨⟨⟨-, hwhole⟩, -⟩, hfraction, -⟩ := htext
  refine List.forall_mem_append.2 ⟨hwhole, ?_⟩
  cases hfraction with
  | absent => simp
  | present isDigits => exact isDigits.2

end Formula.Json
