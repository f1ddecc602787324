import Formula.Binary64.Positional
import Formula.Proofs.Binary64.Numeral
import Mathlib.Data.List.Basic

/-!
# The text of a double reads back

* `readsBack_shortest` : the shortest decimal reads back as its magnitude.
* `positional_digits` : the text of a decimal is digits with at most one point between them, of the decimal's value, and
  has no needless zero in front.
* `ofNumeral?_chars` : the text of a finite double that is not negative reads as that double.
-/

namespace Formula.Binary64

/-! ## The shortest decimal -/

theorem leastDecimal_pos : 0 < leastDecimal := by
  decide +kernel

theorem readsBack_exact (k : Nat) : readsBack k ⟨exactDecimal k, 0⟩ = true := by
  rw [readsBack, Decimal.amount, exactDecimal, Nat.pow_zero, Nat.mul_one, nearest_units k leastDecimal_pos,
    beq_self_eq_true]

/-- The nearer of two decimals is one of them. -/
theorem readsBack_nearer {tie : Tie} {k c place exact : Nat} (hlow : readsBack k ⟨c, place⟩ = true)
    (hhigh : readsBack k ⟨c + 1, place⟩ = true) : readsBack k (nearer tie c place exact) = true := by
  simp only [nearer]
  split
  · exact hlow
  · split
    · exact hhigh
    · split
      · exact hlow
      · exact hhigh

theorem readsBack_shortestFrom (tie : Tie) (k place : Nat) : readsBack k (shortestFrom tie k place) = true := by
  induction place with
  | zero =>
    rw [shortestFrom]
    exact readsBack_exact k
  | succ m ih =>
    simp only [shortestFrom]
    split
    · rename_i hlow
      split
      · rename_i hhigh
        exact readsBack_nearer hlow hhigh
      · exact hlow
    · split
      · assumption
      · exact ih

theorem readsBack_shortest (tie : Tie) (k : Nat) : readsBack k (shortest tie k) = true :=
  readsBack_shortestFrom tie k _

/-! ## Digits -/

theorem isDigit_of_mem_replicate_zero {n : Nat} {c : Char} (h : c ∈ List.replicate n '0') : c.isDigit = true := by
  rw [List.eq_of_mem_replicate h]
  rfl

theorem isDigit_of_mem_toDigits {n : Nat} {c : Char} (h : c ∈ Nat.toDigits 10 n) : c.isDigit = true :=
  Nat.isDigit_of_mem_toDigits (by decide) (by decide) h

/-- No zero stands in front of other digits. -/
def Unpadded (cs : List Char) : Prop := cs.head? = some '0' → cs = ['0']

theorem unpadded_of_length_le {cs : List Char} (h : cs.length ≤ 1) : Unpadded cs := by
  intro hzero
  match cs, h with
  | [c], _ => rw [Option.some.inj hzero]

theorem unpadded_of_head?_eq {cs cs' : List Char} (h : cs'.head? ≠ some '0') (hhead : cs.head? = cs'.head?) :
    Unpadded cs :=
  fun hzero => absurd (hhead.symm.trans hzero) h

/-- Only zero begins with the digit zero. -/
theorem head?_toDigits_ne {n : Nat} (h : n ≠ 0) : (Nat.toDigits 10 n).head? ≠ some '0' := by
  induction n using Nat.strongRecOn with
  | _ n ih =>
    rcases Nat.lt_or_ge n 10 with hn | hn
    · rw [Nat.toDigits_of_lt_base hn, List.head?_cons, ne_eq, Option.some.injEq, Nat.digitChar_eq_zero]
      exact h
    · rw [Nat.toDigits_of_base_le (by decide) hn, List.head?_append_of_ne_nil _ Nat.toDigits_ne_nil]
      exact ih (n / 10) (by omega) (by omega)

theorem isDigit_of_mem_paddedDigits {width n : Nat} {c : Char} (h : c ∈ paddedDigits width n) : c.isDigit = true := by
  rcases List.mem_append.1 h with h | h
  · exact isDigit_of_mem_replicate_zero h
  · exact isDigit_of_mem_toDigits h

theorem ofDigitChars_paddedDigits (width n : Nat) : Nat.ofDigitChars 10 (paddedDigits width n) 0 = n := by
  rw [paddedDigits, Nat.ofDigitChars_append, Nat.ofDigitChars_replicate_zero, Nat.mul_zero,
    Nat.ofDigitChars_ten_toDigits]

theorem le_length_paddedDigits (width n : Nat) : width ≤ (paddedDigits width n).length := by
  rw [paddedDigits, List.length_append, List.length_replicate]
  omega

/-- What is dropped from the end is zeros. -/
theorem exists_dropTrailingZeros (cs : List Char) : ∃ n, cs = dropTrailingZeros cs ++ List.replicate n '0' := by
  refine ⟨(cs.reverse.takeWhile (· == '0')).length, ?_⟩
  have hzeros : cs.reverse.takeWhile (· == '0') = List.replicate (cs.reverse.takeWhile (· == '0')).length '0' := by
    refine List.eq_replicate_iff.2 ⟨rfl, fun c hc => ?_⟩
    simpa using List.all_eq_true.1 List.all_takeWhile c hc
  have hsplit : cs.reverse.takeWhile (· == '0') ++ cs.reverse.dropWhile (· == '0') = cs.reverse :=
    List.takeWhile_append_dropWhile
  have hreverse := congrArg List.reverse hsplit
  rw [List.reverse_append, List.reverse_reverse, hzeros, List.reverse_replicate] at hreverse
  exact hreverse.symm

/-- What stands in front of the last `decimals` digits is not empty, and has no needless zero in front. -/
theorem unpadded_take_paddedDigits {decimals n : Nat} {digits : List Char}
    (hdigits : paddedDigits (decimals + 1) n = digits) : Unpadded (digits.take (digits.length - decimals)) := by
  subst hdigits
  rcases Nat.lt_or_ge (decimals + 1) (Nat.toDigits 10 n).length with h | h
  · -- nothing is filled up, and a number of more than one digit is not zero
    have hpadded : paddedDigits (decimals + 1) n = Nat.toDigits 10 n := by
      rw [paddedDigits, Nat.sub_eq_zero_of_le h.le, List.replicate_zero, List.nil_append]
    have hne : n ≠ 0 := by
      rintro rfl
      rw [Nat.toDigits_zero, List.length_singleton] at h
      omega
    rw [hpadded]
    refine unpadded_of_head?_eq (head?_toDigits_ne hne) ?_
    rw [List.head?_take, if_neg (by omega)]
  · refine unpadded_of_length_le ?_
    have hlength : (paddedDigits (decimals + 1) n).length = decimals + 1 := by
      rw [paddedDigits, List.length_append, List.length_replicate]
      omega
    rw [hlength, List.length_take]
    omega

/-- Digits are cut in front of the last `decimals` of them, and the zeros at the end are as good as left out. -/
theorem paddedDigits_split {decimals n : Nat} {digits whole fraction : List Char}
    (hdigits : paddedDigits (decimals + 1) n = digits) (hwhole : digits.take (digits.length - decimals) = whole)
    (hfraction : dropTrailingZeros (digits.drop (digits.length - decimals)) = fraction) :
    whole ≠ [] ∧ (∀ c ∈ whole ++ fraction, c.isDigit = true) ∧
      ∃ zeros, fraction.length + zeros = decimals ∧ 10 ^ zeros * Nat.ofDigitChars 10 (whole ++ fraction) 0 = n := by
  obtain ⟨zeros, hzeros⟩ := exists_dropTrailingZeros (digits.drop (digits.length - decimals))
  rw [hfraction] at hzeros
  have hlength : decimals + 1 ≤ digits.length := hdigits ▸ le_length_paddedDigits _ _
  have hall : whole ++ fraction ++ List.replicate zeros '0' = digits := by
    rw [List.append_assoc, ← hzeros, ← hwhole, List.take_append_drop]
  refine ⟨?_, ?_, zeros, ?_, ?_⟩
  · intro hnil
    have htake := congrArg List.length hwhole
    rw [hnil, List.length_take, List.length_nil] at htake
    omega
  · intro c hc
    have hmem : c ∈ paddedDigits (decimals + 1) n := by
      rw [hdigits, ← hall]
      exact List.mem_append_left _ hc
    exact isDigit_of_mem_paddedDigits hmem
  · have hdrop := congrArg List.length hzeros
    rw [List.length_drop, List.length_append, List.length_replicate] at hdrop
    omega
  · have hvalue : Nat.ofDigitChars 10 digits 0 = n := hdigits ▸ ofDigitChars_paddedDigits _ _
    rwa [← hall, Nat.ofDigitChars_append, Nat.ofDigitChars_replicate_zero] at hvalue

/-- **The text of a decimal** is digits, with those behind the point counted by a power of ten. -/
theorem positional_digits (d : Decimal) : ∃ whole fraction, positional d = pointed whole fraction ∧ whole ≠ [] ∧
    (∀ c ∈ whole ++ fraction, c.isDigit = true) ∧ (d.coefficient ≠ 0 → Unpadded whole) ∧
    Nat.ofDigitChars 10 (whole ++ fraction) 0 * 10 ^ places = d.amount * 10 ^ fraction.length := by
  unfold positional
  split
  · rename_i hplace
    refine ⟨_, [], rfl, by simp, ?_, fun hne => ?_, ?_⟩
    · intro c hc
      rw [List.append_nil] at hc
      rcases List.mem_append.1 hc with hc | hc
      · exact isDigit_of_mem_toDigits hc
      · exact isDigit_of_mem_replicate_zero hc
    · refine unpadded_of_head?_eq (head?_toDigits_ne hne) ?_
      rw [List.head?_append_of_ne_nil _ Nat.toDigits_ne_nil]
    · rw [List.append_nil, Nat.ofDigitChars_append, Nat.ofDigitChars_ten_toDigits, Nat.ofDigitChars_replicate_zero,
        Decimal.amount, List.length_nil, Nat.pow_zero, Nat.mul_one, Nat.mul_comm (10 ^ _), Nat.mul_assoc, ← Nat.pow_add,
        Nat.sub_add_cancel hplace]
  · rename_i hplace
    simp only
    generalize hdigits : paddedDigits (places - d.place + 1) d.coefficient = digits
    generalize hwhole : digits.take (digits.length - (places - d.place)) = whole
    generalize hfraction : dropTrailingZeros (digits.drop (digits.length - (places - d.place))) = fraction
    obtain ⟨hne, hall, zeros, hlength, hvalue⟩ := paddedDigits_split hdigits hwhole hfraction
    refine ⟨whole, fraction, ?_, hne, hall, fun _ => hwhole ▸ unpadded_take_paddedDigits hdigits, ?_⟩
    · cases fraction <;> rfl
    · have hplaces : places = zeros + d.place + fraction.length := by omega
      rw [Decimal.amount, ← hvalue, hplaces, Nat.pow_add, Nat.pow_add, ← Nat.mul_assoc, ← Nat.mul_assoc,
        Nat.mul_comm _ (10 ^ zeros)]

/-! ## The text of a double -/

theorem chars_finite (rank : Fin rankCount) : (finite false rank).chars = positional (shortest .upward rank) := by
  rw [chars, withSign, if_neg Bool.false_ne_true]

theorem unitsPerOne_mul_leastDecimal : unitsPerOne * leastDecimal = 10 ^ places := by
  decide +kernel

theorem nearest_of_readsBack {k : Nat} {d : Decimal} (h : readsBack k d = true) {digits n : Nat}
    (hvalue : digits * 10 ^ places = d.amount * 10 ^ n) : nearest (digits * unitsPerOne) (10 ^ n) = k := by
  rw [readsBack, beq_iff_eq] at h
  rw [← h]
  refine nearest_congr (Nat.pow_pos (by decide)) leastDecimal_pos ?_
  rw [Nat.mul_assoc, unitsPerOne_mul_leastDecimal, hvalue]

/-- **The text of a double reads back**: it is digits with at most one point between them, and reads as the double. -/
theorem ofNumeral?_chars (rank : Fin rankCount) : ∃ whole fraction, (finite false rank).chars = pointed whole fraction ∧
    whole ≠ [] ∧ (∀ c ∈ whole ++ fraction, c.isDigit = true) ∧
    ofNumeral? (finite false rank).chars = some (finite false rank) := by
  obtain ⟨whole, fraction, htext, hne, hdigits, -, hvalue⟩ := positional_digits (shortest .upward rank)
  have hnearest := nearest_of_readsBack (readsBack_shortest .upward rank) hvalue
  refine ⟨whole, fraction, (chars_finite rank).trans htext, hne, hdigits, ?_⟩
  rw [chars_finite, htext, ofNumeral?_pointed hne hdigits, ofDecimal_neg, round, hnearest, ofRank, dif_pos rank.isLt]

end Formula.Binary64
