import Formula.Proofs.Binary64.Numeral
import Formula.Proofs.Binary64.Rounded

/-!
# Texts of digits and points

A text of digits and points is a numeral if it has at most one point, and then reads as the double that the number it
writes is correctly rounded to.

* `DigitsAndPoints` : the texts.
* `decimalValue` : the number that such a text writes.
* `ofNumeral?_cases` : two points make it no numeral, and any other is read as what its number is rounded to.
* `Unreadable` : the texts that are no literal, for their points or for their size.
-/

namespace Formula.Binary64

/-- Digits, at least one of them, and points in any order. -/
structure DigitsAndPoints (cs : List Char) : Prop where
  all : ∀ c ∈ cs, c.isDigit = true ∨ c = '.'
  digit : ∃ c ∈ cs, c.isDigit = true

/-- The number that digits with at most one point among them write: the whole number in front of the point, and the one
behind it over the power of ten of its length. -/
def decimalValue (cs : List Char) : ℚ :=
  let whole := cs.takeWhile (· ≠ '.')
  let fraction := (cs.dropWhile (· ≠ '.')).tail
  Nat.ofDigitChars 10 whole 0 + Nat.ofDigitChars 10 fraction 0 / 10 ^ fraction.length

/-- The text has two points, or the number that it writes is rounded to infinity. -/
def Unreadable (cs : List Char) : Prop :=
  2 ≤ cs.count '.' ∨ ∃ x, RoundsTo (decimalValue cs) x ∧ x.isFinite = false

/-! ## Shapes -/

/-- A text of digits and points by the number of its points: none, one or more. -/
inductive PointedShape : List Char → Prop
  | none {whole : List Char} (ne : whole ≠ []) (isWhole : ∀ c ∈ whole, c.isDigit = true) : PointedShape whole
  | one {whole fraction : List Char} (ne : whole ++ fraction ≠ []) (isWhole : ∀ c ∈ whole, c.isDigit = true)
    (isFraction : ∀ c ∈ fraction, c.isDigit = true) : PointedShape (whole ++ '.' :: fraction)
  | more {whole fraction rest : List Char} (isWhole : ∀ c ∈ whole, c.isDigit = true)
    (isFraction : ∀ c ∈ fraction, c.isDigit = true) : PointedShape (whole ++ '.' :: (fraction ++ '.' :: rest))

section

variable {cs whole fraction : List Char}

/-- Digits go up to the end or up to the first point. -/
theorem exists_digits (h : ∀ c ∈ cs, c.isDigit = true ∨ c = '.') :
    (∀ c ∈ cs, c.isDigit = true) ∨ ∃ front rest, cs = front ++ '.' :: rest ∧ ∀ c ∈ front, c.isDigit = true := by
  by_cases hpoint : '.' ∈ cs
  · obtain ⟨front, rest, rfl, hfront⟩ := List.eq_append_cons_of_mem hpoint
    refine .inr ⟨front, rest, rfl, fun c hc => (h c (List.mem_append_left _ hc)).resolve_right ?_⟩
    exact ne_of_mem_of_not_mem hc hfront
  · exact .inl fun c hc => (h c hc).resolve_right (ne_of_mem_of_not_mem hc hpoint)

theorem DigitsAndPoints.shape (h : DigitsAndPoints cs) : PointedShape cs := by
  obtain ⟨hall, d, hd, hdigit⟩ := h
  rcases exists_digits hall with hwhole | ⟨whole, rest, rfl, hwhole⟩
  · exact .none (List.ne_nil_of_mem hd) hwhole
  · have hrest : ∀ c ∈ rest, c.isDigit = true ∨ c = '.' := fun c hc => hall c (by simp [hc])
    rcases exists_digits hrest with hfraction | ⟨fraction, more, rfl, hfraction⟩
    · refine .one (fun hnil => ?_) hwhole hfraction
      obtain ⟨rfl, rfl⟩ := List.append_eq_nil_iff.1 hnil
      obtain rfl : d = '.' := by simpa using hd
      cases hdigit
    · exact .more hwhole hfraction

/-! ## The number that is written -/

theorem ne_point_of_isDigit (h : ∀ c ∈ whole, c.isDigit = true) : ∀ c ∈ whole, decide (c ≠ '.') = true := by
  intro c hc
  simpa using ne_of_mem_of_not_mem hc (point_not_mem_of_isDigit h)

theorem decimalValue_whole (h : ∀ c ∈ whole, c.isDigit = true) : decimalValue whole = Nat.ofDigitChars 10 whole 0 := by
  have hne := ne_point_of_isDigit h
  rw [decimalValue, List.takeWhile_eq_self_iff.2 hne, List.dropWhile_eq_nil_iff.2 hne]
  simp

theorem decimalValue_point (h : ∀ c ∈ whole, c.isDigit = true) (fraction : List Char) :
    decimalValue (whole ++ '.' :: fraction) =
      (Nat.ofDigitChars 10 (whole ++ fraction) 0 : ℚ) / 10 ^ fraction.length := by
  have hne := ne_point_of_isDigit h
  have hpoint : ∀ c ∈ ('.' :: fraction).head?, decide (c ≠ '.') = false := by simp
  have hpow : (10 : ℚ) ^ fraction.length ≠ 0 := pow_ne_zero _ (by norm_num)
  have hdigits : Nat.ofDigitChars 10 (whole ++ fraction) 0 =
      10 ^ fraction.length * Nat.ofDigitChars 10 whole 0 + Nat.ofDigitChars 10 fraction 0 := by
    rw [Nat.ofDigitChars_append]
    exact Nat.ofDigitChars_eq_ofDigitChars_zero
  rw [decimalValue, takeWhile_span hne hpoint, dropWhile_span hne hpoint, List.tail_cons, hdigits]
  push_cast
  rw [add_div, mul_div_cancel_left₀ _ hpow]

theorem decimalValue_nonneg (cs : List Char) : 0 ≤ decimalValue cs :=
  add_nonneg (Nat.cast_nonneg _) (div_nonneg (Nat.cast_nonneg _) (pow_nonneg (by norm_num) _))

/-! ## Reading -/

theorem count_point_of_isDigit (h : ∀ c ∈ whole, c.isDigit = true) : whole.count '.' = 0 :=
  List.count_eq_zero_of_not_mem (point_not_mem_of_isDigit h)

/-- **Digits and points are read** as what the number is rounded to, unless there are two points. -/
theorem ofNumeral?_cases (h : DigitsAndPoints cs) : 2 ≤ cs.count '.' ∧ ofNumeral? cs = none ∨
    cs.count '.' ≤ 1 ∧ ∃ x, RoundsTo (decimalValue cs) x ∧ ofNumeral? cs = some x := by
  have hopens : ofNumeral? cs = ofDigits? false cs := by
    obtain ⟨d, hd, -⟩ := h.digit
    obtain ⟨c, rest, rfl⟩ := List.exists_cons_of_ne_nil (List.ne_nil_of_mem hd)
    exact ofNumeral?_eq_ofDigits? (h.all c List.mem_cons_self) rest
  rw [hopens]
  cases h.shape with
  | none ne isWhole =>
    have hread : ofDigits? false cs = some (round false (Nat.ofDigitChars 10 cs 0 * unitsPerOne) (10 ^ 0)) := by
      rw [ofDigits?_whole ne isWhole, ← ofDecimal_neg]
      rfl
    refine .inr ⟨by rw [count_point_of_isDigit isWhole]; omega, _, (roundsTo_iff Nat.one_pos ?_).2 rfl, hread⟩
    rw [decimalValue_whole isWhole]
    push_cast
    ring
  | @one whole fraction ne isWhole isFraction =>
    have hread := ofDigits?_point false isWhole isFraction [] (by simp)
    rw [List.append_nil, if_neg (by rwa [← List.append_eq_nil_iff]), exponent?, Option.map_some, Int.zero_sub,
      ofDecimal_neg] at hread
    refine .inr ⟨?_, _, (roundsTo_iff (Nat.pow_pos (by decide)) ?_).2 rfl, hread⟩
    · simp [count_point_of_isDigit isWhole, count_point_of_isDigit isFraction]
    · have hpow : (10 : ℚ) ^ fraction.length ≠ 0 := pow_ne_zero _ (by norm_num)
      rw [decimalValue_point isWhole]
      push_cast
      rw [← mul_assoc, div_mul_cancel₀ _ hpow]
  | @more whole fraction rest isWhole isFraction =>
    have hread := ofDigits?_point false isWhole isFraction ('.' :: rest) (by simp)
    have hexponent : exponent? ('.' :: rest) = none := by simp [exponent?]
    rw [hexponent, Option.map_none, ite_self] at hread
    refine .inl ⟨?_, hread⟩
    simp only [List.count_append, List.count_cons_self]
    omega

end

/-! ## Texts that are no literal -/

/-- **Two points or too large**: the text is no literal just then, the numbers that are too large being those from the
midpoint between the last double and the power of two after it on. -/
theorem unreadable_iff {cs : List Char} : Unreadable cs ↔ 2 ≤ cs.count '.' ∨ (overflow : ℚ) ≤ decimalValue cs := by
  refine or_congr_right ⟨fun ⟨x, hx, hinfinite⟩ => hx.isFinite_eq_false_iff.1 hinfinite, fun hlarge => ?_⟩
  obtain ⟨x, hx⟩ := exists_roundsTo (decimalValue_nonneg cs)
  exact ⟨x, hx, hx.isFinite_eq_false_iff.2 hlarge⟩

instance (cs : List Char) : Decidable (Unreadable cs) := decidable_of_iff _ unreadable_iff.symm

/-- The least whole number that is no literal, and the one before it. -/
example : Unreadable (Nat.toDigits 10 overflow) ∧ ¬Unreadable (Nat.toDigits 10 (overflow - 1)) := by decide +kernel

/-- A text of digits and points is read, and as a double, unless it is unreadable. -/
theorem ofNumeral?_filter_isFinite {cs : List Char} (h : DigitsAndPoints cs) :
    Unreadable cs ∧ (ofNumeral? cs).filter isFinite = none ∨
      ¬Unreadable cs ∧ ∃ x, RoundsTo (decimalValue cs) x ∧ (ofNumeral? cs).filter isFinite = some x := by
  rcases ofNumeral?_cases h with ⟨hpoints, hread⟩ | ⟨hpoints, x, hx, hread⟩
  · exact .inl ⟨.inl hpoints, by rw [hread]; rfl⟩
  · cases hfinite : x.isFinite with
    | false => exact .inl ⟨.inr ⟨x, hx, hfinite⟩, by simp [hread, hfinite]⟩
    | true =>
      refine .inr ⟨?_, x, hx, by simp [hread, hfinite]⟩
      rintro (hmore | ⟨y, hy, hinfinite⟩)
      · omega
      · rw [hx.unique hy, hinfinite] at hfinite
        cases hfinite

end Formula.Binary64
