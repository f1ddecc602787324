import Formula.Json.Write
import Formula.Proofs.Json.Documents

/-!
# What is written is JSON

The texts that are written for values and for contexts are texts of the grammar, and stand for what was written, except
that a number which is not finite becomes null. The library has to read a number correctly rounded for that.

* `charText_escapeChar`, `stringText_flatMap` : strings.
* `decimalText_positional`, `decimalText_scientific` : a decimal, in either of its forms.
* `DecimalText.exists_numeral` : a decimal that reads back as a double has it as the nearest one.
* `Json.Library.RoundsCorrectly` : what is asked of the library for a value, which is nothing if that is no number.
* `Value.scalarText_jsonChars`, `Context.objectText_toJson` : values, and contexts as objects.
-/

namespace Formula.Json

open Binary64

/-! ## Strings -/

theorem hexValue?_hexDigit {n : Nat} (h : n < 16) : hexValue? (hexDigit n) = some n := by
  have hall : ((List.range 16).all fun n => hexValue? (hexDigit n) == some n) = true := by decide
  simpa using List.all_eq_true.1 hall n (List.mem_range.2 h)

/-- A control character is written as its code unit. -/
theorem unitText_control {c : Char} (h : c.toNat < 0x20) :
    UnitText ['u', '0', '0', hexDigit (c.toNat / 16), hexDigit (c.toNat % 16)] c.toNat := by
  have hunit : UnitText ['u', '0', '0', hexDigit (c.toNat / 16), hexDigit (c.toNat % 16)]
      (((0 * 16 + 0) * 16 + c.toNat / 16) * 16 + c.toNat % 16) :=
    .intro rfl rfl (hexValue?_hexDigit (by omega)) (hexValue?_hexDigit (by omega))
  rwa [show ((0 * 16 + 0) * 16 + c.toNat / 16) * 16 + c.toNat % 16 = c.toNat by omega] at hunit

theorem mem_shortEscapes_of_toNat {letter c d : Char} (h : c.toNat = d.toNat) (hmem : (letter, d) ∈ shortEscapes) :
    (letter, c) ∈ shortEscapes := by
  rwa [← Char.ofNat_toNat c, h, Char.ofNat_toNat]

theorem charText_escapeChar (c : Char) : CharText (escapeChar c) c := by
  unfold escapeChar
  split
  · rename_i hc
    exact .escape (.short (by rw [hc]; decide))
  · rename_i hquote
    split
    · rename_i hc
      exact .escape (.short (by rw [hc]; decide))
    · rename_i hbackslash
      split
      · rename_i hc
        exact .escape (.short (by rw [hc]; decide))
      split
      · rename_i hc
        exact .escape (.short (by rw [hc]; decide))
      split
      · rename_i hc
        exact .escape (.short (by rw [hc]; decide))
      split
      · rename_i hc
        exact .escape (.short (mem_shortEscapes_of_toNat (d := Char.ofNat 0x08) hc (by decide)))
      split
      · rename_i hc
        exact .escape (.short (mem_shortEscapes_of_toNat (d := Char.ofNat 0x0C) hc (by decide)))
      split
      · rename_i hcontrol
        have hleading : isLeading c.toNat = false := by
          simp only [isLeading, Bool.and_eq_false_iff, decide_eq_false_iff_not]
          omega
        have htrailing : isTrailing c.toNat = false := by
          simp only [isTrailing, Bool.and_eq_false_iff, decide_eq_false_iff_not]
          omega
        have hescape := EscapeText.single (unitText_control hcontrol) hleading htrailing
        rw [Char.ofNat_toNat] at hescape
        exact .escape hescape
      · rename_i hcontrol
        exact .plain hquote hbackslash (Nat.le_of_not_lt hcontrol)

theorem stringText_flatMap : ∀ cs : List Char, StringText (cs.flatMap escapeChar) cs
  | [] => .nil
  | c :: cs => .cons (charText_escapeChar c) (stringText_flatMap cs)

/-! ## Decimals -/

/-- The text is a number of the grammar, and worth the decimal: its digits times a power of ten, which is the quotient
of two whole ones here. -/
inductive DecimalText (d : Decimal) : List Char → Prop
  | intro {whole point fraction power : List Char} {exponent : Int} {up down : Nat} (isWhole : IsWhole whole)
    (isFraction : FractionText point fraction) (isExponent : ExponentText power exponent)
    (place : exponent - fraction.length = (up : Int) - down)
    (amount : Nat.ofDigitChars 10 (whole ++ fraction) 0 * 10 ^ up * 10 ^ places = d.amount * 10 ^ down) :
    DecimalText d (whole ++ (point ++ power))

/-- **A decimal that reads back as a double** is a number to which that double is the nearest. -/
theorem DecimalText.exists_numeral {d : Decimal} {text : List Char} (h : DecimalText d text) {rank : Fin rankCount}
    (hread : readsBack rank d = true) (negative : Bool) :
    ∃ n, MagnitudeText negative text n ∧ n.nearest = .finite negative rank := by
  obtain ⟨hwhole, hfraction, hexponent, hplace, hamount⟩ := h
  refine ⟨_, .intro hwhole hfraction hexponent, ?_⟩
  rw [Numeral.nearest, hplace, ofDecimal_eq_round, Binary64.round, nearest_of_readsBack hread hamount, ofRank,
    dif_pos rank.isLt]

/-- Digits behind a point, if there are any. -/
theorem exists_fractionText_pointed (whole : List Char) {fraction : List Char} (h : ∀ c ∈ fraction, c.isDigit = true) :
    ∃ point, pointed whole fraction = whole ++ point ∧ FractionText point fraction := by
  cases fraction with
  | nil => exact ⟨[], (List.append_nil whole).symm, .absent⟩
  | cons c cs => exact ⟨'.' :: c :: cs, rfl, .present ⟨List.cons_ne_nil c cs, h⟩⟩

/-- A decimal without an exponent, with a point or with one digit put behind it. -/
theorem decimalText_positional {d : Decimal} (h : d.coefficient ≠ 0) :
    DecimalText d (if '.' ∈ positional d then positional d else positional d ++ ['.', '0']) := by
  obtain ⟨whole, fraction, htext, hne, hdigits, hunpadded, hvalue⟩ := positional_digits d
  obtain ⟨hwholeDigits, hfractionDigits⟩ := List.forall_mem_append.1 hdigits
  have hwhole : IsWhole whole := ⟨⟨hne, hwholeDigits⟩, hunpadded h⟩
  cases fraction with
  | nil =>
    rw [htext, pointed, if_neg (point_not_mem_of_isDigit hwholeDigits), ← List.append_nil ['.', '0']]
    have hzero : FractionText ['.', '0'] ['0'] := .present ⟨by simp, by simp⟩
    refine @DecimalText.intro _ _ _ _ _ _ 0 1 hwhole hzero .absent rfl ?_
    rw [List.append_nil, List.length_nil, Nat.pow_zero, Nat.mul_one] at hvalue
    rw [Nat.ofDigitChars_append, ← hvalue]
    have hlast (n : Nat) : Nat.ofDigitChars 10 ['0'] n = 10 * n := by simp [Nat.ofDigitChars]
    rw [hlast, Nat.pow_zero, Nat.mul_one, Nat.pow_one, Nat.mul_comm 10, Nat.mul_right_comm]
  | cons c cs =>
    obtain ⟨point, hpoint, hfraction⟩ := exists_fractionText_pointed whole hfractionDigits
    have hmem : '.' ∈ pointed whole (c :: cs) := List.mem_append_right whole List.mem_cons_self
    rw [htext, if_pos hmem, hpoint, ← List.append_nil point]
    refine @DecimalText.intro _ _ _ _ _ _ 0 (c :: cs).length hwhole hfraction .absent (by simp) ?_
    rw [Nat.pow_zero, Nat.mul_one, hvalue]

theorem exponentText_toDigits (e : Int) :
    ExponentText ('e' :: (if e < 0 then '-' else '+') :: Nat.toDigits 10 e.natAbs) e := by
  have hdigits : IsDigits (Nat.toDigits 10 e.natAbs) := ⟨Nat.toDigits_ne_nil, fun _ => isDigit_of_mem_toDigits⟩
  split
  · rename_i h
    have hexponent := ExponentText.present (.inl rfl) .minus hdigits
    rwa [Nat.ofDigitChars_ten_toDigits, signed, if_pos rfl, show -(e.natAbs : Int) = e by omega] at hexponent
  · rename_i h
    have hexponent := ExponentText.present (.inl rfl) .plus hdigits
    rwa [Nat.ofDigitChars_ten_toDigits, signed, if_neg Bool.false_ne_true, show (e.natAbs : Int) = e by omega]
      at hexponent

theorem scientific_cons (c : Char) (cs : List Char) (e : Int) :
    scientific (c :: cs) e = pointed [c] cs ++ 'e' :: (if e < 0 then '-' else '+') :: Nat.toDigits 10 e.natAbs := by
  cases cs <;> rfl

/-- A decimal by its first digit and an exponent. -/
theorem decimalText_scientific {d : Decimal} (h : d.coefficient ≠ 0) :
    DecimalText d (scientific (dropTrailingZeros (Nat.toDigits 10 d.coefficient))
      (((Nat.toDigits 10 d.coefficient).length : Int) - 1 + d.place - places)) := by
  have hvalue := @Nat.ofDigitChars_ten_toDigits d.coefficient
  have hall : ∀ c ∈ Nat.toDigits 10 d.coefficient, c.isDigit = true := fun _ => isDigit_of_mem_toDigits
  obtain ⟨zeros, hzeros⟩ := exists_dropTrailingZeros (Nat.toDigits 10 d.coefficient)
  generalize dropTrailingZeros (Nat.toDigits 10 d.coefficient) = digits at hzeros ⊢
  generalize Nat.toDigits 10 d.coefficient = written at hvalue hall hzeros ⊢
  subst hzeros
  rw [Nat.ofDigitChars_append, Nat.ofDigitChars_replicate_zero] at hvalue
  cases digits with
  | nil =>
    rw [Nat.ofDigitChars_nil, Nat.mul_zero] at hvalue
    exact absurd hvalue.symm h
  | cons c cs =>
    obtain ⟨hc, hcs⟩ := List.forall_mem_cons.1 (List.forall_mem_append.1 hall).1
    obtain ⟨point, hpoint, hfraction⟩ := exists_fractionText_pointed [c] hcs
    have hwhole : IsWhole [c] := ⟨⟨by simp, by simpa using hc⟩, unpadded_of_length_le (Nat.le_refl 1)⟩
    rw [scientific_cons, hpoint, List.append_assoc]
    have hamount : Nat.ofDigitChars 10 (c :: cs) 0 * 10 ^ (zeros + d.place) = d.amount := by
      calc Nat.ofDigitChars 10 (c :: cs) 0 * 10 ^ (zeros + d.place)
        _ = 10 ^ zeros * Nat.ofDigitChars 10 (c :: cs) 0 * 10 ^ d.place := by
          rw [Nat.pow_add, ← Nat.mul_assoc, Nat.mul_comm (10 ^ zeros)]
        _ = d.coefficient * 10 ^ d.place := congrArg (· * 10 ^ d.place) hvalue
    refine @DecimalText.intro _ _ _ _ _ _ (zeros + d.place) places hwhole hfraction (exponentText_toDigits _) ?_
      (congrArg (· * 10 ^ places) hamount)
    simp only [List.length_append, List.length_cons, List.length_replicate]
    omega

theorem decimalText_decimalChars {d : Decimal} (h : d.coefficient ≠ 0) : DecimalText d (decimalChars d) := by
  simp only [decimalChars]
  split
  · exact decimalText_positional h
  · exact decimalText_scientific h

/-! ## Numbers -/

theorem coefficient_ne_zero {k : Nat} (hk : k ≠ 0) {d : Decimal} (h : readsBack k d = true) : d.coefficient ≠ 0 := by
  intro hzero
  rw [readsBack, Decimal.amount, hzero, Nat.zero_mul, nearest_eq_zero leastDecimal_pos (Nat.zero_le _),
    beq_iff_eq] at h
  exact hk h.symm

theorem exists_numeral_zero (negative : Bool) :
    ∃ n, MagnitudeText negative ['0', '.', '0'] n ∧ n.nearest = zero negative := by
  have hwhole : IsWhole ['0'] := ⟨⟨by simp, by simp⟩, fun _ => rfl⟩
  have hfraction : FractionText ['.', '0'] ['0'] := .present ⟨by simp, by simp⟩
  have hdigits : Nat.ofDigitChars 10 (['0'] ++ ['0']) 0 = 0 := by decide
  refine ⟨_, .intro hwhole hfraction .absent, ?_⟩
  rw [Numeral.nearest, hdigits, ofDecimal_zero]

/-- **A finite number is written as a number** to which it is the nearest double, a zero with its sign. -/
theorem exists_numeral_numberChars (negative : Bool) (rank : Fin rankCount) :
    ∃ text n, numberChars (.finite negative rank) = withSign negative text ∧ MagnitudeText negative text n ∧
      n.nearest = .finite negative rank := by
  rw [numberChars]
  split
  · rename_i hrank
    have hzero : rank = ⟨0, by decide⟩ := Fin.ext hrank
    obtain ⟨n, htext, hnearest⟩ := exists_numeral_zero negative
    exact ⟨_, n, rfl, htext, hzero ▸ hnearest⟩
  · rename_i hrank
    have hread := readsBack_shortest .toEven rank.val
    have hdecimal := decimalText_decimalChars (coefficient_ne_zero hrank hread)
    obtain ⟨n, htext, hnearest⟩ := hdecimal.exists_numeral hread negative
    exact ⟨_, n, rfl, htext, hnearest⟩

end Json

/-! ## Values and contexts -/

open Json

/-- What is left of a value once it is written as JSON, which has no number that is not finite. -/
def Value.written : Value → Value
  | .number x => if x.isFinite then .number x else .null
  | v => v

/-- The context with what is left of its values. -/
def Context.written (c : Context) : Context where
  entries := c.entries.map fun entry => (entry.1, entry.2.written)
  nodup_keys := by
    rw [List.map_map]
    exact c.nodup_keys

/-- The library reads what is written for the value correctly rounded, if that is a number. -/
def Json.Library.RoundsCorrectly (library : Library) (v : Value) : Prop :=
  ∀ {negative : Bool} {text : List Char} {n : Numeral}, v.jsonChars = Binary64.withSign negative text →
    MagnitudeText negative text n → library.number? n = some n.nearest

section

variable {library : Library} {v : Value}

/-- A sign and what follows it are told from a number. -/
theorem Json.MagnitudeText.withSign_inj {negative negative' : Bool} {text text' : List Char} {n n' : Numeral}
    (h : MagnitudeText negative text n) (h' : MagnitudeText negative' text' n')
    (heq : Binary64.withSign negative text = Binary64.withSign negative' text') :
    negative = negative' ∧ text = text' := by
  obtain ⟨c, cs, rfl, hc⟩ := h.exists_digit
  obtain ⟨d, ds, rfl, hd⟩ := h'.exists_digit
  cases negative <;> cases negative'
  · exact ⟨rfl, heq⟩
  · exact absurd (List.cons.inj heq).1 (ne_of_isDigit hc rfl)
  · exact absurd (List.cons.inj heq).1.symm (ne_of_isDigit hd rfl)
  · exact ⟨rfl, (List.cons.inj heq).2⟩

/-- A value is written as one number at most, so that one has to be read correctly rounded. -/
theorem Json.Library.roundsCorrectly_of_numeral {negative : Bool} {text : List Char} {n : Numeral}
    (hchars : v.jsonChars = Binary64.withSign negative text) (htext : MagnitudeText negative text n)
    (hnumber : library.number? n = some n.nearest) : library.RoundsCorrectly v := by
  intro negative' text' n' hchars' htext'
  obtain ⟨rfl, rfl⟩ := htext.withSign_inj htext' (hchars.symm.trans hchars')
  rw [htext'.unique htext, hnumber]

/-- **Nothing is asked of the library** for a value that is no finite number. -/
theorem Json.Library.roundsCorrectly_of_not_finite (h : ∀ x, v = .number x → x.isFinite = false) :
    library.RoundsCorrectly v := by
  intro negative text n hchars htext
  obtain ⟨c, cs, rfl, hc⟩ := htext.exists_digit
  have hhead : ∃ d ∈ v.jsonChars.head?, d.isDigit = false ∧ d ≠ '-' := by
    cases v with
    | null => exact ⟨'n', rfl, rfl, by decide⟩
    | boolean b => cases b <;> exact ⟨_, rfl, rfl, by decide⟩
    | string s => exact ⟨'"', rfl, rfl, by decide⟩
    | number x =>
      have hx := h x rfl
      cases x with
      | finite => cases hx
      | nan => exact ⟨'n', rfl, rfl, by decide⟩
      | infinite => exact ⟨'n', rfl, rfl, by decide⟩
  obtain ⟨d, hd, hdigit, hminus⟩ := hhead
  rw [hchars] at hd
  cases negative with
  | true => exact absurd (Option.some.inj hd).symm hminus
  | false => exact absurd (Option.some.inj hd) (ne_of_isDigit hc hdigit)

/-- **What is written for a value** is a scalar, and stands for the value. -/
theorem Value.scalarText_jsonChars (h : library.RoundsCorrectly v) :
    ScalarText library v.jsonChars v.written := by
  cases v with
  | null => exact .null
  | boolean b =>
    cases b with
    | true => exact .yes
    | false => exact .no
  | number x =>
    cases x with
    | nan => exact .null
    | infinite => exact .null
    | finite negative rank =>
      obtain ⟨text, n, hchars, htext, hnearest⟩ := exists_numeral_numberChars negative rank
      have hnumber := h hchars htext
      rw [hnearest] at hnumber
      rw [jsonChars, hchars]
      exact .number htext hnumber
  | string s =>
    have hstring := @ScalarText.string library _ _ (stringText_flatMap s.toList)
    rwa [String.ofList_toList] at hstring

theorem memberText_memberChars {entry : String × Value} (h : library.RoundsCorrectly entry.2) :
    MemberText library (memberChars entry) (entry.1, entry.2.written) := by
  have hmember := MemberText.intro (stringText_flatMap entry.1.toList) (List.forall_mem_nil _)
    (spaced_of_text (Value.scalarText_jsonChars h))
  rw [String.ofList_toList] at hmember
  simpa [memberChars, stringChars] using hmember

theorem membersText_membersChars : ∀ {entries : List (String × Value)}, entries ≠ [] →
    (∀ entry ∈ entries, library.RoundsCorrectly entry.2) →
    MembersText library (membersChars entries) (entries.map fun entry => (entry.1, entry.2.written))
  | [], hne, _ => absurd rfl hne
  | [entry], _, h => .last (alone_of_text (memberText_memberChars (h entry List.mem_cons_self)))
  | entry :: entry' :: rest, _, h => by
    obtain ⟨hentry, hrest⟩ := List.forall_mem_cons.1 h
    exact .more (alone_of_text (memberText_memberChars hentry))
      (membersText_membersChars (List.cons_ne_nil entry' rest) hrest)

theorem objectText_membersChars {entries : List (String × Value)}
    (h : ∀ entry ∈ entries, library.RoundsCorrectly entry.2) :
    ObjectText library ('{' :: (membersChars entries ++ ['}']))
      (entries.map fun entry => (entry.1, entry.2.written)) := by
  cases entries with
  | nil => exact .empty (List.forall_mem_nil _)
  | cons entry rest => exact .members (membersText_membersChars (List.cons_ne_nil entry rest) h)

/-- **What is written for a context** is an object of scalars, and has the entries of the context as its members. -/
theorem Context.objectText_toJson {c : Context} (h : ∀ entry ∈ c.entries, library.RoundsCorrectly entry.2) :
    ObjectText library c.toJson.toList c.written.entries := by
  rw [toJson, String.toList_ofList]
  exact objectText_membersChars h

end

example : (Context.ofList [("a", .null), ("b\n", .string "y")]).toJson =
    "\x7b\"a\":null,\"b\\n\":\"y\"\x7d" := by decide

end Formula
