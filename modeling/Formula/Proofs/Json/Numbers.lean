import Formula.Proofs.Json.Grammar

/-!
# Reading numbers

What a reader takes is compared with a grammar in both directions at once, one lemma for each reader.

* `Takes` : a reader takes the texts of a grammar.
* `someDigits_takes`, `wholeDigits_takes`, `fractionDigits_takes`, `exponent_takes` : the parts of a number.
* `numeral_takes`, `magnitude_takes` : a number without its sign, as it is written and as the library reads it.
-/

namespace Formula.Json

/-- **A reader takes the texts of a grammar**: what it takes from the front of a text is one of them, and it takes each
of them wherever the next character does not go on with it. -/
structure Takes {α : Type} (read : Reader α) (Text : List Char → α → Prop) (goesOn : Char → Bool) : Prop where
  sound : ∀ {cs : List Char} {a : α} {rest : List Char}, read cs = .ok (a, rest) →
    ∃ text, cs = text ++ rest ∧ Text text a
  complete : ∀ {text : List Char} {a : α} (rest : List Char), Text text a → (∀ c ∈ rest.head?, goesOn c = false) →
    read (text ++ rest) = .ok (a, rest)

/-! ## Digits -/

theorem someDigits_takes : Takes someDigits (fun text ds => IsDigits text ∧ ds = text) Char.isDigit where
  sound {cs ds rest} h := by
    cases cs with
    | nil => cases h
    | cons c cs =>
      rw [someDigits] at h
      split at h
      · rename_i hc
        cases h
        refine ⟨_, ?_, ⟨List.cons_ne_nil _ _, List.forall_mem_cons.2 ⟨hc, List.all_eq_true.1 List.all_takeWhile⟩⟩, rfl⟩
        rw [List.cons_append, List.takeWhile_append_dropWhile]
      · cases h
  complete {text ds} rest h hrest := by
    obtain ⟨⟨hne, hdigits⟩, rfl⟩ := h
    obtain ⟨c, cs, rfl⟩ := List.exists_cons_of_ne_nil hne
    obtain ⟨hc, hcs⟩ := List.forall_mem_cons.1 hdigits
    rw [List.cons_append, someDigits, if_pos hc, takeWhile_span hcs hrest, dropWhile_span hcs hrest]

theorem wholeDigits_takes : Takes wholeDigits (fun text ds => IsWhole text ∧ ds = text) Char.isDigit where
  sound {cs ds rest} h := by
    cases cs with
    | nil => cases h
    | cons c cs =>
      simp only [wholeDigits] at h
      split at h
      · rename_i hc
        subst hc
        have hzero : IsWhole ['0'] := ⟨⟨by simp, by simp⟩, fun _ => rfl⟩
        split at h
        · cases h
          exact ⟨['0'], rfl, hzero, rfl⟩
        · split at h
          · cases h
          · cases h
            exact ⟨['0'], rfl, hzero, rfl⟩
      · rename_i hc
        obtain ⟨text, happend, hdigits, rfl⟩ := someDigits_takes.sound h
        refine ⟨_, happend, ⟨hdigits, fun hzero => absurd ?_ hc⟩, rfl⟩
        obtain ⟨d, ds', rfl⟩ := List.exists_cons_of_ne_nil hdigits.1
        exact (List.cons.inj happend).1.trans (Option.some.inj hzero)
  complete {text ds} rest h hrest := by
    obtain ⟨⟨hdigits, hunpadded⟩, rfl⟩ := h
    obtain ⟨c, cs, rfl⟩ := List.exists_cons_of_ne_nil hdigits.1
    simp only [List.cons_append, wholeDigits]
    split
    · rename_i hc
      subst hc
      obtain rfl : cs = [] := (List.cons.inj (hunpadded rfl)).2
      rw [List.nil_append]
      split
      · rfl
      · rename_i d ds
        rw [hrest d rfl, if_neg Bool.false_ne_true]
    · exact someDigits_takes.complete _ ⟨hdigits, rfl⟩ hrest

/-- Whether a character goes on with a number of which only the whole digits were read. -/
def goesOnFraction (c : Char) : Bool := c.isDigit || c = '.'

theorem fractionDigits_takes : Takes fractionDigits FractionText goesOnFraction where
  sound {cs ds rest} h := by
    unfold fractionDigits at h
    split at h
    · obtain ⟨_, rfl, hdigits, rfl⟩ := someDigits_takes.sound h
      exact ⟨'.' :: ds, rfl, .present hdigits⟩
    · cases h
      exact ⟨[], rfl, .absent⟩
  complete {text ds} rest h hrest := by
    cases h with
    | absent =>
      rw [List.nil_append]
      unfold fractionDigits
      split
      · have hpoint := hrest '.' rfl
        simp [goesOnFraction] at hpoint
      · rfl
    | present hdigits =>
      refine someDigits_takes.complete _ ⟨hdigits, rfl⟩ fun c hc => ?_
      have hnot := hrest c hc
      simp only [goesOnFraction, Bool.or_eq_false_iff] at hnot
      exact hnot.1

/-! ## Powers of ten -/

theorem exists_sign_of_splitSign {cs digits : List Char} {negative : Bool}
    (h : Binary64.splitSign cs = (negative, digits)) : ∃ sign, SignText sign negative ∧ cs = sign ++ digits := by
  unfold Binary64.splitSign at h
  split at h <;> cases h
  · exact ⟨['-'], .minus, rfl⟩
  · exact ⟨['+'], .plus, rfl⟩
  · exact ⟨[], .absent, rfl⟩

/-- A sign is split off in front of a digit. -/
theorem splitSign_of_sign {sign digits rest : List Char} {negative : Bool} (hsign : SignText sign negative)
    (hdigits : IsDigits digits) : Binary64.splitSign (sign ++ (digits ++ rest)) = (negative, digits ++ rest) := by
  cases hsign with
  | plus => rfl
  | minus => rfl
  | absent =>
    obtain ⟨c, cs, rfl⟩ := List.exists_cons_of_ne_nil hdigits.1
    have hc := hdigits.2 c List.mem_cons_self
    unfold Binary64.splitSign
    split
    · rename_i he
      rw [(List.cons.inj he).1] at hc
      cases hc
    · rename_i he
      rw [(List.cons.inj he).1] at hc
      cases hc
    · rfl

/-- Whether a character goes on with a number of which the digits in front of a power of ten were read. -/
def goesOnPower (c : Char) : Bool := c.isDigit || c = 'e' || c = 'E'

theorem exponent_takes : Takes exponent ExponentText goesOnPower where
  sound {cs e rest} h := by
    cases cs with
    | nil =>
      cases h
      exact ⟨[], rfl, .absent⟩
    | cons c cs =>
      rw [exponent] at h
      split at h
      · rename_i hc
        rcases hsplit : Binary64.splitSign cs with ⟨negative, tail⟩
        obtain ⟨sign, hsign, rfl⟩ := exists_sign_of_splitSign hsplit
        simp only [hsplit] at h
        split at h
        · cases h
        · rename_i ds rest' hds
          cases h
          obtain ⟨digits, rfl, hdigits, rfl⟩ := someDigits_takes.sound hds
          exact ⟨c :: (sign ++ ds), by simp, .present hc hsign hdigits⟩
      · cases h
        exact ⟨[], rfl, .absent⟩
  complete {text e} rest h hrest := by
    cases h with
    | absent =>
      cases rest with
      | nil => rfl
      | cons c rest =>
        have hnot := hrest c rfl
        simp only [goesOnPower, Bool.or_eq_false_iff, decide_eq_false_iff_not] at hnot
        rw [List.nil_append, exponent, if_neg fun h => h.elim hnot.1.2 hnot.2]
    | present hletter hsign hdigits =>
      have hdigit : ∀ c ∈ rest.head?, c.isDigit = false := by
        intro c hc
        have hnot := hrest c hc
        simp only [goesOnPower, Bool.or_eq_false_iff] at hnot
        exact hnot.1.1
      rw [List.cons_append, exponent, if_pos hletter, List.append_assoc]
      simp only [splitSign_of_sign hsign hdigits, someDigits_takes.complete _ ⟨hdigits, rfl⟩ hdigit]

/-! ## Numbers -/

/-- Whether a character goes on with a number. -/
def goesOnNumber (c : Char) : Bool := c.isDigit || c = '.' || c = 'e' || c = 'E'

theorem not_goesOn_of_not_goesOnNumber {c : Char} (h : goesOnNumber c = false) :
    c.isDigit = false ∧ goesOnFraction c = false ∧ goesOnPower c = false := by
  simp only [goesOnNumber, Bool.or_eq_false_iff] at h
  obtain ⟨⟨⟨hdigit, hpoint⟩, hsmall⟩, hlarge⟩ := h
  exact ⟨hdigit, by rw [goesOnFraction, hdigit, hpoint]; rfl, by rw [goesOnPower, hdigit, hsmall, hlarge]; rfl⟩

theorem head?_append_of_exponentText {power rest : List Char} {e : Int} (h : ExponentText power e)
    (hrest : ∀ c ∈ rest.head?, goesOnNumber c = false) : ∀ c ∈ (power ++ rest).head?, goesOnFraction c = false := by
  cases h with
  | absent => exact fun c hc => (not_goesOn_of_not_goesOnNumber (hrest c hc)).2.1
  | present hletter _ _ =>
    intro c hc
    obtain rfl := Option.some.inj hc
    rcases hletter with rfl | rfl <;> rfl

theorem head?_append_of_fractionText {point fraction rest : List Char} (h : FractionText point fraction)
    (hrest : ∀ c ∈ rest.head?, goesOnFraction c = false) : ∀ c ∈ (point ++ rest).head?, c.isDigit = false := by
  cases h with
  | absent =>
    intro c hc
    have hnot := hrest c hc
    simp only [goesOnFraction, Bool.or_eq_false_iff] at hnot
    exact hnot.1
  | present _ =>
    intro c hc
    obtain rfl := Option.some.inj hc
    rfl

/-- **A number as it is written**, without its sign, is taken with all of its digits. -/
theorem numeral_takes (negative : Bool) : Takes (numeral negative) (MagnitudeText negative) goesOnNumber where
  sound {cs n rest} h := by
    simp only [numeral] at h
    split at h
    · cases h
    · rename_i whole cs₁ hwhole
      obtain ⟨_, rfl, hw, rfl⟩ := wholeDigits_takes.sound hwhole
      split at h
      · cases h
      · rename_i fraction cs₂ hfraction
        obtain ⟨point, rfl, hf⟩ := fractionDigits_takes.sound hfraction
        split at h
        · cases h
        · rename_i e cs₃ hexponent
          obtain ⟨power, rfl, he⟩ := exponent_takes.sound hexponent
          cases h
          exact ⟨whole ++ (point ++ power), by simp, .intro hw hf he⟩
  complete {text n} rest h hrest := by
    obtain ⟨hw, hf, he⟩ := h
    have hpower : ∀ c ∈ rest.head?, goesOnPower c = false :=
      fun c hc => (not_goesOn_of_not_goesOnNumber (hrest c hc)).2.2
    have hpoint := head?_append_of_exponentText he hrest
    have hdigit := head?_append_of_fractionText hf hpoint
    rw [List.append_assoc, List.append_assoc, numeral]
    simp only [wholeDigits_takes.complete _ ⟨hw, rfl⟩ hdigit, fractionDigits_takes.complete _ hf hpoint,
      exponent_takes.complete _ he hpower]

/-- A text is written for one number at most. -/
theorem MagnitudeText.unique {negative : Bool} {text : List Char} {n m : Numeral} (h : MagnitudeText negative text n)
    (h' : MagnitudeText negative text m) : n = m := by
  have hread := (numeral_takes negative).complete [] h (by simp)
  rw [(numeral_takes negative).complete [] h' (by simp)] at hread
  exact (Prod.mk.inj (Except.ok.inj hread)).1.symm

/-- A number without its sign, as long as the library finds it in range. -/
def InRange (library : Library) (negative : Bool) (text : List Char) (v : Value) : Prop :=
  ∃ n x, MagnitudeText negative text n ∧ library.number? n = some x ∧ v = .number x

/-- **A number without its sign** is taken as the double that the library reads it as. -/
theorem magnitude_takes (library : Library) (negative : Bool) :
    Takes (magnitude library negative) (InRange library negative) goesOnNumber where
  sound {cs v rest} h := by
    rw [magnitude] at h
    split at h
    · cases h
    · rename_i n rest' hnumeral
      obtain ⟨text, rfl, htext⟩ := (numeral_takes negative).sound hnumeral
      split at h
      · cases h
      · rename_i x hnumber
        cases h
        exact ⟨text, rfl, n, x, htext, hnumber, rfl⟩
  complete {text v} rest h hrest := by
    obtain ⟨n, x, htext, hnumber, rfl⟩ := h
    simp only [magnitude, (numeral_takes negative).complete rest htext hrest, hnumber]

end Formula.Json
