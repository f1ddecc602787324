import Formula.Proofs.Json.Numbers

/-!
# Reading strings

* `escape_takes` : what stands behind a backslash, surrogate pairs included.
* `stringUpTo_sound`, `stringUpTo_complete` : the characters of a string, up to its closing quote.
* `string_takes` : a string behind its opening quote.
-/

namespace Formula.Json

/-- No character goes on with a text that tells its own end. -/
def neverGoesOn (_ : Char) : Bool := false

theorem not_neverGoesOn {rest : List Char} : ∀ c ∈ rest.head?, neverGoesOn c = false := fun _ _ => rfl

/-! ## Code units -/

theorem codeUnit_takes : Takes codeUnit (fun text n => UnitText ('u' :: text) n) neverGoesOn where
  sound {cs n rest} h := by
    unfold codeUnit at h
    split at h
    · rename_i a b c d rest'
      split at h
      · rename_i hi hj hk hl
        cases h
        exact ⟨[a, b, c, d], rfl, .intro hi hj hk hl⟩
      · cases h
    · split at h <;> cases h
  complete {text n} rest h _ := by
    cases h with
    | intro first second third fourth => simp [codeUnit, first, second, third, fourth]

theorem UnitText.exists_digits {text : List Char} {n : Nat} (h : UnitText text n) : ∃ digits, text = 'u' :: digits := by
  cases h
  exact ⟨_, rfl⟩

theorem trailingUnit_takes :
    Takes trailingUnit (fun text m => ∃ tail, text = '\\' :: tail ∧ UnitText tail m ∧ isTrailing m = true)
      neverGoesOn where
  sound {cs m rest} h := by
    unfold trailingUnit at h
    split at h
    · cases h
    · split at h
      · rename_i hc
        split at h
        · cases h
        · split at h
          · rename_i hd
            split at h
            · cases h
            · rename_i n rest' hunit
              split at h
              · rename_i htrailing
                cases h
                obtain ⟨text, rfl, htext⟩ := codeUnit_takes.sound hunit
                exact ⟨'\\' :: 'u' :: text, by rw [hc, hd]; rfl, _, rfl, htext, htrailing⟩
              · cases h
          · cases h
      · cases h
  complete {text m} rest h _ := by
    obtain ⟨tail, rfl, htext, htrailing⟩ := h
    obtain ⟨digits, rfl⟩ := htext.exists_digits
    rw [List.cons_append, List.cons_append, trailingUnit, if_pos rfl]
    simp only [if_true, codeUnit_takes.complete _ htext not_neverGoesOn, htrailing]

/-! ## Escapes -/

theorem escaped?_eq_some_iff {letter c : Char} : escaped? letter = some c ↔ (letter, c) ∈ shortEscapes := by
  constructor
  · intro h
    unfold escaped? at h
    split at h
    · rename_i hletter
      cases h
      rcases hletter with rfl | rfl | rfl <;> decide
    · repeat
        split at h
        · rename_i hletter
          cases h
          rw [hletter]
          decide
      cases h
  · intro h
    have hall : ∀ pair ∈ shortEscapes, escaped? pair.1 = some pair.2 := by decide
    exact hall _ h

/-- No code unit is both halves of a surrogate pair. -/
theorem isTrailing_of_isLeading {n : Nat} (h : isLeading n = true) : isTrailing n = false := by
  simp only [isLeading, Bool.and_eq_true, decide_eq_true_eq] at h
  simp only [isTrailing, Bool.and_eq_false_iff, decide_eq_false_iff_not]
  omega

/-- **What stands behind a backslash** is taken, half a surrogate pair only with its other half. -/
theorem escape_takes : Takes escape EscapeText neverGoesOn where
  sound {cs c rest} h := by
    cases cs with
    | nil => cases h
    | cons letter cs =>
      rw [escape] at h
      split at h
      · rename_i hletter
        subst hletter
        unfold escapedUnits at h
        split at h
        · cases h
        · rename_i n rest' hunit
          obtain ⟨text, rfl, htext⟩ := codeUnit_takes.sound hunit
          split at h
          · cases h
          · rename_i htrailing
            rw [Bool.not_eq_true] at htrailing
            split at h
            · rename_i hleading
              split at h
              · cases h
              · rename_i m rest'' hunit'
                obtain ⟨rfl, rfl⟩ := Prod.mk.inj (Except.ok.inj h)
                obtain ⟨_, rfl, text', rfl, htext', htrailing'⟩ := trailingUnit_takes.sound hunit'
                exact ⟨'u' :: text ++ '\\' :: text', by simp, .pair htext hleading htext' htrailing'⟩
            · rename_i hleading
              rw [Bool.not_eq_true] at hleading
              cases h
              exact ⟨'u' :: text, rfl, .single htext hleading htrailing⟩
      · split at h
        · rename_i d hd
          cases h
          exact ⟨[letter], rfl, .short (escaped?_eq_some_iff.1 hd)⟩
        · cases h
  complete {text c} rest h _ := by
    cases h with
    | @short letter c mem =>
      have hletter : letter ≠ 'u' := by
        rintro rfl
        simp [shortEscapes] at mem
      rw [List.singleton_append, escape, if_neg hletter, escaped?_eq_some_iff.2 mem]
    | single isUnit not_leading not_trailing =>
      obtain ⟨digits, rfl⟩ := isUnit.exists_digits
      rw [List.cons_append, escape, if_pos rfl, escapedUnits, codeUnit_takes.complete _ isUnit not_neverGoesOn]
      simp only [not_trailing, not_leading, Bool.false_eq_true, if_false]
    | @pair text text' n m isUnit leading isUnit' trailing =>
      obtain ⟨digits, rfl⟩ := isUnit.exists_digits
      have htrailing := trailingUnit_takes.complete rest ⟨text', rfl, isUnit', trailing⟩ not_neverGoesOn
      rw [List.append_assoc, List.cons_append, escape, if_pos rfl, escapedUnits,
        codeUnit_takes.complete _ isUnit not_neverGoesOn]
      simp only [isTrailing_of_isLeading leading, leading, Bool.false_eq_true, if_false, if_true, htrailing]

/-! ## Strings -/

theorem CharText.length_pos {text : List Char} {c : Char} (h : CharText text c) : 0 < text.length := by
  cases h <;> exact Nat.succ_pos _

theorem stringUpTo_sound : ∀ {bound : Nat} {cs ds rest : List Char}, stringUpTo bound cs = .ok (ds, rest) →
    ∃ text, cs = text ++ '"' :: rest ∧ StringText text ds
  | 0, [], _, _, h => by cases h
  | 0, _ :: _, _, _, h => by cases h
  | bound + 1, [], _, _, h => by cases h
  | bound + 1, c :: cs, ds, rest, h => by
    rw [stringUpTo] at h
    split at h
    · rename_i hc
      cases h
      exact ⟨[], by rw [hc]; rfl, .nil⟩
    · rename_i hquote
      split at h
      · cases h
      · rename_i hcontrol
        split at h
        · cases h
        · rename_i d cs' hchar
          split at h
          · cases h
          · rename_i ds' rest' hmore
            cases h
            obtain ⟨texts, rfl, htexts⟩ := stringUpTo_sound hmore
            split at hchar
            · rename_i hbackslash
              obtain ⟨text, rfl, htext⟩ := escape_takes.sound hchar
              exact ⟨('\\' :: text) ++ texts, by rw [hbackslash]; simp, .cons (.escape htext) htexts⟩
            · rename_i hbackslash
              cases hchar
              exact ⟨[c] ++ texts, rfl, .cons (.plain hquote hbackslash (Nat.le_of_not_lt hcontrol)) htexts⟩

theorem stringUpTo_complete {text ds : List Char} (h : StringText text ds) (rest : List Char) :
    ∀ {bound : Nat}, text.length < bound → stringUpTo bound (text ++ '"' :: rest) = .ok (ds, rest) := by
  induction h with
  | nil =>
    intro bound hbound
    obtain ⟨bound, rfl⟩ := Nat.exists_eq_succ_of_ne_zero (Nat.ne_of_gt hbound)
    rw [List.nil_append, stringUpTo, if_pos rfl]
  | cons head tail ih =>
    intro bound hbound
    have hpos := head.length_pos
    rw [List.length_append] at hbound
    obtain ⟨bound, rfl⟩ := Nat.exists_eq_succ_of_ne_zero (Nat.ne_of_gt (Nat.lt_of_le_of_lt (Nat.zero_le _) hbound))
    have hmore := @ih bound (by omega)
    rw [List.append_assoc]
    cases head with
    | plain not_quote not_backslash not_control =>
      rw [List.singleton_append, stringUpTo, if_neg not_quote, if_neg (Nat.not_lt_of_le not_control),
        if_neg not_backslash]
      simp only [hmore]
    | escape isEscape =>
      rw [List.cons_append, stringUpTo, if_neg (by decide), if_neg (by decide), if_pos rfl,
        escape_takes.complete _ isEscape not_neverGoesOn]
      simp only [hmore]

/-- What stands behind the opening quote of a string, with the closing one. -/
inductive ClosedText : List Char → String → Prop
  | intro {text cs : List Char} (isString : StringText text cs) : ClosedText (text ++ ['"']) (String.ofList cs)

/-- **A string** is taken up to its closing quote. -/
theorem string_takes : Takes string ClosedText neverGoesOn where
  sound {cs s rest} h := by
    unfold string at h
    split at h
    · cases h
    · rename_i ds rest' hds
      cases h
      obtain ⟨text, rfl, htext⟩ := stringUpTo_sound hds
      exact ⟨text ++ ['"'], by simp, .intro htext⟩
  complete {text s} rest h _ := by
    cases h with
    | @intro text cs isString =>
      have hlength : text.length < (text ++ '"' :: rest).length := by
        rw [List.length_append, List.length_cons]
        omega
      rw [List.append_assoc, List.singleton_append, string, stringUpTo_complete isString rest hlength]

end Formula.Json
