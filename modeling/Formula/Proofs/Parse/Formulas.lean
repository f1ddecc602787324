import Formula.Error
import Formula.Proofs.Parse.Language
import Formula.Proofs.Scan.Words

/-!
# What a formula parses to

* `Expr.ofFormula_eq_ofTokens` : a formula is read by its tokens.
* `ofFormula_eq_ok_iff` : a formula is accepted when its terminals are those of a derivation that the limit covers.
* `ofFormula_of_derivation` : on the terminals of a derivation only the limit decides.
-/

namespace Formula

open Grammar

/-- Tokens that close with their only end of the input have all others for their sentence. -/
theorem sentence_eq_of_map_terminal {ts : List Token} {front : List Terminal}
    (h : ts.map Token.terminal = front ++ [.endOfInput]) (hfront : .endOfInput ∉ front) : sentence ts = front := by
  obtain ⟨used, last, rfl, rfl, hlast⟩ := List.map_eq_append_iff.1 h
  obtain ⟨t, rfl, ht⟩ := List.map_eq_singleton_iff.1 hlast
  exact Parser.sentence_append hfront (Token.kind_of_terminal ht)

theorem terminals?_toList (formula : String) :
    terminals? formula.toList = (tokenize formula).toOption.map fun ts => ts.map Token.terminal := rfl

/-- The terminals of a formula are those of its tokens. -/
theorem terminals?_eq_some_iff {formula : String} {ws : List Terminal} :
    terminals? formula.toList = some ws ↔ ∃ ts, tokenize formula = .ok ts ∧ ts.map Token.terminal = ws := by
  rw [terminals?_toList]
  cases tokenize formula <;> simp [Except.toOption]

/-- A formula spells a derivation when its tokens have the terminals of the derivation for their sentence. -/
theorem terminals?_eq_words_iff {formula : String} (d : Expression) :
    terminals? formula.toList = some (d.words ++ [.endOfInput]) ↔
      ∃ ts, tokenize formula = .ok ts ∧ d.words = sentence ts := by
  constructor
  · intro h
    obtain ⟨ts, hts, hmap⟩ := terminals?_eq_some_iff.1 h
    exact ⟨ts, hts, (sentence_eq_of_map_terminal hmap d.endOfInput_not_mem).symm⟩
  · rintro ⟨ts, hts, hwords⟩
    have hterminals := terminals?_eq_some_iff.2 ⟨ts, hts, rfl⟩
    obtain ⟨front, hfront, hnot⟩ := exists_eq_append_endOfInput hterminals
    rw [hterminals, hfront, hwords, sentence_eq_of_map_terminal hfront hnot]

/-- A formula that is scanned is read by its tokens. -/
theorem Expr.ofFormula_eq_ofTokens {formula : String} {ts : List Token} (hts : tokenize formula = .ok ts)
    (maxDepth : Nat) : ofFormula formula maxDepth = (ofTokens ts maxDepth).mapError .parse := by
  rw [ofFormula, hts]
  cases h : ofTokens ts maxDepth <;> simp only [h] <;> rfl

section

variable {formula : String} {ts : List Token} {maxDepth : Nat}

theorem Expr.ofFormula_eq_ok_iff_ofTokens (hts : tokenize formula = .ok ts) {e : Expr} :
    ofFormula formula maxDepth = .ok e ↔ ofTokens ts maxDepth = .ok e := by
  rw [ofFormula_eq_ofTokens hts]
  cases ofTokens ts maxDepth <;> simp [Except.mapError]

theorem Expr.ofFormula_eq_error_iff_ofTokens (hts : tokenize formula = .ok ts) {why : ParseError} :
    ofFormula formula maxDepth = .error (.parse why) ↔ ofTokens ts maxDepth = .error why := by
  rw [ofFormula_eq_ofTokens hts]
  cases ofTokens ts maxDepth <;> simp [Except.mapError]

end

/-- **A formula is accepted** when it spells a derivation whose nesting the limit covers. -/
theorem ofFormula_eq_ok_iff {formula : String} {maxDepth : Nat} {e : Expr} : Expr.ofFormula formula maxDepth = .ok e ↔
    ∃ d : Expression, terminals? formula.toList = some (d.words ++ [.endOfInput]) ∧ d.tree = e ∧
      d.depth ≤ max 1 maxDepth := by
  simp only [terminals?_eq_words_iff, Expr.ofFormula]
  cases hts : tokenize formula with
  | error why => simp
  | ok ts =>
    simp only [Except.ok.injEq, exists_eq_left', ← Parser.ofTokens_eq_ok_iff]
    cases Expr.ofTokens ts maxDepth <;> simp

/-- **On the terminals of a derivation the limit decides**: the formula is read as the tree of the derivation if the
limit covers its nesting, and is refused for its depth if not. -/
theorem ofFormula_of_derivation {formula : String} {d : Expression}
    (h : terminals? formula.toList = some (d.words ++ [.endOfInput])) (maxDepth : Nat) :
    Expr.ofFormula formula maxDepth =
      if d.depth ≤ max 1 maxDepth then .ok d.tree else .error (.parse (.tooDeep (max 1 maxDepth))) := by
  obtain ⟨ts, hts, hwords⟩ := (terminals?_eq_words_iff d).1 h
  have hdecide := Parser.ofTokens_of_derivation hwords maxDepth
  by_cases hdepth : d.depth ≤ max 1 maxDepth
  · simp only [Expr.ofFormula, hts, hdecide.1 hdepth, if_pos hdepth]
  · simp only [Expr.ofFormula, hts, hdecide.2 (Nat.lt_of_not_le hdepth), if_neg hdepth]

/-- A formula that is accepted under one limit is read as the same tree under any other, or refused for its depth. -/
theorem ofFormula_of_ok {formula : String} {maxDepth : Nat} {e : Expr} (h : Expr.ofFormula formula maxDepth = .ok e)
    (limit : Nat) :
    Expr.ofFormula formula limit = .ok e ∨ Expr.ofFormula formula limit = .error (.parse (.tooDeep (max 1 limit))) := by
  obtain ⟨d, hterminals, rfl, -⟩ := ofFormula_eq_ok_iff.1 h
  rw [ofFormula_of_derivation hterminals]
  split
  · exact .inl rfl
  · exact .inr rfl

/-- What a tree is known by tells that there is one. -/
theorem exists_ok_of_map_toOption {α : Type} {f : Expr → α} {a : α} {o : Except FormulaError Expr}
    (h : o.toOption.map f = some a) : ∃ e, o = .ok e ∧ f e = a := by
  cases o with
  | error why => cases h
  | ok e => exact ⟨e, rfl, Option.some.inj h⟩

end Formula
