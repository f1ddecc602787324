import Formula.Proofs.Engine.Operations
import Formula.Proofs.Parse.Formulas
import Formula.Proofs.Parse.Positions
import Formula.Proofs.Scan.Spacing

/-!
# White space does not matter to an engine

Formulas whose tokens are of the same kinds and texts get the same answers from every engine, but for the text of the
formula and the places that errors name. White space put in between tokens makes such a formula.

* `alike_of_tokens` : two formulas with the same tokens.
* `spacing_does_not_matter` : a formula with white space put in.
-/

namespace Formula

/-! ## Errors without places -/

/-- The error without the place in the formula. -/
def FormulaError.unplaced : FormulaError → FormulaError
  | .scan e => .scan { e with position := 0 }
  | .parse e => .parse e.unplaced
  | .eval e => .eval e

/-- The error without the formula and the place in it. -/
def EngineError.unplaced (e : EngineError) : EngineError := { e with formula := "", cause := e.cause.unplaced }

def Invalidity.unplaced : Invalidity → Invalidity
  | .blank => .blank
  | .error e => .error e.unplaced

/-! ## Formulas with the same tokens -/

section

variable {formula formula' : String} {ts ts' : List Token}

/-- A formula is blank when the end of the input is its only token, wherever that is. -/
theorem isBlank_iff_of_tokenize (hts : tokenize formula = .ok ts) :
    Engine.isBlank formula = true ↔ ts.map Token.unplaced = [.endOfInput 0] := by
  rw [Engine.isBlank, ← tokenize_eq_endOfInput_iff, hts]
  constructor
  · rintro ⟨position, h⟩
    rw [Except.ok.inj h]
    rfl
  · intro h
    obtain ⟨⟨kind, text, position⟩, rfl, ht⟩ := List.map_eq_singleton_iff.1 h
    cases ht
    exact ⟨position, rfl⟩

/-- Formulas with the same tokens are read as the same tree, or have the same thing wrong with them. -/
theorem Expr.ofFormula_congr (hts : tokenize formula = .ok ts) (hts' : tokenize formula' = .ok ts')
    (h : ts.map Token.unplaced = ts'.map Token.unplaced) (maxDepth : Nat) :
    (ofFormula formula maxDepth).mapError FormulaError.unplaced =
      (ofFormula formula' maxDepth).mapError FormulaError.unplaced := by
  have hinner : ∀ r : Except ParseError Expr, (r.mapError FormulaError.parse).mapError FormulaError.unplaced =
      (r.mapError ParseError.unplaced).mapError .parse := by
    rintro (x | e) <;> rfl
  rw [ofFormula_eq_ofTokens hts, ofFormula_eq_ofTokens hts', hinner, hinner, ofTokens_congr h]

end

namespace Engine

/-- The engine gives two formulas the same values, the same SQL text and the same verdict, or the same errors but for
the formula and the places that they name. -/
structure Alike (engine : Engine) (formula formula' : String) : Prop where
  evaluate : ∀ c, (engine.evaluate formula c).mapError EngineError.unplaced =
    (engine.evaluate formula' c).mapError EngineError.unplaced
  toSql : (engine.toSql formula).mapError EngineError.unplaced = (engine.toSql formula').mapError EngineError.unplaced
  invalidity? : (engine.invalidity? formula).map Invalidity.unplaced =
    (engine.invalidity? formula').map Invalidity.unplaced

section

variable (engine : Engine) {formula : String}

theorem evaluate_unplaced (h : isBlank formula = false) (c : Context) :
    (engine.evaluate formula c).mapError EngineError.unplaced =
      (((engine.parse formula).mapError FormulaError.unplaced).bind fun e => (e.eval c).mapError .eval).mapError
        (⟨.evaluation, "", ·⟩) := by
  rw [evaluate_eq engine h]
  cases engine.parse formula with
  | error x => rfl
  | ok e =>
    simp only [Except.bind, Except.mapError]
    cases e.eval c <;> rfl

theorem toSql_unplaced (h : isBlank formula = false) : (engine.toSql formula).mapError EngineError.unplaced =
    (((engine.parse formula).mapError FormulaError.unplaced).map (·.toSql engine.dialect)).mapError
      (⟨.compilation, "", ·⟩) := by
  rw [toSql_eq engine h]
  cases engine.parse formula <;> rfl

theorem invalidity?_unplaced (h : isBlank formula = false) : (engine.invalidity? formula).map Invalidity.unplaced =
    match (engine.parse formula).mapError FormulaError.unplaced with
    | .error x => some (.error x)
    | .ok _ => none := by
  rw [invalidity?_eq engine h]
  cases engine.parse formula <;> rfl

end

/-- **Formulas with the same tokens**, but for their places, get the same answers. -/
theorem alike_of_tokens {formula formula' : String} {ts ts' : List Token} (hts : tokenize formula = .ok ts)
    (hts' : tokenize formula' = .ok ts') (h : ts.map Token.unplaced = ts'.map Token.unplaced) (engine : Engine) :
    engine.Alike formula formula' := by
  have hblank : isBlank formula' = isBlank formula := by
    rw [Bool.eq_iff_iff, isBlank_iff_of_tokenize hts, isBlank_iff_of_tokenize hts', h]
  have hparse : (engine.parse formula).mapError FormulaError.unplaced =
      (engine.parse formula').mapError FormulaError.unplaced := Expr.ofFormula_congr hts hts' h engine.maxDepth
  cases hb : isBlank formula with
  | true =>
    rw [hb] at hblank
    constructor <;> simp only [Engine.evaluate, Engine.toSql, Engine.invalidity?, hb, hblank, if_true, implies_true]
  | false =>
    rw [hb] at hblank
    refine ⟨fun c => ?_, ?_, ?_⟩
    · rw [evaluate_unplaced engine hb, evaluate_unplaced engine hblank, hparse]
    · rw [toSql_unplaced engine hb, toSql_unplaced engine hblank, hparse]
    · rw [invalidity?_unplaced engine hb, invalidity?_unplaced engine hblank, hparse]

/-- **White space between tokens does not matter.** Put in anywhere but inside a lexeme, it leaves the kinds and texts
of the tokens as they are, and parsing depends on these alone; so every engine gives the two formulas the same
answers. -/
theorem spacing_does_not_matter :
    (∀ (before blank after : String) (ts : List Token), tokenize (before ++ after) = .ok ts →
      IsBoundary ts before.length → (∀ c ∈ blank.toList, Unicode.isWhiteSpace c = true) →
      (∃ ts', tokenize (before ++ blank ++ after) = .ok ts' ∧ ts'.map Token.unplaced = ts.map Token.unplaced) ∧
        ∀ engine : Engine, engine.Alike (before ++ blank ++ after) (before ++ after)) ∧
    ∀ ts ts' : List Token, ts.map Token.unplaced = ts'.map Token.unplaced → ∀ maxDepth,
      (Expr.ofTokens ts maxDepth).mapError ParseError.unplaced =
        (Expr.ofTokens ts' maxDepth).mapError ParseError.unplaced := by
  refine ⟨fun before blank after ts hts hboundary white => ?_, fun ts ts' => Expr.ofTokens_congr⟩
  obtain ⟨ts', hts', hsame⟩ := exists_tokenize_of_isBoundary hts hboundary white
  exact ⟨⟨ts', hts', hsame⟩, alike_of_tokens hts' hts hsame⟩

/-- A space in front of the second operand of `a<=1`. -/
theorem spacing_does_not_matter_comparison :
    IsBoundary [⟨.identifier, "a", 0⟩, ⟨.operator, "<=", 1⟩, ⟨.number, "1", 3⟩, .endOfInput 4] "a<=".length ∧
      ∀ engine : Engine, engine.Alike ("a<=" ++ " " ++ "1") ("a<=" ++ "1") := by
  have htokens : tokenize ("a<=" ++ "1") =
      .ok [⟨.identifier, "a", 0⟩, ⟨.operator, "<=", 1⟩, ⟨.number, "1", 3⟩, .endOfInput 4] := by decide +kernel
  have hboundary : IsBoundary [⟨.identifier, "a", 0⟩, ⟨.operator, "<=", 1⟩, ⟨.number, "1", 3⟩, .endOfInput 4]
      "a<=".length := by
    unfold IsBoundary
    decide
  have hwhite : ∀ c ∈ " ".toList, Unicode.isWhiteSpace c = true := List.all_eq_true.1 (by decide +kernel)
  exact ⟨hboundary, (spacing_does_not_matter.1 "a<=" " " "1" _ htokens hboundary hwhite).2⟩

end Engine
end Formula
