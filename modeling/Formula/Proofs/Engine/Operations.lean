import Formula.Engine
import Formula.Proofs.Parse.Formulas
import Formula.Proofs.Scan.Blank

/-!
# The operations of an engine agree

An engine evaluates, compiles and checks a formula, each with its own test for blank text and its own wrapping of
errors.

* `evaluate_eq`, `toSql_eq`, `invalidity?_eq` : what an operation makes of the answer of the parser.
* `evaluate_of_parse`, `toSql_of_parse` : what they make of a tree.
* `operations_agree` : the operations agree on which formulas are blank and which can be read, on what is wrong with
  those that cannot, and with the tree of those that can.
-/

namespace Formula

/-- The parser fails only before there is a tree. -/
theorem Expr.isSyntactic_of_ofFormula {formula : String} {maxDepth : Nat} {x : FormulaError}
    (h : ofFormula formula maxDepth = .error x) : x.isSyntactic = true := by
  unfold ofFormula at h
  split at h
  · cases h
    rfl
  · split at h
    · cases h
      rfl
    · cases h

namespace Engine

/-! ## What an operation makes of a tree -/

section

variable (engine : Engine) {formula : String}

/-- A formula is evaluated by reading it and evaluating its tree. -/
theorem evaluate_eq (h : isBlank formula = false) (c : Context) : engine.evaluate formula c =
    ((engine.parse formula).bind fun e => (e.eval c).mapError .eval).mapError (⟨.evaluation, formula, ·⟩) := by
  rw [evaluate, h, if_neg Bool.false_ne_true]
  cases engine.parse formula with
  | error x => rfl
  | ok e =>
    simp only [Except.bind]
    cases e.eval c <;> rfl

/-- A formula is compiled by reading it and compiling its tree. -/
theorem toSql_eq (h : isBlank formula = false) : engine.toSql formula =
    ((engine.parse formula).map (·.toSql engine.dialect)).mapError (⟨.compilation, formula, ·⟩) := by
  rw [toSql, h, if_neg Bool.false_ne_true]
  cases engine.parse formula <;> rfl

/-- A formula is checked by reading it. -/
theorem invalidity?_eq (h : isBlank formula = false) : engine.invalidity? formula =
    match engine.parse formula with
    | .error x => some (.error x)
    | .ok _ => none := if_neg (Bool.eq_false_iff.1 h)

/-! ## What can be read -/

theorem exists_toSql_iff (h : isBlank formula = false) :
    (∃ sql, engine.toSql formula = .ok sql) ↔ ∃ e, engine.parse formula = .ok e := by
  rw [toSql_eq engine h]
  cases engine.parse formula <;> simp [Except.map, Except.mapError]

theorem invalidity?_eq_none_iff (h : isBlank formula = false) :
    engine.invalidity? formula = none ↔ ∃ e, engine.parse formula = .ok e := by
  rw [invalidity?_eq engine h]
  cases engine.parse formula <;> simp

/-- Once there is a tree, only its evaluation can fail. -/
theorem evaluate_not_syntactic_iff (h : isBlank formula = false) (c : Context) :
    (∀ err, engine.evaluate formula c = .error err → err.cause.isSyntactic = false) ↔
      ∃ e, engine.parse formula = .ok e := by
  rw [evaluate_eq engine h]
  cases hparse : engine.parse formula with
  | error x => simp [Except.bind, Except.mapError, Expr.isSyntactic_of_ofFormula hparse]
  | ok e => cases heval : e.eval c <;> simp [Except.bind, Except.mapError, heval, FormulaError.isSyntactic]

end

/-! ## What comes of a tree -/

section

variable {engine : Engine} {formula : String} {e : Expr}

/-- A formula that can be read has more in it than white space. -/
theorem isBlank_of_ofFormula {maxDepth : Nat} (h : Expr.ofFormula formula maxDepth = .ok e) :
    isBlank formula = false := by
  refine Bool.eq_false_iff.2 fun hblank => ?_
  obtain ⟨position, hend⟩ := tokenize_eq_endOfInput_iff.2 hblank
  obtain ⟨d, hd, -⟩ := ofFormula_eq_ok_iff.1 h
  obtain ⟨w, ws, hwords, -⟩ := d.exists_words_cons
  have hterminals := terminals?_eq_some_iff.2 ⟨_, hend, rfl⟩
  rw [hd, hwords] at hterminals
  simp at hterminals

/-- A formula that can be read has the value of its tree, or fails as the tree does. -/
theorem evaluate_of_parse (h : engine.parse formula = .ok e) (c : Context) :
    engine.evaluate formula c = (e.eval c).mapError fun why => ⟨.evaluation, formula, .eval why⟩ := by
  rw [evaluate_eq engine (isBlank_of_ofFormula h), h]
  cases heval : e.eval c <;> simp [Except.bind, Except.mapError, heval]

/-- It has the SQL text of its tree. -/
theorem toSql_of_parse (h : engine.parse formula = .ok e) :
    engine.toSql formula = .ok (e.toSql engine.dialect) := by
  rw [toSql_eq engine (isBlank_of_ofFormula h), h]
  rfl

end

/-! ## Agreement -/

/-- **The operations agree.** Trimming, scanning and the operations agree on which formulas are blank. Any other formula
is valid, compiles in every dialect and evaluates in every context without a fault of its text exactly when it can be
read. Then the operations give what its tree gives; if not, they all fail with what is wrong with it. -/
theorem operations_agree (engine : Engine) (formula : String) :
    (Unicode.trim formula.toList = [] ↔ ∃ position, tokenize formula = .ok [.endOfInput position]) ∧
      (Unicode.trim formula.toList = [] →
        (∀ c, engine.evaluate formula c = .ok .null) ∧ engine.toSql formula = .ok "NULL" ∧
          (engine.invalidity? formula).map Invalidity.message = some blankMessage) ∧
      (Unicode.trim formula.toList ≠ [] →
        (engine.invalidity? formula = none ↔ ∃ e, engine.parse formula = .ok e) ∧
        (∀ dialect, (∃ sql, { engine with dialect }.toSql formula = .ok sql) ↔ ∃ e, engine.parse formula = .ok e) ∧
        (∀ c, (∀ err, engine.evaluate formula c = .error err → err.cause.isSyntactic = false) ↔
          ∃ e, engine.parse formula = .ok e) ∧
        (∀ x, engine.parse formula = .error x →
          engine.toSql formula = .error ⟨.compilation, formula, x⟩ ∧
          (∀ c, engine.evaluate formula c = .error ⟨.evaluation, formula, x⟩) ∧
          (engine.invalidity? formula).map Invalidity.message = some x.message) ∧
        ∀ e, engine.parse formula = .ok e →
          engine.toSql formula = .ok (e.toSql engine.dialect) ∧
          ∀ c, engine.evaluate formula c = (e.eval c).mapError fun why => ⟨.evaluation, formula, .eval why⟩) := by
  rw [ne_eq, Unicode.trim_eq_nil_iff]
  refine ⟨tokenize_eq_endOfInput_iff.symm, fun hblank => ?_, fun hblank => ?_⟩
  · have h : isBlank formula = true := hblank
    refine ⟨fun c => ?_, ?_, ?_⟩
    · rw [evaluate, if_pos h]
    · rw [toSql, if_pos h]
    · rw [invalidity?, if_pos h]
      rfl
  · have h : isBlank formula = false := Bool.eq_false_iff.2 hblank
    refine ⟨invalidity?_eq_none_iff engine h, fun dialect => exists_toSql_iff { engine with dialect } h,
      evaluate_not_syntactic_iff engine h, fun x hparse => ⟨?_, fun c => ?_, ?_⟩,
      fun e hparse => ⟨toSql_of_parse hparse, evaluate_of_parse hparse⟩⟩
    · rw [toSql_eq engine h, hparse]
      rfl
    · rw [evaluate_eq engine h, hparse]
      rfl
    · rw [invalidity?_eq engine h, hparse]
      rfl

end Engine
end Formula
