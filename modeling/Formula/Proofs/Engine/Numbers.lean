import Formula.Proofs.Binary64.Signs
import Formula.Proofs.Engine.Operations
import Formula.Proofs.Parse.Numbers
import Formula.Proofs.Render.Spelling

/-!
# The text of a number

The text of a double is read back as the double in every way that an engine reads it: as a token, as a formula, as SQL
and as the content of a string. A number below zero has a minus in its text, and so is the difference from zero of the
number without it.

* `isNumber_text`, `literalNumber?_text` : the text of a number that has no sign is that of a literal.
* `number_text_means_number` : what the text of a number is read as, and which texts of digits and points are refused.
-/

namespace Formula

/-! ## Numbers without a sign -/

/-- No digit and no point is white space. -/
theorem IsNumber.not_white {cs : List Char} (h : IsNumber cs) : ∀ c ∈ cs, Unicode.isWhiteSpace c = false := by
  intro c hc
  refine Bool.eq_false_iff.2 fun hwhite => ?_
  have hnot := Unicode.forall_isWhiteSpace (p := fun c => !isNumberChar c) (by decide +kernel) hwhite
  simp [h.forall_mem c hc] at hnot

theorem IsNumber.trim_eq {cs : List Char} (h : IsNumber cs) : Unicode.trim cs = cs :=
  Unicode.Trimmed.trim_eq ⟨fun c hc => h.not_white c (List.mem_of_mem_head? hc),
    fun c hc => h.not_white c (List.mem_of_getLast? hc)⟩

theorem IsNumber.toNumber?_string {text : String} (h : IsNumber text.toList) :
    (Value.string text).toNumber? = Binary64.ofNumeral? text.toList := by
  rw [Value.toNumber?, h.trim_eq]

theorem toList_text (x : Binary64) : (Value.number x).text.toList = x.chars := String.toList_ofList

/-- A finite number has the same text in SQL. -/
theorem Sql.literal_number {x : Binary64} (h : x.isFinite = true) :
    literal (.number x) = (Value.number x).text.toList := by
  rw [toList_text, literal, if_pos h]

section

variable (rank : Fin Binary64.rankCount)

theorem isNumber_text : IsNumber (Value.number (.finite false rank)).text.toList := by
  rw [toList_text]
  exact isNumber_chars rank

theorem ofNumeral?_text :
    Binary64.ofNumeral? (Value.number (.finite false rank)).text.toList = some (.finite false rank) := by
  obtain ⟨-, -, -, -, -, hread⟩ := Binary64.ofNumeral?_chars rank
  rwa [toList_text]

theorem literalNumber?_text :
    Parser.literalNumber? (Value.number (.finite false rank)).text = some (.finite false rank) := by
  rw [Parser.literalNumber?, ofNumeral?_text]
  rfl

end

section

variable (engine : Engine) (rank : Fin Binary64.rankCount)

/-- **A number without a sign** is what its text evaluates to. -/
theorem evaluate_text (c : Context) :
    engine.evaluate (Value.number (.finite false rank)).text c = .ok (.number (.finite false rank)) := by
  have hparse := ofFormula_number (isNumber_text rank) (literalNumber?_text rank) engine.maxDepth
  exact Engine.evaluate_of_parse hparse c

/-- Its text is its own SQL. -/
theorem toSql_text :
    engine.toSql (Value.number (.finite false rank)).text = .ok (Value.number (.finite false rank)).text := by
  have hparse := ofFormula_number (isNumber_text rank) (literalNumber?_text rank) engine.maxDepth
  have hsql : (Expr.literal (.number (.finite false rank))).toSql engine.dialect =
      (Value.number (.finite false rank)).text := by
    rw [Expr.toSql, Expr.sqlOnto, List.append_nil, Sql.literal_number rfl, String.ofList_toList]
  rw [Engine.toSql_of_parse hparse, hsql]

/-- A string that holds its text has it for its numeric reading. -/
theorem toNumber?_text :
    (Value.string (Value.number (.finite false rank)).text).toNumber? = some (.finite false rank) := by
  rw [(isNumber_text rank).toNumber?_string, ofNumeral?_text]

end

/-! ## Numbers below zero -/

/-- The text of a number below zero is a minus in front of that of its opposite. -/
theorem toList_text_negative (rank : Fin Binary64.rankCount) : (Value.number (.finite true rank)).text.toList =
    '-' :: (Value.number (.finite false rank)).text.toList := by
  rw [toList_text, toList_text, Binary64.chars_finite]
  simp [Binary64.chars, Binary64.withSign]

theorem Sql.literal_zero : Sql.literal (.number (.zero false)) = ['0'] := by
  decide +kernel

/-- The opposite of a number in SQL. -/
theorem Expr.toSql_negate (d : Dialect) {x : Binary64} (hx : x.isFinite = true) :
    (negate (literal (.number x))).toSql d = "(0 - " ++ (Value.number x).text ++ ")" := by
  rw [← String.toList_inj, toSql, String.toList_ofList, negate, sqlOnto, sqlOnto, sqlOnto, Sql.literal_zero,
    Sql.literal_number hx]
  simp [Operator.sqlSymbol, Operator.symbol]

section

variable (engine : Engine) {x : Binary64}

/-- The text of a number below zero is read as the difference of its opposite from zero. -/
theorem parse_text_negative (hlimit : 2 ≤ engine.maxDepth) (rank : Fin Binary64.rankCount) :
    engine.parse (Value.number (.finite true rank)).text = .ok (.negate (.literal (.number (.finite false rank)))) :=
  ofFormula_minus_number (toList_text_negative rank) (isNumber_text rank) (literalNumber?_text rank) hlimit

/-- **A number below zero** is what its text evaluates to, and in SQL its opposite is subtracted from zero. -/
theorem evaluate_and_toSql_text_negative (hlimit : 2 ≤ engine.maxDepth) (hx : x.isFinite = true)
    (hless : x.less (.zero false) = true) :
    (∀ c, engine.evaluate (Value.number x).text c = .ok (.number x)) ∧
      engine.toSql (Value.number x).text = .ok ("(0 - " ++ (Value.number x.neg).text ++ ")") := by
  obtain ⟨hzero, rank, rfl⟩ := Binary64.exists_eq_of_less_zero hx hless
  have hparse := parse_text_negative engine hlimit rank
  constructor
  · intro c
    have heval : (Expr.negate (.literal (.number (.finite false rank)))).eval c =
        .ok (.number ((Binary64.zero false).sub (.finite false rank))) := rfl
    have hexact : (Binary64.zero false).sub (.finite false rank) = .finite true rank := Binary64.zero_sub_neg hzero
    rw [hexact] at heval
    rw [Engine.evaluate_of_parse hparse, heval]
    rfl
  · rw [Engine.toSql_of_parse hparse, Expr.toSql_negate _ rfl]
    rfl

end

/-! ## The main statement -/

open Binary64 in
/-- **The text of a number means that number.** For a number without a sign it is one token, evaluates to the number
whatever the context and the limit, is its own SQL in every dialect, and gives a string the number for its reading. For
a number below zero it evaluates to the number at every limit from two on, and its SQL subtracts the opposite from zero.
Conversely digits and points are refused as a number, as an operand anywhere and alone, just when they have two points
or are rounded to infinity. A formula that is refused for a number holds one of these, one that holds any of them is
accepted at no limit, and if it would be accepted with other numbers it is refused for a number. -/
theorem number_text_means_number :
    (∀ rank, let x := finite false rank
      let t := (Value.number x).text
      tokenize t = .ok [⟨.number, t, 0⟩, .endOfInput t.length] ∧
      (∀ engine : Engine, (∀ c, engine.evaluate t c = .ok (.number x)) ∧ engine.toSql t = .ok t) ∧
      (Value.string t).toNumber? = some x) ∧
    (∀ x : Binary64, x.isFinite = true → x.less (zero false) = true → ∀ engine : Engine, 2 ≤ engine.maxDepth →
      (∀ c, engine.evaluate (Value.number x).text c = .ok (.number x)) ∧
      engine.toSql (Value.number x).text = .ok ("(0 - " ++ (Value.number x.neg).text ++ ")")) ∧
    (∀ t : Token, t.kind = .number → DigitsAndPoints t.text.toList →
      (∀ budget rest, Parser.unary budget (t :: rest) = .refused (.invalidNumber t.text) rest ↔
        Unreadable t.text.toList) ∧
      (∀ limit, Expr.ofTokens [t] limit = .error (.invalidNumber t.text) ↔ Unreadable t.text.toList) ∧
      (¬Unreadable t.text.toList → ∃ x, RoundsTo (decimalValue t.text.toList) x ∧
        ∀ limit, Expr.ofTokens [t] limit = .ok (.literal (.number x)))) ∧
    ∀ formula ts, tokenize formula = .ok ts →
      (∀ limit text, Expr.ofFormula formula limit = .error (.parse (.invalidNumber text)) →
        ∃ t ∈ ts, t.kind = .number ∧ t.text = text ∧ Unreadable text.toList) ∧
      (∀ t ∈ ts, t.kind = .number → Unreadable t.text.toList → ∀ limit e, Expr.ofFormula formula limit ≠ .ok e) ∧
      ∀ formula' ts', tokenize formula' = .ok ts' → Parser.SameSkeleton ts ts' →
        ∀ limit e', Expr.ofFormula formula' limit = .ok e' →
          ((∃ text, Expr.ofFormula formula limit = .error (.parse (.invalidNumber text))) ↔
            ∃ t ∈ ts, t.kind = .number ∧ Unreadable t.text.toList) := by
  refine ⟨fun rank => ⟨?_, ?_, ?_⟩, ?_, fun t hk htext => ⟨?_, ?_, ?_⟩, fun formula ts hts => ⟨?_, ?_, ?_⟩⟩
  · exact tokenize_number (isNumber_text rank)
  · exact fun engine => ⟨evaluate_text engine rank, toSql_text engine rank⟩
  · exact toNumber?_text rank
  · exact fun x hx hless engine hlimit => evaluate_and_toSql_text_negative engine hlimit hx hless
  · exact Parser.unary_number_refused_iff hk htext
  · exact Parser.ofTokens_number_refused_iff hk htext
  · intro hreadable
    obtain ⟨x, hx, hread⟩ := Parser.exists_literalNumber? htext hreadable
    exact ⟨x, hx, Parser.ofTokens_number hk hread⟩
  · exact fun limit text herror => exists_unreadable_of_ofFormula hts herror
  · exact fun t ht hk hunreadable => ofFormula_ne_ok_of_unreadable hts ht hk hunreadable
  · exact fun formula' ts' hts' hsame limit e' haccepted => refused_iff_of_skeleton hts hts' hsame haccepted

open Binary64 in
/-- The text of minus two and a half, and `1.2.3` where `2.5` could stand. -/
theorem number_text_means_number_minus_two_and_a_half :
    let x := finite true ⟨1024 * 2 ^ 52 + 2 ^ 50, by decide⟩
    let t : Token := ⟨.number, "2.5", 0⟩
    let t' : Token := ⟨.number, "1.2.3", 0⟩
    (x.isFinite = true ∧ x.less (zero false) = true ∧ 2 ≤ Engine.default.maxDepth ∧
      (∀ c, Engine.default.evaluate "-2.5" c = .ok (.number x)) ∧ Engine.default.toSql "-2.5" = .ok "(0 - 2.5)") ∧
    (DigitsAndPoints t.text.toList ∧ ¬Unreadable t.text.toList ∧
      ∃ y, RoundsTo (decimalValue t.text.toList) y ∧ ∀ limit, Expr.ofTokens [t] limit = .ok (.literal (.number y))) ∧
    (DigitsAndPoints t'.text.toList ∧ Unreadable t'.text.toList ∧
      ∀ limit, Expr.ofTokens [t'] limit = .error (.invalidNumber "1.2.3")) ∧
    tokenize "1.2.3" = .ok [t', .endOfInput 5] ∧ tokenize "2.5" = .ok [t, .endOfInput 3] ∧
    Parser.SameSkeleton [t', .endOfInput 5] [t, .endOfInput 3] ∧ (∃ e, Expr.ofFormula "2.5" 1 = .ok e) ∧
    (∃ text, Expr.ofFormula "1.2.3" 1 = .error (.parse (.invalidNumber text)) ∧ text = "1.2.3") ∧
    ∀ limit e, Expr.ofFormula "1.2.3" limit ≠ .ok e := by
  intro x t t'
  obtain ⟨-, hnegative, htokens, hformulas⟩ := number_text_means_number
  have hless : x.less (zero false) = true := by decide +kernel
  have htext : (Value.number x).text = "-2.5" ∧ (Value.number x.neg).text = "2.5" := by decide +kernel
  have hx := hnegative x rfl hless Engine.default (by decide)
  rw [htext.1, htext.2] at hx
  have hnumber : IsNumber "2.5".toList := ⟨rfl, List.all_eq_true.1 rfl⟩
  have hnumber' : IsNumber "1.2.3".toList := ⟨rfl, List.all_eq_true.1 rfl⟩
  have hdigits : DigitsAndPoints t.text.toList := hnumber.digitsAndPoints
  have hdigits' : DigitsAndPoints t'.text.toList := hnumber'.digitsAndPoints
  have hreadable : ¬Unreadable t.text.toList := by decide +kernel
  have hunreadable : Unreadable t'.text.toList := by decide +kernel
  have hts : tokenize "2.5" = .ok [t, .endOfInput 3] := tokenize_number hnumber
  have hts' : tokenize "1.2.3" = .ok [t', .endOfInput 5] := tokenize_number hnumber'
  obtain ⟨hrefusal, hnever, hsame⟩ := hformulas _ _ hts'
  obtain ⟨y, -, hy⟩ := Parser.exists_literalNumber? hdigits hreadable
  have haccepted : Expr.ofFormula "2.5" 1 = .ok (.literal (.number y)) := ofFormula_number hnumber hy 1
  obtain ⟨text, hrefused⟩ := (hsame _ _ hts rfl 1 _ haccepted).2 ⟨t', List.mem_cons_self, rfl, hunreadable⟩
  obtain ⟨u, hu, hk, rfl, -⟩ := hrefusal 1 text hrefused
  refine ⟨⟨rfl, hless, by decide, hx⟩, ⟨hdigits, hreadable, (htokens t rfl hdigits).2.2 hreadable⟩,
    ⟨hdigits', hunreadable, fun limit => ((htokens t' rfl hdigits').2.1 limit).2 hunreadable⟩, hts', hts, rfl,
    ⟨_, haccepted⟩, ⟨u.text, hrefused, ?_⟩, hnever t' List.mem_cons_self rfl hunreadable⟩
  -- the number that is refused is one of the two tokens, and the other is the end of the input
  rcases List.mem_cons.1 hu with rfl | hu
  · rfl
  · rw [List.mem_singleton.1 hu] at hk
    cases hk

end Formula
