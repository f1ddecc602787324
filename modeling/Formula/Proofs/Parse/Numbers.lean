import Formula.Proofs.Binary64.Pointed
import Formula.Proofs.Parse.Faults
import Formula.Proofs.Parse.Formulas
import Formula.Proofs.Parse.Skeletons
import Formula.Proofs.Scan.Cuts

/-!
# Numbers among the tokens

A number is read as a literal or refused by its text alone, wherever it is read as an operand: a formula is refused for
one of its numbers only if that number is no literal, and none that holds such a number is accepted.

* `literalNumber?_eq_none_iff` : the texts of digits and points that are no literal.
* `unary_number_refused_iff`, `ofTokens_number_refused_iff` : a number as an operand, and alone.
* `exists_number_of_ofTokens` : the number that a parsing is refused for.
* `Chain.literalNumber?_of_mem` : the numbers of a derivation are literals.
* `exists_unreadable_of_ofFormula`, `ofFormula_ne_ok_of_unreadable`, `refused_iff_of_skeleton` : formulas with an
  unreadable number, and those that are refused for one.
* `tokenize_number`, `ofFormula_number`, `ofFormula_minus_number` : a number as a formula, alone and behind a minus.
-/

namespace Formula

open Grammar

/-- A number as it is scanned is made of digits and points. -/
theorem IsNumber.digitsAndPoints {cs : List Char} (h : IsNumber cs) : Binary64.DigitsAndPoints cs := by
  constructor
  case all =>
    intro c hc
    simpa [isNumberChar] using h.forall_mem c hc
  case digit =>
    cases cs with
    | nil => exact h.elim
    | cons c cs => exact ⟨c, List.mem_cons_self, h.1⟩

theorem terminal_of_number {t : Token} (h : t.kind = .number) : t.terminal = .number t.text := by
  simp [Token.terminal, h]

namespace Parser

/-! ## Literals -/

section

variable {text : String}

/-- **Digits and points are no literal** just when they are unreadable. -/
theorem literalNumber?_eq_none_iff (h : Binary64.DigitsAndPoints text.toList) :
    literalNumber? text = none ↔ Binary64.Unreadable text.toList := by
  rw [literalNumber?]
  rcases Binary64.ofNumeral?_filter_isFinite h with ⟨hunreadable, hnone⟩ | ⟨hreadable, x, -, hsome⟩
  · simp [hunreadable, hnone]
  · simp [hreadable, hsome]

/-- Any others denote what their number is rounded to. -/
theorem exists_literalNumber? (h : Binary64.DigitsAndPoints text.toList)
    (hreadable : ¬Binary64.Unreadable text.toList) :
    ∃ x, Binary64.RoundsTo (Binary64.decimalValue text.toList) x ∧ literalNumber? text = some x :=
  ((Binary64.ofNumeral?_filter_isFinite h).resolve_left fun hnone => hreadable hnone.1).2

end

/-! ## A number as an operand -/

section

variable {t : Token}

/-- Where an operand is read a number is taken, with any budget and whatever follows it. -/
theorem unary_number (h : t.kind = .number) (budget : Nat) (rest : List Token) :
    unary budget (t :: rest) = match literalNumber? t.text with
      | some x => .done (.literal (.number x)) rest
      | none => .refused (.invalidNumber t.text) rest := by
  have hoperator : unaryAt? (t :: rest) = none := by simp [unaryAt?, h]
  rw [unary_eq, unaryWith_eq, hoperator]
  exact primary_number _ _ h

/-- **Digits and points as an operand** are refused just when they are unreadable. -/
theorem unary_number_refused_iff (h : t.kind = .number) (htext : Binary64.DigitsAndPoints t.text.toList)
    (budget : Nat) (rest : List Token) :
    unary budget (t :: rest) = .refused (.invalidNumber t.text) rest ↔ Binary64.Unreadable t.text.toList := by
  rw [unary_number h, ← literalNumber?_eq_none_iff htext]
  cases literalNumber? t.text <;> simp

end

/-! ## A number in front -/

/-- A chain is refused if its first operand is. -/
theorem chainWith_refused {operand : Reader Expr} {more : Nat → Expr → Reader Expr} {ts rest : List Token}
    {why : Refusal} (h : operand ts = .refused why rest) : ∀ n, chainWith operand more n ts = .refused why rest
  | 0 => h
  | level + 1 => by
    rw [chainWith_succ, chainWith_refused h level]
    rfl

/-- A token in front that is no end of the input is to be read. -/
theorem exists_rest_ofTokens_cons {t : Token} (h : t.isEnd = false) (ts : List Token) (maxDepth : Nat) :
    ∃ more, (ofTokens (t :: ts) maxDepth).rest = t :: more := by
  rcases List.prefix_cons_iff.1 (rest_ofTokens_isPrefix (t :: ts) maxDepth) with hnil | ⟨more, hmore, -⟩
  · have hsentence := sentence_rest_ofTokens (t :: ts) maxDepth
    rw [hnil, sentence, sentence, List.takeWhile_cons_of_pos (by simp [h])] at hsentence
    cases hsentence
  · exact ⟨more, hmore⟩

/-- **A number in front** that is no literal is what the tokens are refused for, at every limit. -/
theorem ofTokens_cons_number {t : Token} (h : t.kind = .number) (hnone : literalNumber? t.text = none)
    (ts : List Token) (maxDepth : Nat) : Expr.ofTokens (t :: ts) maxDepth = .error (.invalidNumber t.text) := by
  have hend : t.isEnd = false := by simp [Token.isEnd, h]
  obtain ⟨more, hrest⟩ := exists_rest_ofTokens_cons hend ts maxDepth
  obtain ⟨budget, hbudget⟩ : ∃ budget, max 1 maxDepth = budget + 1 := ⟨max 1 maxDepth - 1, by omega⟩
  have hoperand : unary budget (t :: more) = .refused (.invalidNumber t.text) more := by
    rw [unary_number h, hnone]
  have hread : expression (max 1 maxDepth) (t :: more) = .refused (.invalidNumber t.text) more := by
    rw [hbudget]
    exact chainWith_refused hoperand Operator.levels
  rw [Expr.ofTokens, parse_eq_answer, maxDepth_ofTokens, hrest, hread, answer, error]

/-- A literal alone has a derivation of its own. -/
theorem exists_derivation_number {text : String} {x : Binary64} (hx : literalNumber? text = some x) :
    ∃ d : Expression, d.words = [.number text] ∧ d.tree = .literal (.number x) ∧ d.depth = 1 := by
  refine ⟨(Primary.number text x hx).chain Operator.levels, Primary.words_chain _ _, Primary.tree_chain _ _, ?_⟩
  rw [Expression.depth, Primary.need_chain]
  rfl

/-- A number alone that is a literal is read as that, at every limit. -/
theorem ofTokens_number {t : Token} (h : t.kind = .number) {x : Binary64} (hx : literalNumber? t.text = some x)
    (maxDepth : Nat) : Expr.ofTokens [t] maxDepth = .ok (.literal (.number x)) := by
  obtain ⟨d, hwords, htree, hdepth⟩ := exists_derivation_number hx
  have hsentence : d.words = sentence [t] := by
    rw [hwords]
    simp [sentence, Token.isEnd, terminal_of_number h, h]
  rw [(ofTokens_of_derivation hsentence maxDepth).1 (by omega), htree]

/-- **A number alone** is refused just when it is unreadable, at every limit. -/
theorem ofTokens_number_refused_iff {t : Token} (h : t.kind = .number)
    (htext : Binary64.DigitsAndPoints t.text.toList) (maxDepth : Nat) :
    Expr.ofTokens [t] maxDepth = .error (.invalidNumber t.text) ↔ Binary64.Unreadable t.text.toList := by
  rw [← literalNumber?_eq_none_iff htext]
  cases hx : literalNumber? t.text with
  | none => simp [ofTokens_cons_number h hx]
  | some x => simp [ofTokens_number h hx]

/-! ## What is refused as a number -/

/-- **What is refused as a number** is one of the tokens, and no literal. -/
theorem exists_number_of_ofTokens {ts : List Token} {maxDepth : Nat} {text : String}
    (h : Expr.ofTokens ts maxDepth = .error (.invalidNumber text)) :
    (∃ t ∈ ts, t.kind = .number ∧ t.text = text) ∧ literalNumber? text = none := by
  constructor
  · obtain ⟨front, fault, hrest, -, hkind, htext⟩ := exists_firstWrong_of_parse h (by simp)
    refine ⟨_, ?_, hkind, htext⟩
    cases fault with
    | nil => cases hkind
    | cons t fault =>
      refine (rest_ofTokens_isPrefix ts maxDepth).subset ?_
      rw [hrest]
      exact List.mem_append_right _ List.mem_cons_self
  · rw [Expr.ofTokens, parse_eq_answer] at h
    cases hread : expression (ofTokens ts maxDepth).maxDepth (ofTokens ts maxDepth).rest with
    | done e rest =>
      rw [hread, answer] at h
      split at h <;> cases h
    | refused why rest =>
      rw [hread, answer] at h
      cases why with
      | invalidNumber text' =>
        cases h
        exact literalNumber?_eq_none_of_refused hread
      | _ => cases h

end Parser

/-! ## What is accepted -/

namespace Grammar

mutual

/-- **The numbers of a derivation** are literals. -/
theorem Chain.literalNumber?_of_mem {text : String} : ∀ {n : Nat} (c : Chain n), .number text ∈ c.words →
    Parser.literalNumber? text ≠ none
  | _, .unary u, h => u.literalNumber?_of_mem h
  | _, .level first links, h => by
    rw [Chain.words] at h
    rcases List.mem_append.1 h with h | h
    · exact first.literalNumber?_of_mem h
    · exact links.literalNumber?_of_mem h

theorem Links.literalNumber?_of_mem {text : String} : ∀ {n : Nat} (l : Links n), .number text ∈ l.words →
    Parser.literalNumber? text ≠ none
  | _, .nil, h => nomatch h
  | _, .cons _ _ right more, h => by
    rw [Links.words, List.mem_cons, List.mem_append] at h
    rcases h with h | h | h
    · cases h
    · exact right.literalNumber?_of_mem h
    · exact more.literalNumber?_of_mem h

theorem Unary.literalNumber?_of_mem {text : String} : ∀ u : Unary, .number text ∈ u.words →
    Parser.literalNumber? text ≠ none
  | .sign _ operand, h => by
    rw [Unary.words, List.mem_cons] at h
    rcases h with h | h
    · cases h
    · exact operand.literalNumber?_of_mem h
  | .primary p, h => p.literalNumber?_of_mem h

theorem Primary.literalNumber?_of_mem {text : String} : ∀ p : Primary, .number text ∈ p.words →
    Parser.literalNumber? text ≠ none
  | .number text' x reads, h => by
    obtain rfl : text = text' := by simpa [Primary.words] using h
    simp [reads]
  | .string _, h | .boolean _, h | .field _, h | .emptyCall _, h => by simp [Primary.words] at h
  | .call _ args, h => args.literalNumber?_of_mem (by simpa [Primary.words] using h)
  | .group inner, h => inner.literalNumber?_of_mem (by simpa [Primary.words] using h)

theorem Arguments.literalNumber?_of_mem {text : String} : ∀ a : Arguments, .number text ∈ a.words →
    Parser.literalNumber? text ≠ none
  | .last e, h => e.literalNumber?_of_mem h
  | .cons e more, h => by
    rw [Arguments.words, List.mem_append, List.mem_cons] at h
    rcases h with h | h | h
    · exact e.literalNumber?_of_mem h
    · cases h
    · exact more.literalNumber?_of_mem h

end

end Grammar

/-! ## Formulas -/

section

variable {formula : String} {ts : List Token} {t : Token}

theorem digitsAndPoints_of_tokenize (hts : tokenize formula = .ok ts) (ht : t ∈ ts) (hk : t.kind = .number) :
    Binary64.DigitsAndPoints t.text.toList := by
  have hterminals := terminals?_eq_some_iff.2 ⟨ts, hts, rfl⟩
  have hlexical := lexical_of_terminals? hterminals t.terminal (List.mem_map_of_mem ht)
  rw [terminal_of_number hk] at hlexical
  exact IsNumber.digitsAndPoints hlexical

/-- **A formula that is refused for a number** has it among its tokens, and it is unreadable. -/
theorem exists_unreadable_of_ofFormula {maxDepth : Nat} {text : String} (hts : tokenize formula = .ok ts)
    (h : Expr.ofFormula formula maxDepth = .error (.parse (.invalidNumber text))) :
    ∃ t ∈ ts, t.kind = .number ∧ t.text = text ∧ Binary64.Unreadable text.toList := by
  have hparse := (Expr.ofFormula_eq_error_iff_ofTokens hts).1 h
  obtain ⟨⟨t, ht, hk, rfl⟩, hnone⟩ := Parser.exists_number_of_ofTokens hparse
  exact ⟨t, ht, hk, rfl, (Parser.literalNumber?_eq_none_iff (digitsAndPoints_of_tokenize hts ht hk)).1 hnone⟩

/-- **A formula with an unreadable number** among its tokens is accepted at no limit. -/
theorem ofFormula_ne_ok_of_unreadable (hts : tokenize formula = .ok ts) (ht : t ∈ ts) (hk : t.kind = .number)
    (h : Binary64.Unreadable t.text.toList) (maxDepth : Nat) (e : Expr) : Expr.ofFormula formula maxDepth ≠ .ok e := by
  intro haccepted
  obtain ⟨d, hterminals, -, -⟩ := ofFormula_eq_ok_iff.1 haccepted
  obtain ⟨ts', hts', hwords⟩ := terminals?_eq_some_iff.1 hterminals
  obtain rfl : ts = ts' := Except.ok.inj (hts.symm.trans hts')
  have hmem : Terminal.number t.text ∈ d.words ++ [.endOfInput] := by
    rw [← hwords, ← terminal_of_number hk]
    exact List.mem_map_of_mem ht
  have hword : Terminal.number t.text ∈ d.words := by simpa using hmem
  exact d.literalNumber?_of_mem hword ((Parser.literalNumber?_eq_none_iff (digitsAndPoints_of_tokenize hts ht hk)).2 h)

/-- **A formula that would be accepted with other numbers** is refused for a number just when one of its own is
unreadable. -/
theorem refused_iff_of_skeleton {formula' : String} {ts' : List Token} (hts : tokenize formula = .ok ts)
    (hts' : tokenize formula' = .ok ts') (h : Parser.SameSkeleton ts ts') {maxDepth : Nat} {e' : Expr}
    (haccepted : Expr.ofFormula formula' maxDepth = .ok e') :
    (∃ text, Expr.ofFormula formula maxDepth = .error (.parse (.invalidNumber text))) ↔
      ∃ t ∈ ts, t.kind = .number ∧ Binary64.Unreadable t.text.toList := by
  constructor
  · rintro ⟨text, hrefused⟩
    obtain ⟨t, ht, hk, rfl, hunreadable⟩ := exists_unreadable_of_ofFormula hts hrefused
    exact ⟨t, ht, hk, hunreadable⟩
  · rintro ⟨t, ht, hk, hunreadable⟩
    have hread := (Expr.ofFormula_eq_ok_iff_ofTokens hts').1 haccepted
    rcases Parser.ofTokens_of_skeleton h hread with ⟨text, hrefused⟩ | ⟨e, hok⟩
    · exact ⟨text, (Expr.ofFormula_eq_error_iff_ofTokens hts).2 hrefused⟩
    · have hformula := (Expr.ofFormula_eq_ok_iff_ofTokens hts).2 hok
      exact absurd hformula (ofFormula_ne_ok_of_unreadable hts ht hk hunreadable maxDepth e)

end

/-! ## Numbers as formulas -/

section

variable {text : String} {x : Binary64}

/-- A number as a whole formula is one token. -/
theorem tokenize_number (h : IsNumber text.toList) :
    tokenize text = .ok [⟨.number, text, 0⟩, .endOfInput text.length] := by
  have hlongest : IsLongestLexeme .number text.toList text.toList ([] ++ []) :=
    isLongestLexeme_iff.2 ⟨.number h, by simp⟩
  have hcut : Cut [] 0 ([] ++ (text.toList ++ [])) [⟨.number, String.ofList text.toList, 0⟩] :=
    .token (by simp) hlongest (.blank (by simp))
  rw [List.nil_append, List.append_nil, String.ofList_toList] at hcut
  exact tokenize_eq_ok_iff_cut.2 ⟨_, hcut, rfl⟩

theorem terminals?_number (h : IsNumber text.toList) : terminals? text.toList = some [.number text, .endOfInput] :=
  terminals?_eq_some_iff.2 ⟨_, tokenize_number h, rfl⟩

/-- A number that is a literal is read as that, at every limit. -/
theorem ofFormula_number (h : IsNumber text.toList) (hx : Parser.literalNumber? text = some x) (maxDepth : Nat) :
    Expr.ofFormula text maxDepth = .ok (.literal (.number x)) := by
  obtain ⟨d, hwords, htree, hdepth⟩ := Parser.exists_derivation_number hx
  have hterminals : terminals? text.toList = some (d.words ++ [.endOfInput]) := by
    rw [terminals?_number h, hwords]
    rfl
  rw [ofFormula_of_derivation hterminals, hdepth, htree, if_pos (Nat.le_max_left 1 maxDepth)]

theorem terminals?_cons_minus (rest : List Char) :
    terminals? ('-' :: rest) = (terminals? rest).map (.operator "-" :: ·) := by
  have hlexeme : lexeme? ('-' :: rest) = some (.plain .operator ['-']) := by
    rw [lexeme?_eq_operator? (.inl (by decide))]
    cases rest with
    | nil => rfl
    | cons d rest => rw [Lexeme.operator?, if_neg (by simp [operatorPairs]), if_pos (by decide)]
  exact terminals?_of_lexeme? hlexeme

/-- A minus in front of a literal takes one more level and makes a difference from zero. -/
theorem ofFormula_minus_number {formula : String} (hformula : formula.toList = '-' :: text.toList)
    (h : IsNumber text.toList) (hx : Parser.literalNumber? text = some x) {maxDepth : Nat} (hlimit : 2 ≤ maxDepth) :
    Expr.ofFormula formula maxDepth = .ok (.negate (.literal (.number x))) := by
  let d : Expression := (Unary.sign .negate (.primary (.number text x hx))).chain Operator.levels
  have hterminals : terminals? formula.toList = some (d.words ++ [.endOfInput]) := by
    rw [hformula, terminals?_cons_minus, terminals?_number h, Unary.words_chain]
    rfl
  have hdepth : d.depth = 2 := by
    rw [Expression.depth, Unary.need_chain]
    rfl
  have htree : d.tree = .negate (.literal (.number x)) := Unary.tree_chain _ _
  rw [ofFormula_of_derivation hterminals, hdepth, htree, if_pos (by omega)]

end

end Formula
