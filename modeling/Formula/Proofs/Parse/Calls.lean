import Formula.Proofs.Parse.Cursor
import Formula.Proofs.Parse.Language

/-!
# Calls on a cursor

A call reads an expression and wants an end of the input behind it. Whatever it answers, the cursor is usable again at
the token where the reading stopped, and at an end of the input every further call fails.

* `parse_spec` : one call.
* `parse_keeps_usable` : any number of calls.
* `parses_message` : the calls on a cursor and those on a parser.
-/

namespace Formula

open Formula.Parser (Outcome Reader Refusal nextKind)

/-! ## One call -/

theorem Token.describe_of_isEnd {t : Token} (h : t.isEnd = true) : t.describe = "end of input" := by
  have hk : t.kind = .endOfInput := of_decide_eq_true h
  simp only [describe, hk]

namespace Parser

/-- The outcome of a call: an expression up to an end of the input. -/
def formula (budget : Nat) (ts : List Token) : Outcome Expr :=
  (expression budget ts).andThen fun e rest =>
    if nextKind rest = .endOfInput then .done e rest else .refused .unexpected rest

theorem nextKind_of_formula_eq_done {budget : Nat} {ts rest : List Token} {e : Expr}
    (h : formula budget ts = .done e rest) : nextKind rest = .endOfInput := by
  obtain ⟨e', mid, -, hend⟩ := Outcome.andThen_eq_done.1 h
  split at hend
  · cases hend
    assumption
  · cases hend

theorem parse_eq (p : Parser) : p.parse =
    (p.answer (formula p.maxDepth p.rest), { p with rest := (formula p.maxDepth p.rest).rest }) := by
  rw [parse, formula]
  cases expression p.maxDepth p.rest with
  | refused why rest => rfl
  | done e rest =>
    simp only [Outcome.andThen]
    split
    · rename_i hend
      exact Prod.ext (if_pos hend).symm rfl
    · rfl

theorem chainWith_eq_refused {operand : Reader Expr} {more : Nat → Expr → Reader Expr} {why : Refusal}
    {ts rest : List Token} (h : operand ts = .refused why rest) : ∀ n, chainWith operand more n ts = .refused why rest
  | 0 => h
  | level + 1 => by
    rw [chainWith_succ, chainWith_eq_refused h level]
    rfl

/-- At an end of the input there is no expression. -/
theorem formula_of_end (budget : Nat) {ts : List Token} (h : nextKind ts = .endOfInput) :
    formula (budget + 1) ts = .refused .unexpected ts := by
  have hunary : unary budget ts = .refused .unexpected ts := by
    rw [unary_eq, unaryWith_eq]
    cases ts with
    | nil => rfl
    | cons t ts =>
      rw [nextKind] at h
      simp only [unaryAt?, primary, h]
      rfl
  rw [formula, expression, chain, chainWith_eq_refused hunary]
  rfl

end Parser

namespace Cursor

/-- The cursor stands at one of its tokens, outside all nesting. -/
structure Usable (c : Cursor) : Prop where
  lt : c.position < c.tokens.size
  depth : c.depth = 0

theorem formula_follows {c : Cursor} (h : c.Usable) :
    c.Follows formula (Parser.formula c.maxDepth c.rest) (· = c.depth) := by
  have hstands : c.Stands c.maxDepth := ⟨h.lt, by rw [h.depth, Nat.zero_add]⟩
  refine follows_get ?_
  rw [h.depth, Nat.sub_zero, ← h.depth]
  refine (expression_inPlace c.maxDepth).bind (fun e c' hc' => follows_look ?_) c hstands
  have hend : c'.current.isEnd = true ↔ nextKind c'.rest = .endOfInput := by
    rw [← kind_current hc'.lt]
    exact decide_eq_true_iff
  by_cases hnext : nextKind c'.rest = .endOfInput
  · rw [if_pos hnext, if_pos (hend.2 hnext)]
    exact inPlace_pure e c' hc'
  · rw [if_neg hnext, if_neg (mt hend.1 hnext)]
    exact follows_throw hc'.lt .unexpected

/-- What one call does: the cursor is usable again, further on or where it was, and the answer tells the outcome. -/
theorem parse_spec {c : Cursor} (h : c.Usable) : c.LeadsTo c.parse.2 ∧ c.parse.2.Usable ∧
    c.parse.2.rest = (Parser.formula c.maxDepth c.rest).rest ∧
    c.parse.1 = c.parse.2.answer (Parser.formula c.maxDepth c.rest) := by
  obtain ⟨c', hleads, hrest, hdepth, hrun⟩ := formula_follows h
  rw [parse, hrun]
  exact ⟨hleads, ⟨hleads.lt, hdepth.trans h.depth⟩, hrest, rfl⟩

/-- A call that succeeds stops at an end of the input. -/
theorem isEnd_of_parse_eq_ok {c : Cursor} (h : c.Usable) {e : Expr} (he : c.parse.1 = .ok e) :
    c.parse.2.current.isEnd = true := by
  obtain ⟨-, husable, hrest, hanswer⟩ := parse_spec h
  rw [hanswer] at he
  cases hformula : Parser.formula c.maxDepth c.rest with
  | refused why rest =>
    rw [hformula] at he
    cases he
  | done e' rest =>
    have hkind : c.parse.2.current.kind = .endOfInput := by
      rw [kind_current husable.lt, hrest, hformula]
      exact Parser.nextKind_of_formula_eq_done hformula
    exact decide_eq_true hkind

/-- A call depends on the tokens left, the one that closes them and the limit alone. -/
theorem parse_congr {c c' : Cursor} (h : c.Usable) (h' : c'.Usable) (hrest : c'.rest = c.rest)
    (hlast : c'.last = c.last) (hmaxDepth : c'.maxDepth = c.maxDepth) : c'.parse.1 = c.parse.1 := by
  obtain ⟨hleads, husable, hleft, hanswer⟩ := parse_spec h
  obtain ⟨hleads', husable', hleft', hanswer'⟩ := parse_spec h'
  rw [hanswer, hanswer', hmaxDepth, hrest]
  rw [hmaxDepth, hrest] at hleft'
  refine answer_congr ?_ (by rw [hleads.maxDepth, hleads'.maxDepth, hmaxDepth]) _
  rw [current_eq husable.lt, current_eq husable'.lt, hleft, hleft', hleads.last_eq, hleads'.last_eq, hlast]

/-! ## Any number of calls -/

/-- The cursor after the given number of calls. -/
def after : Nat → Cursor → Cursor
  | 0, c => c
  | n + 1, c => after n c.parse.2

theorem after_succ : ∀ (n : Nat) (c : Cursor), c.after (n + 1) = (c.after n).parse.2
  | 0, _ => rfl
  | n + 1, c => after_succ n c.parse.2

/-- A cursor stays usable, whatever the calls answer. -/
theorem after_usable {c : Cursor} (h : c.Usable) : ∀ n, c.LeadsTo (c.after n) ∧ (c.after n).Usable
  | 0 => ⟨.refl h.lt, h⟩
  | n + 1 => by
    obtain ⟨hleads, husable⟩ := after_usable h n
    obtain ⟨hleads', husable', -⟩ := parse_spec husable
    rw [after_succ]
    exact ⟨hleads.trans hleads', husable'⟩

/-- At an end of the input every call fails there. -/
theorem parse_of_end {c : Cursor} (h : c.Usable) (hlimit : 1 ≤ c.maxDepth) (hend : c.current.isEnd = true) :
    c.parse = (.error (.unexpectedToken c.current), c) := by
  obtain ⟨hleads, husable, hrest, hanswer⟩ := parse_spec h
  have hnext : nextKind c.rest = .endOfInput := (kind_current h.lt).symm.trans (of_decide_eq_true hend)
  have hformula : Parser.formula c.maxDepth c.rest = .refused .unexpected c.rest := by
    rw [← Nat.sub_add_cancel hlimit]
    exact Parser.formula_of_end _ hnext
  have hleft : c.parse.2.rest = c.rest := by
    rw [hrest, hformula]
    rfl
  have hstays : c.parse.2 = c := hleads.eq_of_rest_eq h.lt (husable.depth.trans h.depth.symm) hleft
  refine Prod.ext ?_ hstays
  rw [hanswer, hformula, hstays]
  rfl

theorem after_of_end {c : Cursor} (h : c.Usable) (hlimit : 1 ≤ c.maxDepth) (hend : c.current.isEnd = true) :
    ∀ n, c.after n = c
  | 0 => rfl
  | n + 1 => by rw [after, parse_of_end h hlimit hend, after_of_end h hlimit hend n]

/-! ## New cursors -/

theorem position_ofTokens (ts : List Token) (maxDepth : Nat) : (ofTokens ts maxDepth).position = 0 := by
  unfold ofTokens
  split <;> rfl

theorem depth_ofTokens (ts : List Token) (maxDepth : Nat) : (ofTokens ts maxDepth).depth = 0 := by
  unfold ofTokens
  split <;> rfl

theorem usable_ofTokens (ts : List Token) (maxDepth : Nat) : (ofTokens ts maxDepth).Usable :=
  ⟨by rw [position_ofTokens]; exact size_pos _, depth_ofTokens ts maxDepth⟩

theorem maxDepth_ofTokens (ts : List Token) (maxDepth : Nat) : (ofTokens ts maxDepth).maxDepth = max 1 maxDepth := by
  unfold ofTokens
  split <;> rfl

/-- A new cursor over the tokens from a place on. -/
theorem ofTokens_drop {c : Cursor} (h : c.position < c.tokens.size) (maxDepth : Nat) :
    (ofTokens (c.tokens.toList.drop c.position) maxDepth).rest = c.rest ∧
      (ofTokens (c.tokens.toList.drop c.position) maxDepth).last = c.last := by
  have hclosed : (c.tokens.toList.drop c.position).getLast?.any Token.isEnd = true := by
    rw [List.getLast?_drop, if_neg (by simpa using h), Array.getLast?_toList]
    exact c.closed
  have hcursor : ofTokens (c.tokens.toList.drop c.position) maxDepth = ⟨(c.tokens.toList.drop c.position).toArray, 0, 0,
      max 1 maxDepth, by rwa [List.back?_toArray]⟩ := by rw [ofTokens, dif_pos hclosed]
  constructor
  · rw [hcursor, rest, rest, List.drop_zero, List.dropLast_eq_take, List.dropLast_eq_take, List.drop_take,
      List.length_drop, Nat.sub_right_comm]
  · have hlast := (ofTokens (c.tokens.toList.drop c.position) maxDepth).back?_tokens
    refine Option.some.inj (hlast.symm.trans ?_)
    rw [hcursor, List.back?_toArray, List.getLast?_drop, if_neg (by simpa using h), Array.getLast?_toList,
      c.back?_tokens]

/-- **A cursor stays usable after any answer.** -/
theorem parse_keeps_usable (ts : List Token) (maxDepth n : Nat) :
    let c := (ofTokens ts maxDepth).after n
    c.depth = 0 ∧ c.tokens = (ofTokens ts maxDepth).tokens ∧ c.position ≤ c.tokens.size - 1 ∧
      c.tokens[c.position]? = some c.current ∧ c.position ≤ c.parse.2.position ∧
      c.parse.1 = (ofTokens (c.tokens.toList.drop c.position) maxDepth).parse.1 ∧
      ∀ e, c.parse.1 = .ok e → ∃ t, c.tokens[c.parse.2.position]? = some t ∧ t.isEnd = true ∧
        t.describe = "end of input" ∧ ∀ k, (c.parse.2.after k).parse.1 = .error (.unexpectedToken t) := by
  intro c
  obtain ⟨hleads, husable⟩ := after_usable (usable_ofTokens ts maxDepth) n
  obtain ⟨hleads', husable', hrest, hanswer⟩ := parse_spec husable
  have hlimit : c.maxDepth = max 1 maxDepth := hleads.maxDepth.trans (maxDepth_ofTokens ts maxDepth)
  have hposition := Nat.le_sub_one_of_lt husable.lt
  refine ⟨husable.depth, hleads.tokens, hposition, getElem?_position husable.lt, hleads'.le, ?_, ?_⟩
  · obtain ⟨hfreshRest, hfreshLast⟩ := ofTokens_drop husable.lt maxDepth
    refine (parse_congr husable (usable_ofTokens _ _) hfreshRest hfreshLast ?_).symm
    rw [maxDepth_ofTokens, hlimit]
  · intro e he
    have hend := isEnd_of_parse_eq_ok husable he
    have hlimit' : 1 ≤ c.parse.2.maxDepth := by rw [hleads'.maxDepth, hlimit]; exact Nat.le_max_left ..
    refine ⟨c.parse.2.current, ?_, hend, Token.describe_of_isEnd hend, fun k => ?_⟩
    · rw [← hleads'.tokens]
      exact getElem?_position husable'.lt
    · rw [after_of_end husable' hlimit' hend, parse_of_end husable' hlimit' hend]

/-- On `(((a)` with the limit two, the call that is refused for its depth stops in front of `(a)`, which the next call
reads. -/
example : (ofTokens [⟨.leftParen, "(", 0⟩, ⟨.leftParen, "(", 1⟩, ⟨.leftParen, "(", 2⟩, ⟨.identifier, "a", 3⟩,
    ⟨.rightParen, ")", 4⟩] 2).parses 3 =
      [.error (.tooDeep 2), .ok (.fieldOf "a"), .error (.unexpectedToken (.endOfInput 5))] := rfl

/-! ## Cursors and parsers -/

/-- The cursor and the parser have the same tokens left, with an end of the input behind them at the same position, and
the same limit. -/
structure Matches (c : Cursor) (p : Parser) : Prop where
  rest : c.rest = p.rest
  stop : c.last.position = p.stop
  maxDepth : c.maxDepth = p.maxDepth

theorem message_error {c : Cursor} {p : Parser} (h : c.position < c.tokens.size) (hmatches : c.Matches p)
    (why : Refusal) : (c.error why).message = (p.error why).message := by
  have hcurrent : c.current.describe = p.current.describe ∧ c.current.position = p.current.position := by
    rw [current_eq h, Parser.current, hmatches.rest]
    cases p.rest with
    | nil =>
      refine ⟨?_, hmatches.stop⟩
      exact (Token.describe_of_isEnd c.isEnd_last).trans (Token.describe_of_isEnd rfl).symm
    | cons t ts => exact ⟨rfl, rfl⟩
  obtain ⟨hdescribe, hposition⟩ := hcurrent
  cases why with
  | unexpected =>
    change "Unexpected token: " ++ c.current.describe ++ " at position " ++ toString c.current.position = _
    rw [hdescribe, hposition]
    rfl
  | unclosed bracket =>
    change "Expected ')' " ++ bracket.place ++ ", found " ++ c.current.describe ++ " at position " ++
      toString c.current.position = _
    rw [hdescribe, hposition]
    rfl
  | invalidNumber text => rfl
  | tooDeep => rw [error, Parser.error, hmatches.maxDepth]

theorem parse_matches {c : Cursor} {p : Parser} (h : c.Usable) (hmatches : c.Matches p) :
    c.parse.2.Matches p.parse.2 ∧ c.parse.1.mapError ParseError.message = p.parse.1.mapError ParseError.message := by
  obtain ⟨hleads, husable, hrest, hanswer⟩ := parse_spec h
  rw [hmatches.rest, hmatches.maxDepth] at hrest hanswer
  have hmatches' : c.parse.2.Matches p.parse.2 := by
    refine ⟨?_, ?_, ?_⟩
    · rw [hrest, Parser.parse_eq]
    · rw [hleads.last_eq, hmatches.stop, Parser.parse_eq]
    · rw [hleads.maxDepth, hmatches.maxDepth, Parser.parse_eq]
  refine ⟨hmatches', ?_⟩
  rw [hanswer]
  rw [Parser.parse_eq] at hmatches' ⊢
  cases hformula : Parser.formula p.maxDepth p.rest with
  | done e rest => rw [Parser.answer, if_pos (Parser.nextKind_of_formula_eq_done hformula), answer]
  | refused why rest =>
    rw [hformula] at hmatches'
    exact congrArg Except.error (message_error husable.lt hmatches' why)

/-- A new cursor has the tokens of a new parser, and an end of the input at the same position. -/
theorem toList_tokens_ofTokens (ts : List Token) (maxDepth : Nat) :
    ∃ t, (ofTokens ts maxDepth).tokens.toList = (Parser.ofTokens ts maxDepth).rest ++ [t] ∧
      t.position = (Parser.ofTokens ts maxDepth).stop := by
  by_cases h : ts.getLast?.any Token.isEnd = true
  · have htokens : (ofTokens ts maxDepth).tokens = ts.toArray := by rw [ofTokens, dif_pos h]
    rw [htokens, Parser.ofTokens]
    cases hlast : ts.getLast? with
    | none => simp [hlast] at h
    | some t =>
      obtain ⟨front, rfl⟩ := List.getLast?_eq_some_iff.1 hlast
      have hend : t.isEnd = true := by simpa [hlast] using h
      exact ⟨t, by simp [hend], by simp [hend]⟩
  · have htokens : (ofTokens ts maxDepth).tokens =
        ts.toArray.push (.endOfInput (ts.getLast?.elim 0 Token.textEnd)) := by rw [ofTokens, dif_neg h]
    rw [htokens, Parser.ofTokens]
    cases hlast : ts.getLast? with
    | none =>
      obtain rfl := List.getLast?_eq_none_iff.1 hlast
      exact ⟨.endOfInput 0, rfl, rfl⟩
    | some t =>
      have hend : t.isEnd = false := by simpa [hlast] using h
      exact ⟨.endOfInput t.textEnd, by simp [hend], by simp [hend, Token.endOfInput]⟩

theorem ofTokens_matches (ts : List Token) (maxDepth : Nat) :
    (ofTokens ts maxDepth).Matches (Parser.ofTokens ts maxDepth) := by
  obtain ⟨t, htokens, hstop⟩ := toList_tokens_ofTokens ts maxDepth
  have hlast := (ofTokens ts maxDepth).back?_tokens
  rw [← Array.getLast?_toList, htokens, List.getLast?_append, List.getLast?_singleton] at hlast
  refine ⟨?_, ?_, ?_⟩
  · rw [rest, htokens, position_ofTokens, List.dropLast_concat, List.drop_zero]
  · rw [← Option.some.inj hlast, hstop]
  · rw [maxDepth_ofTokens, Parser.maxDepth_ofTokens]

theorem map_parses {c : Cursor} {p : Parser} (h : c.Usable) (hmatches : c.Matches p) : ∀ n,
    (c.parses n).map (·.mapError ParseError.message) = (p.parses n).map (·.mapError ParseError.message)
  | 0 => rfl
  | n + 1 => by
    obtain ⟨hmatches', hanswer⟩ := parse_matches h hmatches
    rw [parses, Parser.parses, List.map_cons, List.map_cons, hanswer, map_parses (parse_spec h).2.1 hmatches' n]

/-- **Cursors and parsers answer the same**: every call gives the same tree or an error with the same message. -/
theorem parses_message (ts : List Token) (maxDepth n : Nat) :
    ((ofTokens ts maxDepth).parses n).map (·.mapError ParseError.message) =
      (Parser.parses n (Parser.ofTokens ts maxDepth)).map (·.mapError ParseError.message) :=
  map_parses (usable_ofTokens ts maxDepth) (ofTokens_matches ts maxDepth) n

end Cursor
end Formula
