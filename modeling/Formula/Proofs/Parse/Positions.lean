import Formula.Proofs.Parse.Readers

/-!
# Positions and the parser

Positions are for messages: no reader looks at them, so a parser of tokens that have lost their places gives the same
answers but for the places that its errors name.

* `expression_blind` : the readers do not see positions.
* `parse_unplaced`, `parses_unplaced` : the answers of a parser, one and all.
* `Expr.ofTokens_congr` : parsing depends on the kinds and texts of the tokens alone.
-/

namespace Formula

/-- The error without the place of the token at fault. -/
def ParseError.unplaced : ParseError → ParseError
  | .unexpectedToken found => .unexpectedToken found.unplaced
  | .unclosed bracket found => .unclosed bracket found.unplaced
  | .invalidNumber text => .invalidNumber text
  | .tooDeep maxDepth => .tooDeep maxDepth

namespace Parser

/-! ## Looks at the next token -/

@[simp] theorem nextKind_unplaced (ts : List Token) : nextKind (ts.map Token.unplaced) = nextKind ts := by
  cases ts <;> rfl

@[simp] theorem operatorAt?_unplaced (level : Nat) (ts : List Token) :
    operatorAt? level (ts.map Token.unplaced) = operatorAt? level ts := by
  cases ts <;> rfl

@[simp] theorem unaryAt?_unplaced (ts : List Token) : unaryAt? (ts.map Token.unplaced) = unaryAt? ts := by
  cases ts <;> rfl

/-! ## The readers -/

section Blind

variable {α β : Type}

/-- The outcome with the places of the tokens not taken left out. -/
def Outcome.unplaced : Outcome α → Outcome α
  | .done value rest => .done value (rest.map Token.unplaced)
  | .refused why rest => .refused why (rest.map Token.unplaced)

/-- The reader does not see the places of its tokens. -/
def Blind (read : Reader α) : Prop := ∀ ts, read (ts.map Token.unplaced) = (read ts).unplaced

theorem Outcome.andThen_unplaced (o : Outcome α) {next : α → Reader β} (h : ∀ a, Blind (next a)) :
    o.unplaced.andThen next = (o.andThen next).unplaced := by
  cases o with
  | refused why rest => rfl
  | done a rest => exact h a rest

/-- To go on behind a reader that is blind, by one that is, is to stay blind. -/
theorem Blind.andThen {read : Reader α} {next : α → Reader β} (h : Blind read) (hn : ∀ a, Blind (next a)) :
    Blind fun ts => (read ts).andThen next := by
  intro ts
  simp only [h ts]
  exact Outcome.andThen_unplaced _ hn

theorem closing_blind (bracket : Bracket) (value : α) : Blind (closing bracket value) := by
  intro ts
  cases ts with
  | nil => rfl
  | cons t ts =>
    simp only [List.map_cons, closing, Token.unplaced]
    split <;> rfl

variable {operand inner : Reader Expr} {more : Nat → Expr → Reader Expr}

theorem argumentsUpTo_blind (hi : Blind inner) : ∀ bound, Blind (argumentsUpTo inner bound)
  | 0 => fun _ => rfl
  | bound + 1 => by
    intro ts
    rw [argumentsUpTo_succ, argumentsUpTo_succ, hi ts]
    refine Outcome.andThen_unplaced _ fun e rest => ?_
    rw [nextKind_unplaced, ← List.map_tail]
    split
    · exact (argumentsUpTo_blind hi bound).andThen (fun _ _ => rfl) rest.tail
    · rfl

theorem arguments_blind (hi : Blind inner) : Blind (arguments inner) := by
  intro ts
  rw [arguments_eq, arguments_eq, nextKind_unplaced, List.length_map]
  split
  · exact closing_blind _ _ ts
  · exact (argumentsUpTo_blind hi _).andThen (closing_blind _) ts

theorem primary_blind (hi : Blind inner) : Blind (primary inner) := by
  intro ts
  cases ts with
  | nil => rfl
  | cons t ts =>
    have hkind : t.unplaced.kind = t.kind := rfl
    rw [List.map_cons]
    cases hk : t.kind with
    | number =>
      rw [primary_number _ _ hk, primary_number _ _ (hkind.trans hk)]
      cases hx : literalNumber? t.text <;> simp only [Token.unplaced, hx] <;> rfl
    | identifier =>
      rw [primary_identifier _ _ hk, primary_identifier _ _ (hkind.trans hk), nextKind_unplaced, ← List.map_tail]
      split
      · exact (arguments_blind hi).andThen (fun _ _ => rfl) ts.tail
      · rfl
    | leftParen =>
      rw [primary_leftParen _ _ hk, primary_leftParen _ _ (hkind.trans hk)]
      exact hi.andThen (closing_blind _) ts
    | _ =>
      simp only [primary, hkind, hk]
      rfl

theorem unaryWith_blind (ho : Blind operand) (hi : Blind inner) : Blind (unaryWith operand inner) := by
  intro ts
  rw [unaryWith_eq, unaryWith_eq, unaryAt?_unplaced, ← List.map_tail]
  split
  · exact primary_blind hi ts
  · exact ho.andThen (fun _ _ => rfl) ts.tail

theorem chainWith_blind (ho : Blind operand) (hm : ∀ level left, Blind (more level left)) :
    ∀ n, Blind (chainWith operand more n)
  | 0 => ho
  | level + 1 => by
    intro ts
    rw [chainWith_succ, chainWith_succ]
    exact (chainWith_blind ho hm level).andThen (hm level) ts

theorem nested_blind {read : Nat → Reader Expr} {budget : Nat}
    (h : ∀ smaller, budget = smaller + 1 → Blind (read smaller)) : Blind (nested read tooDeep budget) := by
  cases budget with
  | zero => exact fun _ => rfl
  | succ budget => exact h budget rfl

/-- No reader sees positions, whatever its budget. -/
theorem readers_blind (budget : Nat) : Blind (unary budget) ∧ ∀ level left, Blind (folds budget level left) := by
  induction budget using Nat.strongRecOn with
  | _ budget ih =>
    have hunary : ∀ smaller, budget = smaller + 1 → Blind (unary smaller) := by
      rintro smaller rfl
      exact (ih smaller (Nat.lt_succ_self _)).1
    have hfolds : ∀ smaller, budget = smaller + 1 → ∀ level left, Blind (folds smaller level left) := by
      rintro smaller rfl
      exact (ih smaller (Nat.lt_succ_self _)).2
    have hchain : ∀ smaller, budget = smaller + 1 → ∀ n, Blind (chain smaller n) := fun smaller hs =>
      chainWith_blind (hunary smaller hs) (hfolds smaller hs)
    constructor
    · intro ts
      rw [unary_eq, unary_eq, expression_eq]
      exact unaryWith_blind (nested_blind hunary) (nested_blind fun smaller hs => hchain smaller hs _) ts
    · intro level left ts
      rw [folds_eq, folds_eq, operatorAt?_unplaced]
      split
      · rfl
      · refine nested_blind (fun smaller hs ts => ?_) ts
        rw [← List.map_tail]
        exact (hchain smaller hs level).andThen (fun right => hfolds smaller hs level _) ts.tail

theorem expression_blind (budget : Nat) : Blind (expression budget) := by
  rw [expression_eq]
  exact nested_blind fun smaller _ => chainWith_blind (readers_blind smaller).1 (readers_blind smaller).2 _

end Blind

/-! ## The answers -/

/-- The parser of the same tokens without their places. -/
def unplaced (p : Parser) : Parser := ⟨p.rest.map Token.unplaced, 0, p.maxDepth⟩

theorem error_unplaced (p : Parser) (why : Refusal) : p.unplaced.error why = (p.error why).unplaced := by
  have hcurrent : p.unplaced.current = p.current.unplaced := by
    cases h : p.rest <;> simp [current, unplaced, h, Token.unplaced, Token.endOfInput]
  cases why <;> simp only [error, hcurrent, ParseError.unplaced]
  rfl

/-- **A parser without places** answers the same, and goes on the same, but for the places its errors name. -/
theorem parse_unplaced (p : Parser) :
    p.unplaced.parse = (p.parse.1.mapError ParseError.unplaced, p.parse.2.unplaced) := by
  have hread : expression p.unplaced.maxDepth p.unplaced.rest = (expression p.maxDepth p.rest).unplaced :=
    expression_blind p.maxDepth p.rest
  rw [parse, parse, hread]
  cases expression p.maxDepth p.rest with
  | refused why rest => exact Prod.ext (congrArg Except.error (error_unplaced { p with rest } why)) rfl
  | done e rest =>
    refine Prod.ext ?_ rfl
    simp only [Outcome.unplaced, nextKind_unplaced]
    split
    · rfl
    · exact congrArg Except.error (error_unplaced { p with rest } .unexpected)

/-- All calls of a parser without places answer the same. -/
theorem parses_unplaced : ∀ (n : Nat) (p : Parser),
    parses n p.unplaced = (parses n p).map (·.mapError ParseError.unplaced)
  | 0, _ => rfl
  | n + 1, p => by
    rw [parses, parse_unplaced, parses_unplaced n, parses, List.map_cons]

/-- The end of the input that is put in behind tokens without one is at their end, so it has its place from them. -/
theorem unplaced_ofTokens (ts : List Token) (maxDepth : Nat) :
    (ofTokens (ts.map Token.unplaced) maxDepth).unplaced = (ofTokens ts maxDepth).unplaced := by
  have hplaces : ∀ ts : List Token, (ts.map Token.unplaced).map Token.unplaced = ts.map Token.unplaced := by
    intro ts
    rw [List.map_map]
    rfl
  unfold ofTokens
  rw [List.getLast?_map]
  cases ts.getLast? with
  | none => rfl
  | some t =>
    have hend : t.unplaced.isEnd = t.isEnd := rfl
    simp only [Option.map_some, hend]
    split
    · simp only [unplaced, ← List.map_dropLast, hplaces]
    · simp only [unplaced, hplaces]

theorem unplaced_ofTokens_congr {ts ts' : List Token} (h : ts.map Token.unplaced = ts'.map Token.unplaced)
    (maxDepth : Nat) : (ofTokens ts maxDepth).unplaced = (ofTokens ts' maxDepth).unplaced := by
  rw [← unplaced_ofTokens ts, h, unplaced_ofTokens]

/-- **Every call depends on kinds and texts alone**, but for the places that errors name. -/
theorem parses_ofTokens_congr {ts ts' : List Token} (h : ts.map Token.unplaced = ts'.map Token.unplaced)
    (maxDepth n : Nat) : (parses n (ofTokens ts maxDepth)).map (·.mapError ParseError.unplaced) =
      (parses n (ofTokens ts' maxDepth)).map (·.mapError ParseError.unplaced) := by
  rw [← parses_unplaced, unplaced_ofTokens_congr h, parses_unplaced]

end Parser

/-- **Parsing depends on kinds and texts alone**, but for the place that an error names. -/
theorem Expr.ofTokens_congr {ts ts' : List Token} (h : ts.map Token.unplaced = ts'.map Token.unplaced)
    (maxDepth : Nat) : (ofTokens ts maxDepth).mapError ParseError.unplaced =
      (ofTokens ts' maxDepth).mapError ParseError.unplaced :=
  List.head_eq_of_cons_eq (Parser.parses_ofTokens_congr h maxDepth 1)

end Formula
