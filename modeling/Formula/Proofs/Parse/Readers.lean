import Formula.Proofs.Grammar.Unambiguous

/-!
# The readers as equations

Every reader reads something and goes on behind it (`Outcome.andThen`), or first takes a level of the budget
(`nested`). Here each reader gets its equation in these terms, and the looks at the next token are told from its
terminal; the proofs about the readers rest on these alone.
-/

namespace Formula.Parser

/-! ## Going on -/

section AndThen

variable {α β : Type}

/-- Goes on behind a reading that is done. -/
def Outcome.andThen (o : Outcome α) (next : α → Reader β) : Outcome β :=
  match o with
  | .done value rest => next value rest
  | .refused why rest => .refused why rest

theorem Outcome.andThen_eq_done {o : Outcome α} {next : α → Reader β} {b : β} {rest : List Token} :
    o.andThen next = .done b rest ↔ ∃ a mid, o = .done a mid ∧ next a mid = .done b rest := by
  cases o with
  | refused why rest => simp [andThen]
  | done a mid => exact ⟨fun h => ⟨a, mid, rfl, h⟩, fun ⟨_, _, h, hn⟩ => by cases h; exact hn⟩

theorem Outcome.andThen_eq_refused {o : Outcome α} {next : α → Reader β} {why : Refusal} {rest : List Token} :
    o.andThen next = .refused why rest ↔
      o = .refused why rest ∨ ∃ a mid, o = .done a mid ∧ next a mid = .refused why rest := by
  cases o with
  | refused why rest => simp [andThen]
  | done a mid =>
    refine ⟨fun h => .inr ⟨a, mid, rfl, h⟩, ?_⟩
    rintro (h | ⟨_, _, h, hn⟩)
    · cases h
    · cases h; exact hn

/-- A reader that takes one level of the budget before it reads. -/
def nested (read : Nat → Reader α) (refuse : Reader α) : Nat → Reader α
  | 0 => refuse
  | budget + 1 => read budget

end AndThen

/-! ## The equations -/

theorem argumentsUpTo_succ (argument : Reader Expr) (bound : Nat) (ts : List Token) :
    argumentsUpTo argument (bound + 1) ts = (argument ts).andThen fun e rest =>
      if nextKind rest = .comma then
        (argumentsUpTo argument bound rest.tail).andThen fun es rest => .done (e :: es) rest
      else .done [e] rest := by
  rw [argumentsUpTo]
  cases argument ts with
  | refused why rest => rfl
  | done e rest =>
    simp only [Outcome.andThen]
    split
    · cases argumentsUpTo argument bound rest.tail <;> rfl
    · rfl

theorem arguments_eq (argument : Reader Expr) (ts : List Token) :
    arguments argument ts = if nextKind ts = .rightParen then closing .arguments [] ts
      else (argumentsUpTo argument (ts.length + 1) ts).andThen (closing .arguments) := by
  rw [arguments]
  cases argumentsUpTo argument (ts.length + 1) ts <;> rfl

theorem unaryWith_eq (operand inner : Reader Expr) (ts : List Token) :
    unaryWith operand inner ts = match unaryAt? ts with
      | none => primary inner ts
      | some op => (operand ts.tail).andThen fun e rest => .done (.unary op e) rest := by
  rw [unaryWith]
  cases unaryAt? ts with
  | none => rfl
  | some op => cases operand ts.tail <;> rfl

theorem chainWith_succ (operand : Reader Expr) (more : Nat → Expr → Reader Expr) (level : Nat) (ts : List Token) :
    chainWith operand more (level + 1) ts = (chainWith operand more level ts).andThen (more level) := by
  rw [chainWith]
  cases chainWith operand more level ts <;> rfl

/-- A unary expression: its operand and what stands in parentheses are read one level deeper. -/
theorem unary_eq (budget : Nat) (ts : List Token) :
    unary budget ts = unaryWith (nested unary tooDeep budget) (expression budget) ts := by
  cases budget <;> rw [unary] <;> rfl

theorem expression_eq (budget : Nat) :
    expression budget = nested (fun budget => chain budget Operator.levels) tooDeep budget := by
  cases budget <;> rfl

/-- The operators of a level: the right operand of each, and all that follows, are read one level deeper. -/
theorem folds_eq (budget level : Nat) (left : Expr) (ts : List Token) :
    folds budget level left ts = match operatorAt? level ts with
      | none => .done left ts
      | some op => nested (fun budget ts => (chain budget level ts.tail).andThen fun right rest =>
          folds budget level (.binary left op right) rest) tooDeep budget ts := by
  cases budget with
  | zero =>
    rw [folds]
    cases operatorAt? level ts <;> rfl
  | succ budget =>
    rw [folds]
    cases operatorAt? level ts with
    | none => rfl
    | some op =>
      simp only [nested, chain]
      cases chainWith (unary budget) (folds budget) level ts.tail <;> rfl

theorem primary_number {t : Token} (inner : Reader Expr) (rest : List Token) (h : t.kind = .number) :
    primary inner (t :: rest) = match literalNumber? t.text with
      | some x => .done (.literal (.number x)) rest
      | none => .refused (.invalidNumber t.text) rest := by
  cases hx : literalNumber? t.text with
  | none => simp only [primary, h, hx]
  | some x => simp only [primary, h, hx]

theorem primary_identifier {t : Token} (inner : Reader Expr) (rest : List Token) (h : t.kind = .identifier) :
    primary inner (t :: rest) = if nextKind rest = .leftParen then
        (arguments inner rest.tail).andThen fun args rest => .done (.callOf t.text args) rest
      else .done (.fieldOf t.text) rest := by
  simp only [primary, h]
  split
  · cases arguments inner rest.tail <;> rfl
  · rfl

theorem primary_leftParen {t : Token} (inner : Reader Expr) (rest : List Token) (h : t.kind = .leftParen) :
    primary inner (t :: rest) = (inner rest).andThen (closing .group) := by
  simp only [primary, h]
  cases inner rest <;> rfl

/-! ## The next token -/

/-- The kind of the next token is that of a delimiter when the delimiter is next. -/
theorem nextKind_eq_kind {ts : List Token} {w : Terminal} (hw : w.text? = none) (hne : w.kind ≠ .endOfInput) :
    nextKind ts = w.kind ↔ ∃ t rest, ts = t :: rest ∧ t.terminal = w := by
  cases ts with
  | nil => simpa [nextKind] using hne.symm
  | cons t rest => simp [nextKind, Token.terminal_eq_iff hw]

/-- Tokens that stop a chain do not make a call of a name in front of them. -/
theorem nextKind_ne_of_stops {n : Nat} {ts : List Token} (h : Grammar.Stops n (ts.map Token.terminal)) :
    nextKind ts ≠ .leftParen := by
  intro hk
  obtain ⟨t, rest, rfl, ht⟩ := (nextKind_eq_kind (w := .leftParen) rfl (by decide)).1 hk
  rw [List.map_cons, ht] at h
  exact h.ne_leftParen rfl

theorem operatorAt?_cons {level : Nat} {t : Token} {rest : List Token} {op : Operator} :
    operatorAt? level (t :: rest) = some op ↔ t.terminal = .operator op.symbol ∧ op.level = level := by
  rw [operatorAt?, Token.terminal_eq_operator]
  split
  · rename_i hk
    simp [hk, Option.filter_eq_some_iff, Operator.ofSymbol?_eq_some]
  · rename_i hk
    simp [hk]

theorem operatorAt?_eq_some {level : Nat} {ts : List Token} {op : Operator} (h : operatorAt? level ts = some op) :
    ∃ t rest, ts = t :: rest ∧ t.terminal = .operator op.symbol ∧ op.level = level := by
  cases ts with
  | nil => cases h
  | cons t rest => exact ⟨t, rest, rfl, operatorAt?_cons.1 h⟩

/-- Tokens that stop a chain have no operator of its levels at the front. -/
theorem operatorAt?_of_stops {level n : Nat} {ts : List Token} (h : Grammar.Stops n (ts.map Token.terminal))
    (hn : level < n) : operatorAt? level ts = none := by
  cases hop : operatorAt? level ts with
  | none => rfl
  | some op =>
    obtain ⟨t, rest, rfl, ht, hl⟩ := operatorAt?_eq_some hop
    rw [List.map_cons, ht] at h
    have := h op rfl
    omega

theorem unaryAt?_cons {t : Token} {rest : List Token} {op : UnaryOperator} :
    unaryAt? (t :: rest) = some op ↔ t.terminal = .operator op.symbol := by
  rw [unaryAt?, Token.terminal_eq_operator]
  split
  · rename_i hk
    simp [hk, UnaryOperator.ofSymbol?_eq_some]
  · rename_i hk
    simp [hk]

theorem unaryAt?_eq_some {ts : List Token} {op : UnaryOperator} (h : unaryAt? ts = some op) :
    ∃ t rest, ts = t :: rest ∧ t.terminal = .operator op.symbol := by
  cases ts with
  | nil => cases h
  | cons t rest => exact ⟨t, rest, rfl, unaryAt?_cons.1 h⟩

end Formula.Parser
