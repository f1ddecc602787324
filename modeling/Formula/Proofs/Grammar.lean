import Formula.Parse

/-!
# The grammar of formulas

The documented grammar with its derivation trees as data. An expression is a chain of the loosest operators; every
level of operators chains the level below it, down to the unary operators:

```
expression   := chain 6
chain (n+1)  := chain n (operator-of-level-n chain n)*
chain 0      := unary
unary        := ('-' | '!') unary | primary
primary      := number | string | boolean | identifier
              | identifier '(' (expression (',' expression)*)? ')' | '(' expression ')'
```

* `Terminal`, `sentence` : what the grammar sees of a list of tokens.
* `Chain`, `Links`, `Unary`, `Primary`, `Arguments` : derivations from the nonterminals.
* `words`, `tree`, `need` : the terminals a derivation spells, the tree it stands for, and the nesting it takes.
* `Unary.chain`, `Primary.chain` : an operand alone as a chain of any level.
-/

namespace Formula

/-! ## Terminals -/

/-- What the grammar sees of a token: its kind, and its text where that is not given by the kind. -/
inductive Terminal
  | number (text : String)
  | string (text : String)
  | boolean (text : String)
  | identifier (text : String)
  | operator (symbol : String)
  | leftParen
  | rightParen
  | comma
  | endOfInput
  deriving DecidableEq, Repr

/-- The terminal that a token is an occurrence of. -/
def Token.terminal (t : Token) : Terminal :=
  match t.kind with
  | .number => .number t.text
  | .string => .string t.text
  | .boolean => .boolean t.text
  | .identifier => .identifier t.text
  | .operator => .operator t.text
  | .leftParen => .leftParen
  | .rightParen => .rightParen
  | .comma => .comma
  | .endOfInput => .endOfInput

/-- The kind of the tokens that are occurrences of the terminal. -/
def Terminal.kind : Terminal → TokenKind
  | number _ => .number
  | string _ => .string
  | boolean _ => .boolean
  | identifier _ => .identifier
  | operator _ => .operator
  | leftParen => .leftParen
  | rightParen => .rightParen
  | comma => .comma
  | endOfInput => .endOfInput

/-- The text of the tokens that are occurrences of the terminal, if it fixes one. -/
def Terminal.text? : Terminal → Option String
  | number text | string text | boolean text | identifier text | operator text => some text
  | leftParen | rightParen | comma | endOfInput => none

namespace Token

@[simp] theorem terminal_kind (t : Token) : t.terminal.kind = t.kind := by
  unfold terminal
  split <;> simp [Terminal.kind, *]

theorem kind_of_terminal {t : Token} {w : Terminal} (h : t.terminal = w) : t.kind = w.kind := by
  rw [← h, terminal_kind]

theorem text_of_terminal {t : Token} {w : Terminal} {text : String} (h : t.terminal = w)
    (hw : w.text? = some text) : t.text = text := by
  subst h
  unfold terminal at hw
  split at hw <;> simp_all [Terminal.text?]

theorem terminal_eq_operator {t : Token} {symbol : String} :
    t.terminal = .operator symbol ↔ t.kind = .operator ∧ t.text = symbol :=
  ⟨fun h => ⟨kind_of_terminal h, text_of_terminal h rfl⟩, fun ⟨hk, ht⟩ => by simp [terminal, hk, ht]⟩

/-- A delimiter is told by its kind alone. -/
theorem terminal_eq_iff {t : Token} {w : Terminal} (hw : w.text? = none) : t.terminal = w ↔ t.kind = w.kind := by
  refine ⟨kind_of_terminal, fun h => ?_⟩
  cases w <;> simp_all [terminal, Terminal.kind, Terminal.text?]

end Token

/-- The symbol of the unary operator in a formula. -/
def UnaryOperator.symbol : UnaryOperator → String
  | negate => "-"
  | not => "!"

namespace Grammar

/-- The terminals in front of the first end of the input. -/
def sentence (ts : List Token) : List Terminal := (ts.takeWhile fun t => !t.isEnd).map Token.terminal

/-! ## Derivations -/

mutual

/-- Derivations from `chain n`: chains of the operators of the levels below `n`. -/
inductive Chain : Nat → Type
  | unary (operand : Unary) : Chain 0
  | level {n : Nat} (first : Chain n) (links : Links n) : Chain (n + 1)

/-- What follows the first operand of a chain of level `n`: operators, each with its right operand. -/
inductive Links : Nat → Type
  | nil {n : Nat} : Links n
  | cons {n : Nat} (op : Operator) (level_eq : op.level = n) (right : Chain n) (more : Links n) : Links n

/-- Derivations from `unary`. -/
inductive Unary : Type
  | sign (op : UnaryOperator) (operand : Unary)
  | primary (p : Primary)

/-- Derivations from `primary`; the text of a number has to read as a finite double. -/
inductive Primary : Type
  | number (text : String) (x : Binary64) (reads : Parser.literalNumber? text = some x)
  | string (text : String)
  | boolean (text : String)
  | field (identifier : String)
  | emptyCall (name : String)
  | call (name : String) (args : Arguments)
  | group (inner : Chain Operator.levels)

/-- One or more expressions separated by commas. -/
inductive Arguments : Type
  | last (e : Chain Operator.levels)
  | cons (e : Chain Operator.levels) (more : Arguments)

end

/-- Derivations from `expression`. -/
abbrev Expression : Type := Chain Operator.levels

/-! ## The sentence of a derivation -/

mutual

/-- The terminals that the derivation spells. -/
def Chain.words : {n : Nat} → Chain n → List Terminal
  | _, .unary u => u.words
  | _, .level first links => first.words ++ links.words

def Links.words : {n : Nat} → Links n → List Terminal
  | _, .nil => []
  | _, .cons op _ right more => .operator op.symbol :: (right.words ++ more.words)

def Unary.words : Unary → List Terminal
  | .sign op operand => .operator op.symbol :: operand.words
  | .primary p => p.words

def Primary.words : Primary → List Terminal
  | .number text _ _ => [.number text]
  | .string text => [.string text]
  | .boolean text => [.boolean text]
  | .field identifier => [.identifier identifier]
  | .emptyCall name => [.identifier name, .leftParen, .rightParen]
  | .call name args => .identifier name :: .leftParen :: (args.words ++ [.rightParen])
  | .group inner => .leftParen :: (inner.words ++ [.rightParen])

def Arguments.words : Arguments → List Terminal
  | .last e => e.words
  | .cons e more => e.words ++ .comma :: more.words

end

/-! ## The tree of a derivation -/

mutual

/-- The tree that the derivation stands for. -/
def Chain.tree : {n : Nat} → Chain n → Expr
  | _, .unary u => u.tree
  | _, .level first links => links.fold first.tree

/-- The tree of a chain, folded to the left behind its first operand. -/
def Links.fold : {n : Nat} → Links n → Expr → Expr
  | _, .nil, left => left
  | _, .cons op _ right more, left => more.fold (.binary left op right.tree)

def Unary.tree : Unary → Expr
  | .sign .negate operand => .binary (.literal (.number (.zero false))) .sub operand.tree
  | .sign .not operand => .binary operand.tree .eq (.literal (.boolean false))
  | .primary p => p.tree

def Primary.tree : Primary → Expr
  | .number _ x _ => .literal (.number x)
  | .string text => .literal (.string text)
  | .boolean text => .literal (.boolean (text = "true"))
  | .field identifier => .fieldOf identifier
  | .emptyCall name => .callOf name []
  | .call name args => .callOf name args.trees
  | .group inner => inner.tree

def Arguments.trees : Arguments → List Expr
  | .last e => [e.tree]
  | .cons e more => e.tree :: more.trees

end

/-- The parser builds the tree of a unary operator from that of its operand. -/
theorem Unary.tree_sign (op : UnaryOperator) (operand : Unary) : (sign op operand).tree = .unary op operand.tree := by
  cases op with
  | negate => rw [tree, Expr.unary, Expr.negate]
  | not => rw [tree, Expr.unary, Expr.not]

/-! ## The nesting of a derivation -/

mutual

/-- How much nesting the derivation takes: a unary operator adds one to its operand, the right operand of the `k`-th
operator of a chain counts `k` more, and an expression in parentheses or in an argument list counts one more. -/
def Chain.need : {n : Nat} → Chain n → Nat
  | _, .unary u => u.need
  | _, .level first links => max first.need links.need

def Links.need : {n : Nat} → Links n → Nat
  | _, .nil => 0
  | _, .cons _ _ right more => 1 + max right.need more.need

def Unary.need : Unary → Nat
  | .sign _ operand => 1 + operand.need
  | .primary p => p.need

def Primary.need : Primary → Nat
  | .call _ args => args.need
  | .group inner => 1 + inner.need
  | _ => 0

def Arguments.need : Arguments → Nat
  | .last e => 1 + e.need
  | .cons e more => max (1 + e.need) more.need

end

/-- The right operands of the operators, from left to right. -/
def Links.rights {n : Nat} : Links n → List (Chain n)
  | .nil => []
  | .cons _ _ right more => right :: more.rights

/-- The operators of a chain need as much as the most demanding right operand, the `k`-th one counting `k` more. -/
theorem Links.need_le_iff {n : Nat} (l : Links n) (budget : Nat) :
    l.need ≤ budget ↔ ∀ k right, l.rights[k]? = some right → k + 1 + right.need ≤ budget :=
  match n, l with
  | _, .nil => by simp [need, rights]
  | _, .cons op level_eq right more => by
    have ih := more.need_le_iff (budget - 1)
    rw [need, rights]
    constructor
    · intro h k r hr
      cases k with
      | zero =>
        obtain rfl := Option.some.inj hr
        omega
      | succ k =>
        have := ih.1 (by omega) k r hr
        omega
    · intro h
      have hright := h 0 right rfl
      have hmore := ih.2 fun k r hr => by
        have := h (k + 1) r hr
        omega
      omega

/-- The nesting that an expression takes as a whole: one more than its outermost chain. -/
def Expression.depth (d : Expression) : Nat := 1 + d.need

/-! ## Operands as chains -/

/-- The chain of a unary expression alone, without operators at any level. -/
def Unary.chain (u : Unary) : (n : Nat) → Chain n
  | 0 => .unary u
  | n + 1 => .level (u.chain n) .nil

@[simp] theorem Unary.words_chain (u : Unary) (n : Nat) : (u.chain n).words = u.words := by
  induction n with
  | zero => rfl
  | succ n ih => rw [chain, Chain.words, ih, Links.words, List.append_nil]

@[simp] theorem Unary.tree_chain (u : Unary) (n : Nat) : (u.chain n).tree = u.tree := by
  induction n with
  | zero => rfl
  | succ n ih => rw [chain, Chain.tree, Links.fold, ih]

@[simp] theorem Unary.need_chain (u : Unary) (n : Nat) : (u.chain n).need = u.need := by
  induction n with
  | zero => rfl
  | succ n ih => rw [chain, Chain.need, ih, Links.need, Nat.max_zero]

/-- The chain of a primary expression alone, without operators at any level. -/
def Primary.chain (p : Primary) : (n : Nat) → Chain n
  | 0 => .unary (.primary p)
  | n + 1 => .level (p.chain n) .nil

theorem Primary.chain_eq (p : Primary) (n : Nat) : p.chain n = (Unary.primary p).chain n := by
  induction n with
  | zero => rfl
  | succ n ih => rw [chain, Unary.chain, ih]

@[simp] theorem Primary.words_chain (p : Primary) (n : Nat) : (p.chain n).words = p.words := by
  rw [chain_eq, Unary.words_chain, Unary.words]

@[simp] theorem Primary.tree_chain (p : Primary) (n : Nat) : (p.chain n).tree = p.tree := by
  rw [chain_eq, Unary.tree_chain, Unary.tree]

@[simp] theorem Primary.need_chain (p : Primary) (n : Nat) : (p.chain n).need = p.need := by
  rw [chain_eq, Unary.need_chain, Unary.need]

/-! ## The end of the input -/

mutual

/-- No derivation spells an end of the input. -/
theorem Chain.endOfInput_not_mem : ∀ {n : Nat} (c : Chain n), Terminal.endOfInput ∉ c.words
  | _, .unary u => u.endOfInput_not_mem
  | _, .level first links => by
    simp [Chain.words, first.endOfInput_not_mem, links.endOfInput_not_mem]

theorem Links.endOfInput_not_mem : ∀ {n : Nat} (l : Links n), Terminal.endOfInput ∉ l.words
  | _, .nil => by simp [Links.words]
  | _, .cons _ _ right more => by
    simp [Links.words, right.endOfInput_not_mem, more.endOfInput_not_mem]

theorem Unary.endOfInput_not_mem : ∀ u : Unary, Terminal.endOfInput ∉ u.words
  | .sign _ operand => by simp [Unary.words, operand.endOfInput_not_mem]
  | .primary p => p.endOfInput_not_mem

theorem Primary.endOfInput_not_mem : ∀ p : Primary, Terminal.endOfInput ∉ p.words
  | .number .. | .string _ | .boolean _ | .field _ | .emptyCall _ => by simp [Primary.words]
  | .call _ args => by simp [Primary.words, args.endOfInput_not_mem]
  | .group inner => by simp [Primary.words, inner.endOfInput_not_mem]

theorem Arguments.endOfInput_not_mem : ∀ a : Arguments, Terminal.endOfInput ∉ a.words
  | .last e => e.endOfInput_not_mem
  | .cons e more => by simp [Arguments.words, e.endOfInput_not_mem, more.endOfInput_not_mem]

end

end Grammar
end Formula
