import Formula.Parse

/-!
# Parsing in place

A cursor stands at one of the tokens of an array that an end of input closes. The readers move it, count how deep they
are nested in it, and put that count back on every way out; a refusal leaves it at the token where the reading stopped.
The looks at a token are those of `Formula.Parse`, whose readers take the tokens that are left and need no count.

* `Cursor` : the tokens, the place among them, the nesting and the limit on it.
* `Cursor.parse` : reads one expression up to an end of input.
-/

namespace Formula

/-- A place among tokens that close with an end of input, how deep the reading is nested, and the limit on that. -/
@[ext]
structure Cursor where
  tokens : Array Token
  position : Nat
  depth : Nat
  maxDepth : Nat
  closed : tokens.back?.any Token.isEnd = true

namespace Cursor

/-- A cursor at the first token. If the list does not close with an end of input, one is put right behind the last
token. A limit below one is raised to one. -/
def ofTokens (tokens : List Token) (maxDepth : Nat) : Cursor :=
  if h : tokens.getLast?.any Token.isEnd = true then
    ⟨tokens.toArray, 0, 0, max 1 maxDepth, by rwa [List.back?_toArray]⟩
  else
    ⟨tokens.toArray.push (.endOfInput (tokens.getLast?.elim 0 Token.textEnd)), 0, 0, max 1 maxDepth,
      by rw [Array.back?_push]; rfl⟩

theorem size_pos (c : Cursor) : 0 < c.tokens.size := by
  refine Nat.pos_of_ne_zero fun h => ?_
  have hclosed := c.closed
  rw [Array.size_eq_zero_iff.1 h] at hclosed
  cases hclosed

/-- The token at the place; behind the last one it is the last one. -/
def current (c : Cursor) : Token :=
  have : min c.position (c.tokens.size - 1) < c.tokens.size := by have := c.size_pos; omega
  c.tokens[min c.position (c.tokens.size - 1)]

/-- Goes to the next token, but not past the last one. -/
def advance (c : Cursor) : Cursor :=
  if c.position < c.tokens.size - 1 then { c with position := c.position + 1 } else c

/-! ## Readings -/

/-- A reading moves a cursor, also when it fails. -/
abbrev Reading (α : Type) := ExceptT ParseError (StateM Cursor) α

/-- What a reading answers at a cursor, and the cursor that it leaves. -/
def run {α : Type} (c : Cursor) (read : Reading α) : Except ParseError α × Cursor := (ExceptT.run read).run c

/-- The token that the cursor is at. -/
def look : Reading Token := do return (← get).current

/-- Takes the token that the cursor is at. -/
def take : Reading Unit := modify advance

/-- Refuses the token that the cursor is at. -/
def unexpected {α : Type} : Reading α := do throw (.unexpectedToken (← look))

/-- Takes one level of nesting. -/
def descend : Reading Unit := do
  let c ← get
  if c.maxDepth ≤ c.depth then throw (.tooDeep c.maxDepth)
  else set { c with depth := c.depth + 1 }

/-- Reads, and sets the nesting afterwards, also when the reading fails. -/
def resetting {α : Type} (depth : Nat) (read : Reading α) : Reading α :=
  ExceptT.mk do
    let answer ← read.run
    modify fun c => { c with depth }
    return answer

/-- Reads one level deeper. -/
def nested {α : Type} (read : Reading α) : Reading α := do
  let c ← get
  descend
  resetting c.depth read

/-- Takes the closing parenthesis. -/
def closing (bracket : Bracket) : Reading Unit := do
  let t ← look
  if t.kind = .rightParen then take else throw (.unclosed bracket t)

/-- Reads one argument and those after it, each behind a comma. Every comma is a token, so a bound that starts at the
number of tokens is never used up. -/
def argumentsUpTo (argument : Reading Expr) : (bound : Nat) → Reading (List Expr)
  | 0 => unexpected
  | bound + 1 => do
    let e ← argument
    let t ← look
    if t.kind = .comma then
      take
      let es ← argumentsUpTo argument bound
      return e :: es
    else return [e]

/-- Reads the arguments of a call after its opening parenthesis, and the closing one. -/
def arguments (argument : Reading Expr) : Reading (List Expr) := do
  let c ← get
  if c.current.kind = .rightParen then
    closing .arguments
    return []
  else
    let es ← argumentsUpTo argument (c.tokens.size - c.position)
    closing .arguments
    return es

/-- Reads on behind a name: the arguments of a call if there is an opening parenthesis, or else nothing. -/
def named (inner : Reading Expr) (name : String) : Reading Expr := do
  let t ← look
  if t.kind = .leftParen then
    take
    let args ← arguments inner
    return .callOf name args
  else return .fieldOf name

/-- Reads a literal, a field, a call or a parenthesised expression; `inner` reads what stands in parentheses. -/
def primary (inner : Reading Expr) : Reading Expr := do
  let t ← look
  match t.kind with
  | .number =>
    take
    match Parser.literalNumber? t.text with
    | some x => return .literal (.number x)
    | none => throw (.invalidNumber t.text)
  | .string =>
    take
    return .literal (.string t.text)
  | .boolean =>
    take
    return .literal (.boolean (t.text = "true"))
  | .identifier =>
    take
    named inner t.text
  | .leftParen =>
    take
    let e ← inner
    closing .group
    return e
  | _ => unexpected

/-- Reads a unary operator with its operand by `operand`, or else a primary expression. -/
def unaryWith (operand inner : Reading Expr) : Reading Expr := do
  let t ← look
  match Parser.unaryAt? [t] with
  | none => primary inner
  | some op =>
    take
    let e ← operand
    return .unary op e

/-- Reads a chain of operators below the given level; each level puts the nesting back to what it found. -/
def chainWith (operand : Reading Expr) (more : Nat → Expr → Reading Expr) : (levels : Nat) → Reading Expr
  | 0 => operand
  | level + 1 => do
    let c ← get
    resetting c.depth do
      let left ← chainWith operand more level
      more level left

/-- Stands for the readings that no nesting within the limit comes to. -/
def unreached {α : Type} : Reading α := do throw (.tooDeep (← get).maxDepth)

mutual

/-- Reads a unary or primary expression when `deeper` more levels of nesting are within the limit. -/
def unary : (deeper : Nat) → Reading Expr
  | 0 => unaryWith (nested unreached) (nested unreached)
  | deeper + 1 =>
    unaryWith (nested (unary deeper)) (nested (chainWith (unary deeper) (folds deeper) Operator.levels))

/-- Goes on behind a left operand: each further operator of the level takes one more level of nesting and folds the
tree to the left. -/
def folds : (deeper : Nat) → (level : Nat) → (left : Expr) → Reading Expr
  | 0, level, left => do
    let t ← look
    match Parser.operatorAt? level [t] with
    | none => return left
    | some _ =>
      descend
      unreached
  | deeper + 1, level, left => do
    let t ← look
    match Parser.operatorAt? level [t] with
    | none => return left
    | some op =>
      descend
      take
      let right ← chainWith (unary deeper) (folds deeper) level
      folds deeper level (.binary left op right)

end

/-- Reads an expression, one level deeper. -/
def expression : (deeper : Nat) → Reading Expr
  | 0 => nested unreached
  | deeper + 1 => nested (chainWith (unary deeper) (folds deeper) Operator.levels)

/-- Reads one expression, which has to go up to an end of input. -/
def formula : Reading Expr := do
  let c ← get
  let e ← expression (c.maxDepth - c.depth)
  let t ← look
  if t.isEnd then return e else unexpected

/-! ## Calls -/

/-- One call: the answer and the cursor, at which a further call starts. -/
def parse (c : Cursor) : Except ParseError Expr × Cursor := c.run formula

/-- The answers of the given number of calls. -/
def parses : Nat → Cursor → List (Except ParseError Expr)
  | 0, _ => []
  | n + 1, c => c.parse.1 :: parses n c.parse.2

end Cursor
end Formula
