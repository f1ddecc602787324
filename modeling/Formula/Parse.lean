import Formula.Expr
import Formula.Token

/-!
# Parsing

Tokens are read into an expression by six levels of left-associative operator chains over unary operators and primary
expressions. Nesting is limited by a budget: a parenthesised expression, an argument, the operand of a unary operator
and the whole formula each take one level of it while they are read, and in a chain the right operand of the `k`-th
operator is read with `k` levels taken. Reading with no budget left is refused, so a budget bounds the whole recursion.

* `unary`, `chain` : the readers of the grammar.
* `Parser` : the tokens still to be read, and `Parser.parse`, which reads one expression up to an end of input.
-/

namespace Formula

/-- What a pair of parentheses stands around. -/
inductive Bracket
  | group
  | arguments
  deriving DecidableEq, Repr

/-- Why a list of tokens is no expression. -/
inductive ParseError
  | unexpectedToken (found : Token)
  | unclosed (bracket : Bracket) (found : Token)
  | invalidNumber (text : String)
  | tooDeep (maxDepth : Nat)
  deriving DecidableEq, Repr

/-- Where a closing parenthesis was expected. -/
def Bracket.place : Bracket → String
  | .group => "after expression"
  | .arguments => "after function arguments"

def ParseError.message : ParseError → String
  | .unexpectedToken found =>
    "Unexpected token: " ++ found.describe ++ " at position " ++ toString found.position
  | .unclosed bracket found =>
    "Expected ')' " ++ bracket.place ++ ", found " ++ found.describe ++ " at position " ++ toString found.position
  | .invalidNumber text => "Invalid number literal: " ++ text
  | .tooDeep maxDepth => "Expression nesting exceeds the maximum depth of " ++ toString maxDepth

namespace Parser

/-! ## Readers -/

/-- Why a reader stops; the token at fault is the first one of the rest. -/
inductive Refusal
  | unexpected
  | unclosed (bracket : Bracket)
  | invalidNumber (text : String)
  | tooDeep
  deriving DecidableEq, Repr

/-- The end of a reading, with the tokens not taken. -/
inductive Outcome (α : Type)
  | done (value : α) (rest : List Token)
  | refused (why : Refusal) (rest : List Token)

/-- A reader takes tokens from the front of a list. -/
abbrev Reader (α : Type) := List Token → Outcome α

/-- The kind of the next token; past the last one comes the end of the input. -/
def nextKind : List Token → TokenKind
  | [] => .endOfInput
  | t :: _ => t.kind

/-- The reader with no budget left. -/
def tooDeep : Reader Expr := fun ts => .refused .tooDeep ts

/-- The operator of the given level at the front. -/
def operatorAt? (level : Nat) : List Token → Option Operator
  | [] => none
  | t :: _ => if t.kind = .operator then (Operator.ofSymbol? t.text).filter (·.level = level) else none

/-- The unary operator at the front. -/
def unaryAt? : List Token → Option UnaryOperator
  | [] => none
  | t :: _ => if t.kind = .operator then UnaryOperator.ofSymbol? t.text else none

/-- The number that a literal denotes; one too large for a double denotes none. -/
def literalNumber? (text : String) : Option Binary64 :=
  (Binary64.ofNumeral? text.toList).filter Binary64.isFinite

/-- Takes the closing parenthesis behind a value. -/
def closing {α : Type} (bracket : Bracket) (value : α) : Reader α
  | [] => .refused (.unclosed bracket) []
  | t :: rest =>
    if t.kind = .rightParen then .done value rest else .refused (.unclosed bracket) (t :: rest)

/-- Reads one argument and those after it, each behind a comma. Every comma is a token, so a bound that starts at the
number of tokens is never used up. -/
def argumentsUpTo (argument : Reader Expr) : Nat → Reader (List Expr)
  | 0, ts => .refused .unexpected ts
  | bound + 1, ts =>
    match argument ts with
    | .refused why rest => .refused why rest
    | .done e rest =>
      if nextKind rest = .comma then
        match argumentsUpTo argument bound rest.tail with
        | .refused why rest => .refused why rest
        | .done es rest => .done (e :: es) rest
      else .done [e] rest

/-- Reads the arguments of a call after its opening parenthesis, and the closing one. -/
def arguments (argument : Reader Expr) (ts : List Token) : Outcome (List Expr) :=
  if nextKind ts = .rightParen then closing .arguments [] ts
  else match argumentsUpTo argument (ts.length + 1) ts with
    | .refused why rest => .refused why rest
    | .done es rest => closing .arguments es rest

/-- Reads a literal, a field, a call or a parenthesised expression; `nested` reads what stands in parentheses. -/
def primary (nested : Reader Expr) : Reader Expr
  | [] => .refused .unexpected []
  | t :: rest =>
    match t.kind with
    | .number =>
      match literalNumber? t.text with
      | some x => .done (.literal (.number x)) rest
      | none => .refused (.invalidNumber t.text) rest
    | .string => .done (.literal (.string t.text)) rest
    | .boolean => .done (.literal (.boolean (t.text = "true"))) rest
    | .identifier =>
      if nextKind rest = .leftParen then
        match arguments nested rest.tail with
        | .refused why rest => .refused why rest
        | .done args rest => .done (.callOf t.text args) rest
      else .done (.fieldOf t.text) rest
    | .leftParen =>
      match nested rest with
      | .refused why rest => .refused why rest
      | .done e rest => closing .group e rest
    | _ => .refused .unexpected (t :: rest)

/-- Reads a unary operator with its operand by `operand`, or else a primary expression. -/
def unaryWith (operand nested : Reader Expr) (ts : List Token) : Outcome Expr :=
  match unaryAt? ts with
  | none => primary nested ts
  | some op =>
    match operand ts.tail with
    | .refused why rest => .refused why rest
    | .done e rest => .done (.unary op e) rest

/-- Reads a chain of operators below the given level: each level is an operand of the level below it and then `more`,
which goes on behind that operand. -/
def chainWith (operand : Reader Expr) (more : Nat → Expr → Reader Expr) : Nat → Reader Expr
  | 0, ts => operand ts
  | level + 1, ts =>
    match chainWith operand more level ts with
    | .refused why rest => .refused why rest
    | .done left rest => more level left rest

mutual

/-- Reads a unary or primary expression with the given budget. -/
def unary : (budget : Nat) → Reader Expr
  | 0, ts => unaryWith tooDeep tooDeep ts
  | budget + 1, ts => unaryWith (unary budget) (chainWith (unary budget) (folds budget) Operator.levels) ts

/-- Goes on behind a left operand: each further operator of the level takes one more of the budget and folds the tree
to the left. -/
def folds : (budget : Nat) → (level : Nat) → (left : Expr) → Reader Expr
  | 0, level, left, ts =>
    match operatorAt? level ts with
    | none => .done left ts
    | some _ => .refused .tooDeep ts
  | budget + 1, level, left, ts =>
    match operatorAt? level ts with
    | none => .done left ts
    | some op =>
      match chainWith (unary budget) (folds budget) level ts.tail with
      | .refused why rest => .refused why rest
      | .done right rest => folds budget level (.binary left op right) rest

end

/-- Reads a chain of operators below the given level with the given budget. -/
def chain (budget : Nat) : (levels : Nat) → Reader Expr := chainWith (unary budget) (folds budget)

/-- Reads an expression, which takes one level of the budget. -/
def expression : (budget : Nat) → Reader Expr
  | 0 => tooDeep
  | budget + 1 => chain budget Operator.levels

end Parser

/-! ## Parsers -/

/-- The tokens still to be read in front of the closing end of the input, the position of that end, and the limit on
nesting. -/
structure Parser where
  rest : List Token
  stop : Nat
  maxDepth : Nat

namespace Parser

/-- The limit on nesting when none is given. -/
def defaultMaxDepth : Nat := 128

/-- A parser of a list of tokens. If the list does not close with an end of input, there is one right behind the last
token. A limit below one is raised to one, so that a lone operand can be read. -/
def ofTokens (tokens : List Token) (maxDepth : Nat) : Parser :=
  match tokens.getLast? with
  | none => ⟨[], 0, max 1 maxDepth⟩
  | some t =>
    if t.isEnd then ⟨tokens.dropLast, t.position, max 1 maxDepth⟩ else ⟨tokens, t.textEnd, max 1 maxDepth⟩

/-- The token that a reader looks at next. -/
def current (p : Parser) : Token := p.rest.head?.getD (.endOfInput p.stop)

/-- The error for a refusal, the rest being what the parser still has. -/
def error (p : Parser) : Refusal → ParseError
  | .unexpected => .unexpectedToken p.current
  | .unclosed bracket => .unclosed bracket p.current
  | .invalidNumber text => .invalidNumber text
  | .tooDeep => .tooDeep p.maxDepth

/-- Reads one expression, which has to go up to an end of input, and keeps the tokens not taken: a further call starts
where this one stopped, and an end of input is never passed. -/
def parse (p : Parser) : Except ParseError Expr × Parser :=
  match expression p.maxDepth p.rest with
  | .refused why rest =>
    let p := { p with rest }
    (.error (p.error why), p)
  | .done e rest =>
    let p := { p with rest }
    (if nextKind rest = .endOfInput then .ok e else .error (p.error .unexpected), p)

/-- The answers of the given number of calls. -/
def parses : Nat → Parser → List (Except ParseError Expr)
  | 0, _ => []
  | n + 1, p => p.parse.1 :: parses n p.parse.2

end Parser

/-- The expression that a list of tokens is. -/
def Expr.ofTokens (tokens : List Token) (maxDepth : Nat) : Except ParseError Expr :=
  (Parser.ofTokens tokens maxDepth).parse.1

end Formula
