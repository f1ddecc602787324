import Formula.Parse
import Formula.Scan

/-!
# Errors

What can be wrong with a formula. Only an unknown function is found when a formula is evaluated; missing fields,
division by zero and values of the wrong kind give null instead.
-/

namespace Formula

/-- Why an expression has no value. -/
inductive EvalError
  | unknownFunction (name : String)
  deriving DecidableEq, Repr

def EvalError.message : EvalError → String
  | .unknownFunction name => "Unknown function: " ++ name

/-- Why a formula has no value. -/
inductive FormulaError
  | scan (e : UnknownCharacter)
  | parse (e : ParseError)
  | eval (e : EvalError)
  deriving DecidableEq, Repr

namespace FormulaError

def message : FormulaError → String
  | scan e => e.message
  | parse e => e.message
  | eval e => e.message

/-- Whether the formula failed before there was a tree. -/
def isSyntactic : FormulaError → Bool
  | scan _ => true
  | parse _ => true
  | eval _ => false

end FormulaError

/-- The expression that a formula is. -/
def Expr.ofFormula (formula : String) (maxDepth : Nat) : Except FormulaError Expr :=
  match tokenize formula with
  | .error e => .error (.scan e)
  | .ok tokens =>
    match Expr.ofTokens tokens maxDepth with
    | .error e => .error (.parse e)
    | .ok e => .ok e

end Formula
