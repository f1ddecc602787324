import Formula.Eval
import Formula.Sql

/-!
# The engine

Evaluates, compiles and checks formulas given as text, under two options: the dialect of SQL and the limit on nesting.
A blank formula has the value null and the SQL text `NULL`, and is not valid.
-/

namespace Formula

/-- The options of an engine. -/
structure Engine where
  dialect : Dialect
  maxDepth : Nat
  deriving DecidableEq, Repr

/-- What an engine was asked for when it failed. -/
inductive Task
  | evaluation
  | compilation
  deriving DecidableEq, Repr

/-- Why an engine failed, with the formula at fault. -/
structure EngineError where
  task : Task
  formula : String
  cause : FormulaError
  deriving DecidableEq, Repr

def EngineError.message (e : EngineError) : String :=
  match e.task with
  | .evaluation => "Failed to evaluate expression '" ++ e.formula ++ "': " ++ e.cause.message
  | .compilation => "Failed to convert expression '" ++ e.formula ++ "' to SQL: " ++ e.cause.message

/-- Why a formula is not valid. -/
inductive Invalidity
  | blank
  | error (e : FormulaError)
  deriving DecidableEq, Repr

/-- What is said of a blank formula. -/
def blankMessage : String := "Expression cannot be empty"

def Invalidity.message : Invalidity → String
  | .blank => blankMessage
  | .error e => e.message

namespace Engine

/-- The options when none are given. -/
def default : Engine := ⟨.sqlServer, Parser.defaultMaxDepth⟩

/-- Whether a formula holds nothing but white space. -/
def isBlank (formula : String) : Bool := Unicode.isBlank formula.toList

/-- The expression of a formula. -/
def parse (engine : Engine) (formula : String) : Except FormulaError Expr :=
  Expr.ofFormula formula engine.maxDepth

/-- The value of a formula for the fields of a context. -/
def evaluate (engine : Engine) (formula : String) (c : Context) : Except EngineError Value :=
  if isBlank formula then .ok .null
  else match engine.parse formula with
    | .error e => .error ⟨.evaluation, formula, e⟩
    | .ok expr =>
      match expr.eval c with
      | .error e => .error ⟨.evaluation, formula, .eval e⟩
      | .ok v => .ok v

/-- The SQL text of a formula. -/
def toSql (engine : Engine) (formula : String) : Except EngineError String :=
  if isBlank formula then .ok "NULL"
  else match engine.parse formula with
    | .error e => .error ⟨.compilation, formula, e⟩
    | .ok expr => .ok (expr.toSql engine.dialect)

/-- Why a formula is not valid, if it is not; the names of functions are not checked. -/
def invalidity? (engine : Engine) (formula : String) : Option Invalidity :=
  if isBlank formula then some .blank
  else match engine.parse formula with
    | .error e => some (.error e)
    | .ok _ => none

end Engine
end Formula
