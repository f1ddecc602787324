import Formula.Document
import Formula.Engine

/-!
# Sessions

A session keeps a context, the options of an engine and the last expression that could be read. Each operation answers
and gives the session after it; one that fails leaves the session as it was.
-/

namespace Formula

/-- What is kept between operations. -/
structure Session where
  context : Context
  engine : Engine
  kept : Option Expr

namespace Session

/-- Goes on with what is asked for, to the session that comes of it; an error leaves the session as it is. -/
def attempt {ε α : Type} (s : Session) (answer : Except ε α) (next : α → Session) : Except ε α × Session :=
  match answer with
  | .error e => (.error e, s)
  | .ok a => (.ok a, next a)

def set (s : Session) (name : String) (value : Value) : Session :=
  { s with context := s.context.set name value }

/-- Removes a field and tells whether it was there. -/
def unset (s : Session) (name : String) : Bool × Session :=
  ((s.context.get? name).isSome, { s with context := s.context.erase name })

/-- Puts the value of a binding into the context. -/
def bind (library : Json.Library) (s : Session) (binding : String) : Except ContextError (String × Value) × Session :=
  s.attempt (Binding.read? library binding) fun (name, value) => s.set name value

/-- Takes the context of a JSON document instead of the one there was. -/
def load (library : Json.Library) (s : Session) (json : String) : Except ContextError Context × Session :=
  s.attempt (Context.ofJson? library json) fun c => { s with context := c }

def evaluate (s : Session) (formula : String) : Except EngineError Value := s.engine.evaluate formula s.context

/-- Puts the value of a formula into the context. -/
def store (s : Session) (name formula : String) : Except EngineError Value × Session :=
  s.attempt (s.evaluate formula) (s.set name)

/-- Reads a formula and keeps its expression. -/
def parse (s : Session) (formula : String) : Except FormulaError Expr × Session :=
  s.attempt (s.engine.parse formula) fun e => { s with kept := some e }

/-- The value of the expression that is kept. -/
def run? (s : Session) : Option (Except EvalError Value) := s.kept.map (·.eval s.context)

/-- The SQL text of the expression that is kept. -/
def compile? (s : Session) : Option String := s.kept.map (·.toSql s.engine.dialect)

def setDialect (s : Session) (dialect : Dialect) : Session :=
  { s with engine := { s.engine with dialect } }

def setMaxDepth (s : Session) (maxDepth : Nat) : Session :=
  { s with engine := { s.engine with maxDepth } }

end Session
end Formula
