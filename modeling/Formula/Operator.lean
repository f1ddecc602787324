/-!
# Operators

The operators of formulas. The binary ones have a symbol in formulas and one in SQL, and fall into six levels of
precedence, counted from the one that binds tightest.
-/

namespace Formula

/-- The binary operators. -/
inductive Operator
  | add
  | sub
  | mul
  | div
  | mod
  | eq
  | ne
  | lt
  | gt
  | le
  | ge
  | and
  | or
  deriving DecidableEq, Repr

/-- The unary operators. -/
inductive UnaryOperator
  | negate
  | not
  deriving DecidableEq, Repr

/-- The unary operator with the given symbol. -/
def UnaryOperator.ofSymbol? (symbol : String) : Option UnaryOperator :=
  if symbol = "-" then some negate else if symbol = "!" then some not else none

namespace Operator

/-- The symbol of the operator in a formula. -/
def symbol : Operator → String
  | add => "+"
  | sub => "-"
  | mul => "*"
  | div => "/"
  | mod => "%"
  | eq => "=="
  | ne => "!="
  | lt => "<"
  | gt => ">"
  | le => "<="
  | ge => ">="
  | and => "&&"
  | or => "||"

/-- The spelling of the operator in SQL. -/
def sqlSymbol : Operator → String
  | eq => "="
  | ne => "<>"
  | and => "AND"
  | or => "OR"
  | op => op.symbol

def all : List Operator := [add, sub, mul, div, mod, eq, ne, lt, gt, le, ge, and, or]

/-- The operator with the given symbol. -/
def ofSymbol? (symbol : String) : Option Operator := all.find? (·.symbol = symbol)

/-- How many levels of precedence there are. -/
def levels : Nat := 6

/-- The level of precedence; operators of one level are chained to the left, and lower levels bind tighter. -/
def level : Operator → Nat
  | mul | div | mod => 0
  | add | sub => 1
  | lt | gt | le | ge => 2
  | eq | ne => 3
  | and => 4
  | or => 5

end Operator
end Formula
