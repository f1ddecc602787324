import Formula.Field
import Formula.Operator
import Formula.Unicode.Case
import Formula.Value

/-!
# Expressions

The tree of a formula. There are no unary nodes: `-x` is `0 - x` and `!x` is `x == false`.
-/

namespace Formula

/-- An expression; the name of a function is kept in lower case by `Expr.callOf`. -/
inductive Expr
  | literal (value : Value)
  | field (ref : Field)
  | binary (left : Expr) (op : Operator) (right : Expr)
  | call (name : String) (args : List Expr)

namespace Expr

/-- The call of a function by its name in any letter case. -/
def callOf (name : String) (args : List Expr) : Expr :=
  call (String.ofList (Unicode.lowerCase name.toList)) args

/-- The reference that an identifier makes. -/
def fieldOf (identifier : String) : Expr := field (.ofIdentifier identifier)

def negate (operand : Expr) : Expr := binary (literal (.number (.zero false))) .sub operand

def not (operand : Expr) : Expr := binary operand .eq (literal (.boolean false))

/-- What a unary operator makes of its operand. -/
def unary : UnaryOperator → Expr → Expr
  | .negate => negate
  | .not => not

/-! ## Comparison -/

mutual

/-- Whether two trees agree node by node, literals being compared as formulas compare values. -/
def same : Expr → Expr → Bool
  | literal v, literal w => v.same w
  | field f, field g => f == g
  | binary l op r, binary l' op' r' => same l l' && op == op' && same r r'
  | call name args, call name' args' => name == name' && sameAll args args'
  | _, _ => false

/-- Whether two lists of trees agree one by one. -/
def sameAll : List Expr → List Expr → Bool
  | [], [] => true
  | e :: es, e' :: es' => same e e' && sameAll es es'
  | _, _ => false

end

/-! ## Referenced fields -/

mutual

/-- The references of a tree from left to right. -/
def references : Expr → List Field
  | literal _ => []
  | field f => [f]
  | binary l _ r => references l ++ references r
  | call _ args => referencesAll args

/-- The references of a list of trees from left to right. -/
def referencesAll : List Expr → List Field
  | [] => []
  | e :: es => references e ++ referencesAll es

end

mutual

/-- Goes over a tree from left to right and puts each of its references behind the listed fields, unless it is one. -/
def collect : Expr → List Field → List Field
  | literal _, listed => listed
  | field f, listed => if f ∈ listed then listed else listed ++ [f]
  | binary l _ r, listed => collect r (collect l listed)
  | call _ args, listed => collectAll args listed

/-- Goes over a list of trees from left to right in the same way. -/
def collectAll : List Expr → List Field → List Field
  | [], listed => listed
  | e :: es, listed => collectAll es (collect e listed)

end

/-- The fields that the expression refers to, each once and in the order of their first appearance. -/
def fields (e : Expr) : List Field := e.collect []

end Expr
end Formula
