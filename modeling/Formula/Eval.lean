import Formula.Builtin
import Formula.Context
import Formula.Error

/-!
# Evaluation

The value of an expression for the field values of a context. Both operands of an operator are always evaluated, the
left one first; only the call of an unknown function fails, and it fails after its arguments.
-/

namespace Formula

/-! ## Operators -/

namespace Operator

/-- An operation on the numeric readings of two values, null if either has none. -/
def arithmetic (f : Binary64 → Binary64 → Option Binary64) (v w : Value) : Value :=
  match v.toNumber?, w.toNumber? with
  | some x, some y => Builtin.numberOrNull (f x y)
  | _, _ => .null

/-- An operation that has no result for a divisor of zero. -/
def guarded (f : Binary64 → Binary64 → Binary64) (x y : Binary64) : Option Binary64 :=
  if y.isZero then none else some (f x y)

/-- A relation of the numeric readings of two values, false if either has none. -/
def compares (r : Binary64 → Binary64 → Bool) (v w : Value) : Value :=
  match v.toNumber?, w.toNumber? with
  | some x, some y => .boolean (r x y)
  | _, _ => .boolean false

/-- The value of the operator at two operands. -/
def apply (op : Operator) (v w : Value) : Value :=
  match op with
  | add => arithmetic (fun x y => some (x.add y)) v w
  | sub => arithmetic (fun x y => some (x.sub y)) v w
  | mul => arithmetic (fun x y => some (x.mul y)) v w
  | div => arithmetic (guarded Binary64.div) v w
  | mod => arithmetic (guarded Binary64.rem) v w
  | eq => .boolean (v.same w)
  | ne => .boolean (!v.same w)
  | lt => compares (fun x y => x.less y) v w
  | gt => compares (fun x y => y.less x) v w
  | le => compares (fun x y => x.atMost y) v w
  | ge => compares (fun x y => y.atMost x) v w
  | and => .boolean (v.isTruthy && w.isTruthy)
  | or => .boolean (v.isTruthy || w.isTruthy)

end Operator

/-! ## Expressions -/

/-- The value of a field: a global one is looked up under its key first and then under its bare name. A field that the
context does not have is null. -/
def Context.resolve (c : Context) (f : Field) : Value :=
  match if f.global then c.get? f.key else none with
  | some v => v
  | none => (c.get? f.name).getD .null

/-- The value of a call by the name of its function. -/
def callBuiltin (name : String) (args : List Value) : Except EvalError Value :=
  match Builtin.ofName? name with
  | none => .error (.unknownFunction name)
  | some f => .ok (f.apply args)

namespace Expr

mutual

/-- The value of the expression for the fields of a context. -/
def eval (c : Context) : Expr → Except EvalError Value
  | literal v => .ok v
  | field f => .ok (c.resolve f)
  | binary l op r =>
    match eval c l with
    | .error e => .error e
    | .ok v =>
      match eval c r with
      | .error e => .error e
      | .ok w => .ok (op.apply v w)
  | call name args =>
    match evalAll c args with
    | .error e => .error e
    | .ok vs => callBuiltin name vs

/-- The values of a list of expressions, up to the first that has none. -/
def evalAll (c : Context) : List Expr → Except EvalError (List Value)
  | [] => .ok []
  | e :: es =>
    match eval c e with
    | .error err => .error err
    | .ok v =>
      match evalAll c es with
      | .error err => .error err
      | .ok vs => .ok (v :: vs)

end

end Expr
end Formula
