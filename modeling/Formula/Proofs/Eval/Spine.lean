import Formula.Eval

/-!
# Null in arithmetic

The arithmetic spine of a tree is made of the arithmetic nodes that are reached from its root through such nodes only.
An operand below the spine that has no reading as a number makes the whole of it null, and so does a divisor of zero on
the spine; nothing else does.

* `Expr.spineLeaves`, `Expr.spineDivisors` : the subtrees below the spine, and the divisors on it.
* `Operator.toNumber?_apply_eq_none_iff` : when one arithmetic node has no reading.
* `Expr.toNumber?_eq_none_iff` : when a tree has none, told by its spine.
* `Expr.null_in_arithmetic` : arithmetic gives a number or null, and when it gives null.
-/

namespace Formula

/-! ## One node -/

theorem Builtin.toNumber?_numberOrNull (o : Option Binary64) : (numberOrNull o).toNumber? = o := by
  cases o <;> rfl

theorem Builtin.numberOrNull_cases (o : Option Binary64) :
    numberOrNull o = .null ∨ ∃ x, numberOrNull o = .number x := by
  cases o with
  | none => exact .inl rfl
  | some x => exact .inr ⟨x, rfl⟩

namespace Operator

/-- Whether the operator computes with numbers. -/
def isArithmetic : Operator → Bool
  | add | sub | mul | div | mod => true
  | eq | ne | lt | gt | le | ge | and | or => false

/-- Whether the operator divides by its right operand. -/
def divides : Operator → Bool
  | div | mod => true
  | _ => false

variable {op : Operator} {v w : Value}

/-- An arithmetic operator has no result for a divisor of zero, and for any other readings it has one. -/
theorem exists_apply_eq_arithmetic (h : op.isArithmetic = true) :
    ∃ f, op.apply = arithmetic f ∧ ∀ x y, f x y = none ↔ op.divides = true ∧ y.isZero = true := by
  cases op
  case add | sub | mul => exact ⟨_, rfl, by simp [divides]⟩
  case div | mod => exact ⟨_, rfl, by simp [guarded, divides]⟩
  case eq | ne | lt | gt | le | ge | and | or => cases h

theorem arithmetic_cases (f : Binary64 → Binary64 → Option Binary64) (v w : Value) :
    arithmetic f v w = .null ∨ ∃ x, arithmetic f v w = .number x := by
  unfold arithmetic
  split
  · exact Builtin.numberOrNull_cases _
  · exact .inl rfl

theorem toNumber?_arithmetic (f : Binary64 → Binary64 → Option Binary64) (v w : Value) :
    (arithmetic f v w).toNumber? = v.toNumber?.bind fun x => w.toNumber?.bind (f x) := by
  unfold arithmetic
  cases v.toNumber? with
  | none => rfl
  | some x =>
    cases w.toNumber? with
    | none => rfl
    | some y => exact Builtin.toNumber?_numberOrNull (f x y)

/-- **An arithmetic node** gives a number or null. -/
theorem apply_cases (h : op.isArithmetic = true) (v w : Value) :
    op.apply v w = .null ∨ ∃ x, op.apply v w = .number x := by
  obtain ⟨f, hf, -⟩ := exists_apply_eq_arithmetic h
  rw [hf]
  exact arithmetic_cases f v w

/-- **An arithmetic node has no reading** when one of its operands has none, or when it divides by zero. -/
theorem toNumber?_apply_eq_none_iff (h : op.isArithmetic = true) :
    (op.apply v w).toNumber? = none ↔ v.toNumber? = none ∨ w.toNumber? = none ∨
      op.divides = true ∧ ∃ y, w.toNumber? = some y ∧ y.isZero = true := by
  obtain ⟨f, hf, hnone⟩ := exists_apply_eq_arithmetic h
  rw [hf, toNumber?_arithmetic]
  cases v.toNumber? with
  | none => simp
  | some x => cases w.toNumber? <;> simp [hnone]

/-- The other operators give truth values. -/
theorem exists_apply_eq_boolean (h : op.isArithmetic = false) (v w : Value) : ∃ b, op.apply v w = .boolean b := by
  have hcompares (r : Binary64 → Binary64 → Bool) : ∃ b, compares r v w = .boolean b := by
    unfold compares
    split <;> exact ⟨_, rfl⟩
  cases op
  case add | sub | mul | div | mod => cases h
  case eq | ne | and | or => exact ⟨_, rfl⟩
  case lt | gt | le | ge => exact hcompares _

end Operator

/-- A number or null has no reading only if it is null. -/
theorem Value.eq_null_iff_toNumber?_eq_none {v : Value} (h : v = .null ∨ ∃ x, v = .number x) :
    v = .null ↔ v.toNumber? = none := by
  obtain rfl | ⟨x, rfl⟩ := h
  · exact iff_of_true rfl rfl
  · simp [toNumber?]

/-! ## The spine -/

namespace Expr

/-- The subtrees below the arithmetic spine, from left to right; a tree whose root is not arithmetic is the only one. -/
def spineLeaves : Expr → List Expr
  | binary l op r => if op.isArithmetic then spineLeaves l ++ spineLeaves r else [binary l op r]
  | e => [e]

/-- The right operands of the divisions and remainders on the arithmetic spine. -/
def spineDivisors : Expr → List Expr
  | binary l op r =>
    if op.isArithmetic then spineDivisors l ++ spineDivisors r ++ (if op.divides then [r] else []) else []
  | _ => []

/-- The value of the expression has no reading as a number. -/
def Unread (c : Context) (e : Expr) : Prop := ∃ v, e.eval c = .ok v ∧ v.toNumber? = none

/-- The value of the expression reads as a zero. -/
def ReadsZero (c : Context) (e : Expr) : Prop := ∃ v x, e.eval c = .ok v ∧ v.toNumber? = some x ∧ x.isZero = true

variable {c : Context} {l r : Expr} {op : Operator} {v : Value}

theorem unread_iff {e : Expr} (h : e.eval c = .ok v) : e.Unread c ↔ v.toNumber? = none := by
  simp [Unread, h]

theorem readsZero_iff {e : Expr} (h : e.eval c = .ok v) :
    e.ReadsZero c ↔ ∃ x, v.toNumber? = some x ∧ x.isZero = true := by
  simp [ReadsZero, h]

theorem eval_binary_eq_ok_iff : (binary l op r).eval c = .ok v ↔
    ∃ a b, l.eval c = .ok a ∧ r.eval c = .ok b ∧ op.apply a b = v := by
  rw [eval]
  cases l.eval c with
  | error x => simp
  | ok a => cases r.eval c <;> simp

/-- What makes a spine null: a subtree below it without a reading, or a divisor on it that reads as a zero. -/
def SpineNull (c : Context) (e : Expr) : Prop :=
  (∃ leaf ∈ e.spineLeaves, leaf.Unread c) ∨ ∃ d ∈ e.spineDivisors, d.ReadsZero c

theorem spineNull_of_not_arithmetic {e : Expr} (hleaves : e.spineLeaves = [e]) (hdivisors : e.spineDivisors = []) :
    e.SpineNull c ↔ e.Unread c := by
  simp [SpineNull, hleaves, hdivisors]

theorem spineNull_binary (h : op.isArithmetic = true) :
    (binary l op r).SpineNull c ↔ l.SpineNull c ∨ r.SpineNull c ∨ op.divides = true ∧ r.ReadsZero c := by
  have hdivisor : (∃ d ∈ if op.divides then [r] else [], d.ReadsZero c) ↔ op.divides = true ∧ r.ReadsZero c := by
    split <;> simp [*]
  simp only [SpineNull, spineLeaves, spineDivisors, h, if_true, List.mem_append, or_and_right, exists_or, hdivisor]
  grind

/-- **The spine tells** whether the value of a tree has a reading as a number. -/
theorem toNumber?_eq_none_iff : ∀ (e : Expr) {v : Value}, e.eval c = .ok v → (v.toNumber? = none ↔ e.SpineNull c)
  | literal _, _, h => by rw [spineNull_of_not_arithmetic rfl rfl, unread_iff h]
  | field _, _, h => by rw [spineNull_of_not_arithmetic rfl rfl, unread_iff h]
  | call _ _, _, h => by rw [spineNull_of_not_arithmetic rfl rfl, unread_iff h]
  | binary l op r, v, h => by
    cases hop : op.isArithmetic with
    | false =>
      have hleaves : (binary l op r).spineLeaves = [binary l op r] := by simp [spineLeaves, hop]
      have hdivisors : (binary l op r).spineDivisors = [] := by simp [spineDivisors, hop]
      rw [spineNull_of_not_arithmetic hleaves hdivisors, unread_iff h]
    | true =>
      obtain ⟨a, b, ha, hb, rfl⟩ := eval_binary_eq_ok_iff.1 h
      rw [spineNull_binary hop, Operator.toNumber?_apply_eq_none_iff hop, toNumber?_eq_none_iff l ha,
        toNumber?_eq_none_iff r hb, readsZero_iff hb]

/-- **Null in arithmetic**: a tree with an arithmetic operator at its root has a number for its value or null, and null
just when a subtree below its arithmetic spine has no reading as a number, or the right operand of a division or
remainder on the spine reads as a zero of either sign. Trees with another operator at the root have truth values. -/
theorem null_in_arithmetic {c : Context} {l r : Expr} {op : Operator} {v : Value}
    (h : (binary l op r).eval c = .ok v) :
    (op.isArithmetic = true → (v = .null ∨ ∃ x, v = .number x) ∧
      (v = .null ↔ (∃ leaf ∈ (binary l op r).spineLeaves, leaf.Unread c) ∨
        ∃ d ∈ (binary l op r).spineDivisors, d.ReadsZero c)) ∧
    (op.isArithmetic = false → ∃ b, v = .boolean b) := by
  obtain ⟨a, b, -, -, hv⟩ := eval_binary_eq_ok_iff.1 h
  constructor
  · intro hop
    have hcases : v = .null ∨ ∃ x, v = .number x := hv ▸ Operator.apply_cases hop a b
    exact ⟨hcases, (Value.eq_null_iff_toNumber?_eq_none hcases).trans (toNumber?_eq_none_iff _ h)⟩
  · intro hop
    exact hv ▸ Operator.exists_apply_eq_boolean hop a b

/-- In `a + a / b` every operand has a reading, and that of the divisor is a zero. -/
theorem null_in_arithmetic_zero_divisor :
    let c := Context.ofList [("a", .boolean true), ("b", .number (.zero true))]
    let e := binary (fieldOf "a") .add (binary (fieldOf "a") .div (fieldOf "b"))
    e.eval c = .ok .null ∧ e.spineLeaves = [fieldOf "a", fieldOf "a", fieldOf "b"] ∧
      e.spineDivisors = [fieldOf "b"] ∧
      ((∃ leaf ∈ e.spineLeaves, leaf.Unread c) ∨ ∃ d ∈ e.spineDivisors, d.ReadsZero c) := by
  intro c e
  have h : e.eval c = .ok .null := rfl
  exact ⟨h, rfl, rfl, ((null_in_arithmetic h).1 rfl).2.1 rfl⟩

end Expr
end Formula
