import Formula.Eval
import Formula.Proofs.Binary64.Alike
import Mathlib.Data.List.Forall2

/-!
# Equality is a congruence

Formulas take the two zeros for equal, and nothing that a formula computes tells them apart: the divisor of a quotient
is checked first, and everything else goes by the place of a number or by its magnitude.

* `Value.Alike`, `Context.Alike` : the values, and the contexts, that differ in the signs of zeros at most.
* `Operator.apply_alike`, `Builtin.apply_alike` : operators and functions make alike values of alike operands.
* `equality_is_congruence` : a tree has alike values, or the same error, in alike contexts.
-/

namespace Formula

open Relator

/-! ## Values -/

/-- The values are identical, or they are alike numbers. -/
inductive Value.Alike : Value → Value → Prop
  | same (v : Value) : Alike v v
  | number {x y : Binary64} (h : x.Alike y) : Alike (number x) (number y)

namespace Value.Alike

variable {v v' w w' : Value}

theorem toNumber? (h : v.Alike v') : Option.Rel Binary64.Alike v.toNumber? v'.toNumber? := by
  cases h with
  | number h => exact .some h
  | same =>
    cases v.toNumber? with
    | none => exact .none
    | some x => exact .some (.refl x)

theorem of_eq (h : v = v') : v.Alike v' := h ▸ .same v

theorem isNull_eq (h : v.Alike v') : v.isNull = v'.isNull := by
  cases h with
  | same => rfl
  | number => rfl

theorem isTruthy_eq (h : v.Alike v') : v.isTruthy = v'.isTruthy := by
  cases h with
  | same => rfl
  | number h => rw [isTruthy, isTruthy, h.isZero_eq, h.isNaN_eq]

theorem same_eq (hv : v.Alike v') (hw : w.Alike w') : v.same w = v'.same w' := by
  have hleft (w : Value) : v.same w = v'.same w := by
    cases hv with
    | same => rfl
    | number h =>
      cases w with
      | number y => exact h.related_eq _ (.refl y)
      | _ => rfl
  have hright : v'.same w = v'.same w' := by
    cases hw with
    | same => rfl
    | number h =>
      cases v' with
      | number x => exact (Binary64.Alike.refl x).related_eq _ h
      | _ => rfl
  rw [hleft, hright]

end Value.Alike

theorem Builtin.numberOrNull_alike {o o' : Option Binary64} (h : Option.Rel Binary64.Alike o o') :
    (numberOrNull o).Alike (numberOrNull o') := by
  cases h with
  | none => exact .same _
  | some h => exact .number h

/-! ## Operators -/

namespace Operator

variable {v v' w w' : Value}

theorem arithmetic_alike {f : Binary64 → Binary64 → Option Binary64}
    (hf : ∀ {x x' y y' : Binary64}, x.Alike x' → y.Alike y' → Option.Rel Binary64.Alike (f x y) (f x' y'))
    (hv : v.Alike v') (hw : w.Alike w') : (arithmetic f v w).Alike (arithmetic f v' w') := by
  unfold arithmetic
  match v.toNumber?, v'.toNumber?, hv.toNumber?, w.toNumber?, w'.toNumber?, hw.toNumber? with
  | _, _, .some hx, _, _, .some hy => exact Builtin.numberOrNull_alike (hf hx hy)
  | _, _, .none, _, _, _ => exact .same _
  | _, _, .some _, _, _, .none => exact .same _

/-- **The guard hides the sign of a divisor**: of alike divisors both are zeros, or they are the same. -/
theorem guarded_alike {f : Binary64 → Binary64 → Binary64}
    (hf : ∀ {x x' : Binary64}, x.Alike x' → ∀ y, (f x y).Alike (f x' y)) {x x' y y' : Binary64} (hx : x.Alike x')
    (hy : y.Alike y') : Option.Rel Binary64.Alike (guarded f x y) (guarded f x' y') := by
  rw [guarded, guarded, hy.isZero_eq]
  split
  · exact .none
  · rename_i hzero
    obtain rfl | ⟨a, b, rfl, rfl⟩ := hy.eq_or_zeros
    · exact .some (hf hx y)
    · exact absurd rfl hzero

theorem compares_eq {r : Binary64 → Binary64 → Bool}
    (hr : ∀ {x x' y y' : Binary64}, x.Alike x' → y.Alike y' → r x y = r x' y') (hv : v.Alike v') (hw : w.Alike w') :
    compares r v w = compares r v' w' := by
  unfold compares
  match v.toNumber?, v'.toNumber?, hv.toNumber?, w.toNumber?, w'.toNumber?, hw.toNumber? with
  | _, _, .some hx, _, _, .some hy => exact congrArg Value.boolean (hr hx hy)
  | _, _, .none, _, _, _ => rfl
  | _, _, .some _, _, _, .none => rfl

/-- **An operator makes alike values of alike operands.** -/
theorem apply_alike (op : Operator) (hv : v.Alike v') (hw : w.Alike w') : (op.apply v w).Alike (op.apply v' w') := by
  cases op with
  | add => exact arithmetic_alike (fun hx hy => .some (hx.add hy)) hv hw
  | sub => exact arithmetic_alike (fun hx hy => .some (hx.sub hy)) hv hw
  | mul => exact arithmetic_alike (fun hx hy => .some (hx.mul hy)) hv hw
  | div => exact arithmetic_alike (guarded_alike fun hx => hx.div) hv hw
  | mod => exact arithmetic_alike (guarded_alike fun hx => hx.rem) hv hw
  | eq => exact .of_eq (congrArg Value.boolean (hv.same_eq hw))
  | ne => exact .of_eq (congrArg (fun b => Value.boolean !b) (hv.same_eq hw))
  | lt => exact .of_eq (compares_eq (fun hx hy => hx.related_eq _ hy) hv hw)
  | gt => exact .of_eq (compares_eq (fun hx hy => hy.related_eq _ hx) hv hw)
  | le => exact .of_eq (compares_eq (fun hx hy => hx.related_eq _ hy) hv hw)
  | ge => exact .of_eq (compares_eq (fun hx hy => hy.related_eq _ hx) hv hw)
  | and => exact .of_eq (by rw [apply, apply, hv.isTruthy_eq, hw.isTruthy_eq])
  | or => exact .of_eq (by rw [apply, apply, hv.isTruthy_eq, hw.isTruthy_eq])

end Operator

/-! ## Functions -/

namespace Builtin

variable {args args' : List Value} {xs xs' : List Binary64}

theorem digits_eq {x x' : Binary64} (h : x.Alike x') : digits x = digits x' := by
  refine h.eq_of_zeros fun a b => ?_
  cases a <;> cases b <;> decide +kernel

theorem roundTo_alike (decimals : Nat) {x x' : Binary64} (h : x.Alike x') :
    (roundTo decimals x).Alike (roundTo decimals x') := by
  have hscaled := h.mul (.refl (Binary64.ofNat (10 ^ decimals)))
  simp only [roundTo, hscaled.isFinite_eq]
  exact .select _ h.roundEven (.select _ (hscaled.roundEven.div _) h)

theorem firstNumber?_alike (h : List.Forall₂ Value.Alike args args') :
    Option.Rel Binary64.Alike (firstNumber? args) (firstNumber? args') := by
  cases h with
  | nil => exact .none
  | cons hv _ => exact hv.toNumber?

theorem secondNumber?_alike (h : List.Forall₂ Value.Alike args args') :
    Option.Rel Binary64.Alike (secondNumber? args) (secondNumber? args') := by
  cases h with
  | nil => exact .none
  | cons _ h => exact firstNumber?_alike h

/-- A function of the first argument makes alike values of alike arguments. -/
theorem map_firstNumber?_alike {f : Binary64 → Binary64} (hf : ∀ {x x' : Binary64}, x.Alike x' → (f x).Alike (f x'))
    (h : List.Forall₂ Value.Alike args args') :
    (numberOrNull ((firstNumber? args).map f)).Alike (numberOrNull ((firstNumber? args').map f)) := by
  refine numberOrNull_alike ?_
  match firstNumber? args, firstNumber? args', firstNumber?_alike h with
  | _, _, .none => exact .none
  | _, _, .some hx => exact .some (hf hx)

theorem numbers_alike (h : List.Forall₂ Value.Alike args args') :
    List.Forall₂ Binary64.Alike (numbers args) (numbers args') :=
  List.rel_filterMap (fun _ _ hv => hv.toNumber?) h

theorem total_alike (h : List.Forall₂ Binary64.Alike xs xs') : (total xs).Alike (total xs') :=
  List.rel_foldl (fun _ _ hx _ _ hy => hx.add hy) (.refl _) h

theorem reduce?_alike {f : Binary64 → Binary64 → Binary64}
    (hf : ∀ {x x' y y' : Binary64}, x.Alike x' → y.Alike y' → (f x y).Alike (f x' y'))
    (h : List.Forall₂ Binary64.Alike xs xs') : Option.Rel Binary64.Alike (reduce? f xs) (reduce? f xs') := by
  have hstep : (Binary64.Alike ⇒ Binary64.Alike ⇒ Binary64.Alike) f f := fun _ _ hx _ _ hy => hf hx hy
  cases h with
  | nil => exact .none
  | cons hx hxs => exact .some (List.rel_foldl hstep hx hxs)

theorem average?_alike (h : List.Forall₂ Binary64.Alike xs xs') :
    Option.Rel Binary64.Alike (average? xs) (average? xs') := by
  have htotal := total_alike h
  unfold average?
  rw [h.length_eq]
  cases h with
  | nil => exact .none
  | cons => exact .some (htotal.div _)

theorem countP_not_isNull_eq (h : List.Forall₂ Value.Alike args args') :
    (args.countP fun v => !v.isNull) = args'.countP fun v => !v.isNull := by
  induction h with
  | nil => rfl
  | cons hv _ ih => rw [List.countP_cons, List.countP_cons, ih, hv.isNull_eq]

/-- **A function makes alike values of alike arguments.** -/
theorem apply_alike (f : Builtin) (h : List.Forall₂ Value.Alike args args') : (f.apply args).Alike (f.apply args') := by
  cases f with
  | round =>
    have hdecimals : (secondNumber? args).elim 0 digits = (secondNumber? args').elim 0 digits := by
      match secondNumber? args, secondNumber? args', secondNumber?_alike h with
      | _, _, .none => rfl
      | _, _, .some hx => exact digits_eq hx
    rw [apply, apply, hdecimals]
    exact map_firstNumber?_alike (roundTo_alike _) h
  | abs => exact map_firstNumber?_alike Binary64.Alike.abs h
  | ceil => exact map_firstNumber?_alike Binary64.Alike.ceil h
  | floor => exact map_firstNumber?_alike Binary64.Alike.floor h
  | min => exact numberOrNull_alike (reduce?_alike Binary64.Alike.min (numbers_alike h))
  | max => exact numberOrNull_alike (reduce?_alike Binary64.Alike.max (numbers_alike h))
  | sum => exact .number (total_alike (numbers_alike h))
  | avg => exact numberOrNull_alike (average?_alike (numbers_alike h))
  | count =>
    rw [apply, apply, countP_not_isNull_eq h]
    exact .same _

end Builtin

/-! ## Contexts -/

/-- The contexts have the same keys, and alike values under them. -/
def Context.Alike (c c' : Context) : Prop := ∀ key, Option.Rel Value.Alike (c.get? key) (c'.get? key)

namespace Context.Alike

variable {c c' : Context}

theorem refl (c : Context) : c.Alike c := by
  intro key
  cases c.get? key with
  | none => exact .none
  | some v => exact .some (.same v)

theorem set {v v' : Value} (h : c.Alike c') (key : String) (hv : v.Alike v') : (c.set key v).Alike (c'.set key v') := by
  intro other
  by_cases heq : other = key
  · rw [heq, get?_set_self, get?_set_self]
    exact .some hv
  · rw [get?_set_ne c v heq, get?_set_ne c' v' heq]
    exact h other

theorem resolve (h : c.Alike c') (f : Field) : (c.resolve f).Alike (c'.resolve f) := by
  have hkey : Option.Rel Value.Alike (if f.global then c.get? f.key else none)
      (if f.global then c'.get? f.key else none) := by
    split
    · exact h f.key
    · exact .none
  unfold Context.resolve
  generalize (if f.global then c.get? f.key else none) = o at hkey ⊢
  generalize (if f.global then c'.get? f.key else none) = o' at hkey ⊢
  cases hkey with
  | some hv => exact hv
  | none =>
    match c.get? f.name, c'.get? f.name, h f.name with
    | _, _, .some hv => exact hv
    | _, _, .none => exact .same _

end Context.Alike

/-! ## Expressions -/

/-- Evaluations that fail with the same error, or that give results in the relation. -/
inductive SameOutcome {α : Type} (r : α → α → Prop) : Except EvalError α → Except EvalError α → Prop
  | ok {a b : α} (h : r a b) : SameOutcome r (.ok a) (.ok b)
  | error (x : EvalError) : SameOutcome r (.error x) (.error x)

theorem callBuiltin_alike (name : String) {args args' : List Value} (h : List.Forall₂ Value.Alike args args') :
    SameOutcome Value.Alike (callBuiltin name args) (callBuiltin name args') := by
  unfold callBuiltin
  cases Builtin.ofName? name with
  | none => exact .error _
  | some f => exact .ok (f.apply_alike h)

namespace Expr

variable {c c' : Context}

mutual

/-- **A tree has alike values**, or fails with the same error, in alike contexts. -/
theorem eval_alike (h : c.Alike c') : ∀ e : Expr, SameOutcome Value.Alike (e.eval c) (e.eval c')
  | literal v => .ok (.same v)
  | field f => .ok (h.resolve f)
  | binary l op r => by
    rw [eval, eval]
    match eval c l, eval c' l, eval_alike h l with
    | _, _, .error x => exact .error x
    | _, _, .ok hv =>
      match eval c r, eval c' r, eval_alike h r with
      | _, _, .error x => exact .error x
      | _, _, .ok hw => exact .ok (op.apply_alike hv hw)
  | call name args => by
    rw [eval, eval]
    match evalAll c args, evalAll c' args, evalAll_alike h args with
    | _, _, .error x => exact .error x
    | _, _, .ok hvs => exact callBuiltin_alike name hvs

theorem evalAll_alike (h : c.Alike c') : ∀ es : List Expr,
    SameOutcome (List.Forall₂ Value.Alike) (evalAll c es) (evalAll c' es)
  | [] => .ok .nil
  | e :: es => by
    rw [evalAll, evalAll]
    match eval c e, eval c' e, eval_alike h e with
    | _, _, .error x => exact .error x
    | _, _, .ok hv =>
      match evalAll c es, evalAll c' es, evalAll_alike h es with
      | _, _, .error x => exact .error x
      | _, _, .ok hvs => exact .ok (.cons hv hvs)

end

/-- **Equality is a congruence of the language**: in contexts that differ in the signs of zeros at most, every tree has
values that differ in no more, or fails with the same error; for no operator, no function and no test for truth makes
more of such a difference. -/
theorem equality_is_congruence :
    (∀ (e : Expr) (c c' : Context), c.Alike c' → SameOutcome Value.Alike (e.eval c) (e.eval c')) ∧
    (∀ (op : Operator) (v v' w w' : Value), v.Alike v' → w.Alike w' → (op.apply v w).Alike (op.apply v' w')) ∧
    (∀ (f : Builtin) (args args' : List Value), List.Forall₂ Value.Alike args args' →
      (f.apply args).Alike (f.apply args')) ∧
    ∀ v v' : Value, v.Alike v' → v.isTruthy = v'.isTruthy :=
  ⟨fun e _ _ h => eval_alike h e, fun op _ _ _ _ hv hw => op.apply_alike hv hw, fun f _ _ h => f.apply_alike h,
    fun _ _ h => h.isTruthy_eq⟩

/-- The product `a * true`, whose zero has the sign of the field `a`. -/
theorem equality_is_congruence_signed_zero :
    let c (negative : Bool) := Context.empty.set "a" (.number (.zero negative))
    let e := binary (fieldOf "a") .mul (literal (.boolean true))
    (c false).Alike (c true) ∧ SameOutcome Value.Alike (e.eval (c false)) (e.eval (c true)) ∧
      e.eval (c false) = .ok (.number (.zero false)) ∧ e.eval (c true) = .ok (.number (.zero true)) := by
  intro c e
  have halike : (c false).Alike (c true) := (Context.Alike.refl _).set "a" (.number (Binary64.alike_zero false true))
  exact ⟨halike, equality_is_congruence.1 e _ _ halike, by decide +kernel⟩

/-- The reciprocals of both zeros are null. -/
example : Operator.div.apply (.boolean true) (.number (.zero false)) = .null ∧
    Operator.div.apply (.boolean true) (.number (.zero true)) = .null := ⟨rfl, rfl⟩

end Expr
end Formula
