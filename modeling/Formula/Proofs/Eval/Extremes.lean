import Formula.Proofs.Binary64.Order
import Formula.Proofs.Eval.Aggregates
import Formula.Proofs.Eval.Alike

/-!
# The least and the greatest argument

* `IsExtreme` : what it is for a value to bound the readings of a list in a comparison, and to be one of them.
* `Builtin.isExtreme_reduce?` : folding with the smaller, or the greater, of two numbers gives such a value.
* `Builtin.reduce?_perm` : in which order the arguments stand shows in the sign of a zero at most.
* `Expr.min_and_max_are_bounds` : what `min` and `max` are, and that the comparison operators say so.
-/

namespace Formula

open Binary64 (Picks IsFirst)

/-- The value bounds the readings of the arguments in the comparison, and is one of them: null where there are none, and
a NaN only where there is nothing else. -/
structure IsExtreme (op : Operator) (args : List Value) (v : Value) : Prop where
  eq_null_iff : v = .null ↔ ∀ a ∈ args, a.toNumber? = none
  eq_nan_iff : v = .number .nan ↔
    (∃ a ∈ args, a.toNumber? ≠ none) ∧ ∀ a ∈ args, ∀ x, a.toNumber? = some x → x = .nan
  reading : v ≠ .null → ∃ a ∈ args, ∃ x, a.toNumber? = some x ∧ v = .number x
  bound : ∀ a ∈ args, ∀ x, a.toNumber? = some x → x ≠ .nan → op.apply v a = .boolean true

namespace Builtin

variable {args args' : List Value} {x : Binary64} {before : Binary64 → Binary64 → Bool}
  {f : Binary64 → Binary64 → Binary64} {op : Operator}

theorem mem_numbers : x ∈ numbers args ↔ ∃ a ∈ args, a.toNumber? = some x := List.mem_filterMap

theorem numbers_eq_nil_iff : numbers args = [] ↔ ∀ a ∈ args, a.toNumber? = none := List.filterMap_eq_nil_iff

/-- A list folds to what comes first of it, and the empty one to nothing. -/
theorem reduce?_cases (h : Picks before f) (xs : List Binary64) :
    xs = [] ∧ reduce? f xs = none ∨ ∃ m, reduce? f xs = some m ∧ IsFirst before xs m := by
  cases xs with
  | nil => exact .inl ⟨rfl, rfl⟩
  | cons x xs => exact .inr ⟨_, rfl, h.isFirst_foldl x xs⟩

theorem compares_eq_boolean {v w : Value} {x y : Binary64} (hv : v.toNumber? = some x) (hw : w.toNumber? = some y) :
    Operator.compares before v w = .boolean (before x y) := by
  simp only [Operator.compares, hv, hw]

/-- **The first of the readings** bounds the arguments. -/
theorem isExtreme_number {m : Binary64} (hop : op.apply = Operator.compares before)
    (hm : IsFirst before (numbers args) m) : IsExtreme op args (.number m) := by
  obtain ⟨a, ha, hread⟩ := mem_numbers.1 hm.mem
  constructor
  case eq_null_iff =>
    refine iff_of_false nofun fun hnone => ?_
    rw [hnone a ha] at hread
    cases hread
  case eq_nan_iff =>
    have hsome : ∃ a ∈ args, a.toNumber? ≠ none := ⟨a, ha, by simp [hread]⟩
    rw [and_iff_right hsome, Value.number.injEq, ← Binary64.isNaN_iff, hm.isNaN_eq, List.all_eq_true]
    simp only [Binary64.isNaN_iff, mem_numbers]
    exact ⟨fun hall b hb y hy => hall y ⟨b, hb, hy⟩, fun hall y ⟨b, hb, hy⟩ => hall b hb y hy⟩
  case reading => exact fun _ => ⟨a, ha, m, hread, rfl⟩
  case bound =>
    intro b hb y hy hnumber
    rw [hop, compares_eq_boolean rfl hy]
    exact congrArg _ (hm.first y (mem_numbers.2 ⟨b, hb, hy⟩) (Binary64.isNaN_eq_false_iff.2 hnumber))

/-- Null bounds arguments without readings. -/
theorem isExtreme_null (h : ∀ a ∈ args, a.toNumber? = none) : IsExtreme op args .null := by
  constructor
  case eq_null_iff => exact iff_of_true rfl h
  case eq_nan_iff => exact iff_of_false nofun fun ⟨⟨a, ha, hread⟩, _⟩ => hread (h a ha)
  case reading => exact fun hnull => absurd rfl hnull
  case bound =>
    intro a ha x hx
    rw [h a ha] at hx
    cases hx

/-- **What the readings fold to** bounds the arguments. -/
theorem isExtreme_reduce? (h : Picks before f) (hop : op.apply = Operator.compares before) (args : List Value) :
    IsExtreme op args (numberOrNull (reduce? f (numbers args))) := by
  rcases reduce?_cases h (numbers args) with ⟨hnil, hnone⟩ | ⟨m, hm, hfirst⟩
  · rw [hnone]
    exact isExtreme_null (numbers_eq_nil_iff.1 hnil)
  · rw [hm]
    exact isExtreme_number hop hfirst

/-- **In another order** the readings fold to the same number, up to the sign of zero. -/
theorem reduce?_perm (h : Picks before f) (hargs : args.Perm args') :
    (numberOrNull (reduce? f (numbers args))).Alike (numberOrNull (reduce? f (numbers args'))) := by
  have hnumbers : (numbers args).Perm (numbers args') := hargs.filterMap _
  rcases reduce?_cases h (numbers args) with ⟨hnil, hnone⟩ | ⟨m, hm, hfirst⟩
  · rw [hnil] at hnumbers
    rw [hnone, ← hnumbers.nil_eq]
    exact .same _
  · rcases reduce?_cases h (numbers args') with ⟨hnil, -⟩ | ⟨m', hm', hfirst'⟩
    · rw [hnil] at hnumbers
      rw [hnumbers.eq_nil] at hfirst
      cases hfirst.mem
    · rw [hm, hm']
      exact .number (IsFirst.alike h hnumbers hfirst hfirst')

end Builtin

/-! ## The functions -/

namespace Expr

/-- **The least and the greatest argument**: whatever the arguments are, `min` gives a value that is at most, and `max`
one that is at least, every reading but NaN, as the comparison operators see it, and that value is one of the readings;
it is null only when there are none, and NaN only when there are no others. In another order the arguments give the same
value up to the sign of zero. -/
theorem min_and_max_are_bounds {f : Builtin} {op : Operator} (h : f = .min ∧ op = .le ∨ f = .max ∧ op = .ge) :
    (∀ args, ∃ v, callBuiltin f.name args = .ok v ∧ IsExtreme op args v) ∧
    (∀ (c : Context) (es : List Expr), (∀ e ∈ es, ∃ v, e.eval c = .ok v) → ∀ e ∈ es, ∀ a x, e.eval c = .ok a →
      a.toNumber? = some x → x ≠ .nan → (binary (call f.name es) op e).eval c = .ok (.boolean true)) ∧
    ∀ args args' : List Value, args.Perm args' →
      ∃ v v', callBuiltin f.name args = .ok v ∧ callBuiltin f.name args' = .ok v' ∧ v.Alike v' := by
  have hextreme (args : List Value) : IsExtreme op args (f.apply args) := by
    rcases h with ⟨rfl, rfl⟩ | ⟨rfl, rfl⟩
    · exact Builtin.isExtreme_reduce? Binary64.picks_min rfl args
    · exact Builtin.isExtreme_reduce? Binary64.picks_max rfl args
  refine ⟨fun args => ⟨_, callBuiltin_name f args, hextreme args⟩, fun c es hes e he a x ha hx hnumber => ?_,
    fun args args' hargs => ⟨_, _, callBuiltin_name f args, callBuiltin_name f args', ?_⟩⟩
  · obtain ⟨vs, hvs⟩ := exists_evalAll_eq_ok hes
    have hmem : a ∈ vs := by simpa using (exists_value_iff (· = a) hvs).1 ⟨e, he, a, ha, rfl⟩
    refine eval_binary_eq_ok_iff.2 ⟨_, a, eval_call f hvs, ha, ?_⟩
    exact (hextreme vs).bound a hmem x hx hnumber
  · rcases h with ⟨rfl, rfl⟩ | ⟨rfl, rfl⟩
    · exact Builtin.reduce?_perm Binary64.picks_min hargs
    · exact Builtin.reduce?_perm Binary64.picks_max hargs

/-- The least of `"2"`, NaN, null and `true` is the reading of the last. -/
theorem min_and_max_are_bounds_mixed :
    let args := [Value.string "2", .number .nan, .null, .boolean true]
    let es := args.map literal
    (Builtin.min = .min ∧ Operator.le = .le ∨ Builtin.min = .max ∧ Operator.le = .ge) ∧
      callBuiltin "min" args = .ok (.number (.ofNat 1)) ∧ IsExtreme .le args (.number (.ofNat 1)) ∧
      (binary (call "min" es) .le (literal (.string "2"))).eval .empty = .ok (.boolean true) := by
  intro args es
  have hmin : Builtin.min = .min ∧ Operator.le = .le ∨ Builtin.min = .max ∧ Operator.le = .ge := .inl ⟨rfl, rfl⟩
  obtain ⟨hextreme, hcompares, -⟩ := min_and_max_are_bounds hmin
  have hvalue : callBuiltin "min" args = .ok (.number (.ofNat 1)) := by decide +kernel
  obtain ⟨v, hv, hbound⟩ := hextreme args
  rw [← Except.ok.inj (hv.symm.trans hvalue)]
  refine ⟨hmin, hv, hbound, hcompares .empty es ?_ _ List.mem_cons_self _ (.ofNat 2) rfl ?_ ?_⟩
  · intro e he
    obtain ⟨v, -, rfl⟩ := List.mem_map.1 he
    exact ⟨v, rfl⟩
  · decide +kernel
  · decide +kernel

end Expr
end Formula
