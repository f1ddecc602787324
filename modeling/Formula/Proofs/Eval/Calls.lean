import Formula.Eval
import Formula.Proofs.Parse.Leaves

/-!
# When an evaluation fails

Nothing but a call of an unknown function fails, and every part of a tree is evaluated; so a tree fails in all contexts
or in none, with the first unknown function in the order of evaluation.

* `Expr.callOrder` : the names of the calls in the order of their evaluation.
* `fault?_eval` : the fault of an evaluation, read off that order.
* `eval_fails_by_tree` : which trees fail, and with what.
-/

namespace Formula

/-! ## The table of names -/

namespace Builtin

theorem names_eq : names = all.map name := rfl

theorem ofName?_eq_some {s : String} {f : Builtin} : ofName? s = some f ↔ f.name = s := by
  constructor
  · intro h
    unfold ofName? at h
    split at h <;> first | cases h; rfl | cases h
  · rintro rfl
    cases f <;> rfl

/-- **The table and the calls agree** on every name. -/
theorem isKnown_eq (s : String) : isKnown s = (ofName? s).isSome := by
  rw [Bool.eq_iff_iff, isKnown, List.contains_iff_mem, names_eq, List.mem_map, Option.isSome_iff_exists]
  simp only [ofName?_eq_some]
  exact exists_congr fun f => and_iff_right (by cases f <;> decide)

end Builtin

/-! ## The order of evaluation -/

namespace Expr

mutual

/-- The names of the calls in a tree in the order of their evaluation: those in the left operand come before those in
the right one, and those in the arguments, from left to right, before the call itself. -/
def callOrder : Expr → List String
  | literal _ => []
  | field _ => []
  | binary l _ r => callOrder l ++ callOrder r
  | call name args => callOrderAll args ++ [name]

/-- The names of the calls in a list of trees in the order of their evaluation. -/
def callOrderAll : List Expr → List String
  | [] => []
  | e :: es => callOrder e ++ callOrderAll es

end

mutual

/-- The order has all the calls of the tree. -/
theorem callOrder_perm : ∀ e : Expr, e.callOrder.Perm e.callNames
  | literal _ => .refl _
  | field _ => .refl _
  | binary l _ r => (callOrder_perm l).append (callOrder_perm r)
  | call name args => (List.perm_append_singleton ..).trans ((callOrderAll_perm args).cons name)

theorem callOrderAll_perm : ∀ es : List Expr, (callOrderAll es).Perm (callNamesAll es)
  | [] => .refl _
  | e :: es => (callOrder_perm e).append (callOrderAll_perm es)

end

end Expr

/-! ## Faults -/

/-- What an evaluation fails with. -/
def fault? {α : Type} : Except EvalError α → Option EvalError
  | .ok _ => none
  | .error x => some x

theorem fault?_eq_some {α : Type} {r : Except EvalError α} {x : EvalError} : fault? r = some x ↔ r = .error x := by
  cases r <;> simp [fault?]

theorem fault?_eq_none {α : Type} {r : Except EvalError α} : fault? r = none ↔ ∃ v, r = .ok v := by
  cases r <;> simp [fault?]

/-- The first name that is not that of a built-in function. -/
def firstUnknown? (names : List String) : Option String := names.find? fun name => !Builtin.isKnown name

theorem firstUnknown?_append (names more : List String) :
    firstUnknown? (names ++ more) = (firstUnknown? names).or (firstUnknown? more) := List.find?_append

theorem firstUnknown?_eq_some {names : List String} {name : String} : firstUnknown? names = some name ↔
    ∃ before after, names = before ++ name :: after ∧ (∀ earlier ∈ before, Builtin.isKnown earlier = true) ∧
      Builtin.isKnown name = false := by
  simp only [firstUnknown?, List.find?_eq_some_iff_append, Bool.not_not, Bool.not_eq_true']
  exact ⟨fun ⟨hname, before, after, happend, hbefore⟩ => ⟨before, after, happend, hbefore, hname⟩,
    fun ⟨before, after, happend, hbefore, hname⟩ => ⟨hname, before, after, happend, hbefore⟩⟩

theorem exists_firstUnknown?_iff {names : List String} :
    (∃ name, firstUnknown? names = some name) ↔ ∃ name ∈ names, Builtin.isKnown name = false := by
  rw [← Option.isSome_iff_exists, firstUnknown?, List.find?_isSome]
  simp

/-- A call fails only for want of its function. -/
theorem fault?_callBuiltin (name : String) (args : List Value) :
    fault? (callBuiltin name args) = (firstUnknown? [name]).map .unknownFunction := by
  rw [callBuiltin, firstUnknown?, List.find?_singleton, Builtin.isKnown_eq]
  cases Builtin.ofName? name <;> rfl

namespace Expr

mutual

/-- **The fault of an evaluation** is the first unknown function in its order. -/
theorem fault?_eval (c : Context) : ∀ e : Expr,
    fault? (e.eval c) = (firstUnknown? e.callOrder).map .unknownFunction
  | literal _ => rfl
  | field _ => rfl
  | binary l op r => by
    rw [callOrder, firstUnknown?_append, Option.map_or, ← fault?_eval c l, ← fault?_eval c r, eval]
    cases eval c l with
    | error x => rfl
    | ok v => cases eval c r <;> rfl
  | call name args => by
    rw [callOrder, firstUnknown?_append, Option.map_or, ← fault?_evalAll c args, eval]
    cases evalAll c args with
    | error x => rfl
    | ok vs => exact fault?_callBuiltin name vs

theorem fault?_evalAll (c : Context) : ∀ es : List Expr,
    fault? (evalAll c es) = (firstUnknown? (callOrderAll es)).map .unknownFunction
  | [] => rfl
  | e :: es => by
    rw [callOrderAll, firstUnknown?_append, Option.map_or, ← fault?_eval c e, ← fault?_evalAll c es, evalAll]
    cases eval c e with
    | error x => rfl
    | ok v => cases evalAll c es <;> rfl

end

theorem eval_eq_error_iff {c : Context} {e : Expr} {x : EvalError} :
    e.eval c = .error x ↔ ∃ name, firstUnknown? e.callOrder = some name ∧ .unknownFunction name = x := by
  rw [← fault?_eq_some, fault?_eval, Option.map_eq_some_iff]

/-- An evaluation fails when a call of the tree, wherever it stands, has an unknown name. -/
theorem exists_eval_eq_error_iff {c : Context} {e : Expr} :
    (∃ x, e.eval c = .error x) ↔ ∃ name ∈ e.callNames, Builtin.isKnown name = false := by
  simp only [eval_eq_error_iff, ← e.callOrder_perm.mem_iff, ← exists_firstUnknown?_iff]
  exact ⟨fun ⟨_, name, hname, _⟩ => ⟨name, hname⟩, fun ⟨name, hname⟩ => ⟨_, name, hname, rfl⟩⟩

/-- **The tree alone decides** whether an evaluation fails, and with what: it fails when a call of the tree has an
unknown name, and the first of these in the order of evaluation is the one that the error names. -/
theorem eval_fails_by_tree (e : Expr) (c : Context) :
    ((∃ x, e.eval c = .error x) ↔ ∃ name ∈ e.callNames, Builtin.isKnown name = false) ∧
      (∀ x, e.eval c = .error x ↔ ∃ before name after, e.callOrder = before ++ name :: after ∧
        (∀ earlier ∈ before, Builtin.isKnown earlier = true) ∧ Builtin.isKnown name = false ∧
        x = .unknownFunction name) ∧
      ∀ c', (∃ v, e.eval c = .ok v) ↔ ∃ v, e.eval c' = .ok v := by
  refine ⟨exists_eval_eq_error_iff, fun x => ?_, fun c' => ?_⟩
  · rw [eval_eq_error_iff]
    constructor
    · rintro ⟨name, hname, rfl⟩
      obtain ⟨before, after, happend, hbefore, hunknown⟩ := firstUnknown?_eq_some.1 hname
      exact ⟨before, name, after, happend, hbefore, hunknown, rfl⟩
    · rintro ⟨before, name, after, happend, hbefore, hunknown, rfl⟩
      exact ⟨name, firstUnknown?_eq_some.2 ⟨before, after, happend, hbefore, hunknown⟩, rfl⟩
  · rw [← fault?_eq_none, ← fault?_eq_none, fault?_eval, fault?_eval]

/-- In `false && f(g())` the right operand is evaluated, and in it the argument first. -/
example : (binary (literal (.boolean false)) .and (call "f" [call "g" []])).eval .empty =
    .error (.unknownFunction "g") := rfl

end Expr
end Formula
