import Formula.Proofs.Binary64.Signs
import Formula.Proofs.Eval.Spine
import Mathlib.Data.List.Forall2

/-!
# Sums, averages and counts

A sum starts from a zero that every number absorbs, so it is what a chain of additions comes to, except that the chain
is null as soon as one of its operands has no reading and the sum passes that operand over.

* `Interspersed` : a list with more elements put in anywhere.
* `Expr.evalAll_eq_ok_iff` : the values of a list of trees, one by one.
* `Operator.foldl_add`, `Operator.foldl_add_eq_null` : the numbers that a chain of additions adds.
* `Expr.sum_is_additions` : a sum and the chain of additions of the same operands.
* `Builtin.countP_eq_length_numbers`, `Builtin.numberOrNull_average?` : what is counted, and the average as a quotient.
* `Expr.aggregates_pass_over` : what the aggregates pass over, and the average as the sum over the count.
-/

namespace Formula

/-! ## More elements -/

/-- The second list is the first with more elements put in anywhere, all of one kind. -/
inductive Interspersed {α : Type} (extra : α → Prop) : List α → List α → Prop
  | nil : Interspersed extra [] []
  | keep (a : α) {as bs : List α} (h : Interspersed extra as bs) : Interspersed extra (a :: as) (a :: bs)
  | insert (b : α) (hb : extra b) {as bs : List α} (h : Interspersed extra as bs) : Interspersed extra as (b :: bs)

namespace Interspersed

variable {α β : Type} {extra : α → Prop} {as bs : List α}

theorem filterMap_eq {g : α → Option β} (hg : ∀ b, extra b → g b = none) (h : Interspersed extra as bs) :
    bs.filterMap g = as.filterMap g := by
  induction h with
  | nil => rfl
  | keep a h ih => rw [List.filterMap_cons, List.filterMap_cons, ih]
  | insert b hb h ih => rw [List.filterMap_cons_none (hg b hb), ih]

theorem countP_eq {p : α → Bool} (hp : ∀ b, extra b → p b = false) (h : Interspersed extra as bs) :
    bs.countP p = as.countP p := by
  induction h with
  | nil => rfl
  | keep a h ih => rw [List.countP_cons, List.countP_cons, ih]
  | insert b hb h ih => rw [List.countP_cons_of_neg (by simp [hp b hb]), ih]

end Interspersed

/-! ## Arguments -/

/-- A call by its name goes to the function. -/
theorem callBuiltin_name (f : Builtin) (args : List Value) : callBuiltin f.name args = .ok (f.apply args) := by
  cases f <;> rfl

namespace Expr

variable {c : Context} {e : Expr} {es rest : List Expr} {vs : List Value}

/-- **The values of a list** are those of its trees. -/
theorem evalAll_eq_ok_iff : evalAll c es = .ok vs ↔ List.Forall₂ (fun e v => e.eval c = .ok v) es vs := by
  induction es generalizing vs with
  | nil => simp [evalAll, eq_comm]
  | cons e es ih =>
    rw [evalAll, List.forall₂_cons_left_iff]
    simp only [← ih]
    cases e.eval c with
    | error x => simp
    | ok v => cases evalAll c es <;> simp [eq_comm]

theorem exists_evalAll_eq_ok (h : ∀ e ∈ es, ∃ v, e.eval c = .ok v) : ∃ vs, evalAll c es = .ok vs := by
  induction es with
  | nil => exact ⟨[], rfl⟩
  | cons e es ih =>
    obtain ⟨v, hv⟩ := h e List.mem_cons_self
    obtain ⟨vs, hvs⟩ := ih fun e' he' => h e' (List.mem_cons_of_mem _ he')
    exact ⟨v :: vs, evalAll_eq_ok_iff.2 (.cons hv (evalAll_eq_ok_iff.1 hvs))⟩

theorem exists_value_iff (p : Value → Prop) (h : evalAll c es = .ok vs) :
    (∃ e ∈ es, ∃ v, e.eval c = .ok v ∧ p v) ↔ ∃ v ∈ vs, p v := by
  rw [evalAll_eq_ok_iff] at h
  induction h with
  | nil => simp
  | cons hv _ ih => simp [ih, hv]

theorem exists_unread_iff (h : evalAll c es = .ok vs) : (∃ e ∈ es, e.Unread c) ↔ ∃ v ∈ vs, v.toNumber? = none :=
  exists_value_iff _ h

/-- The call of a built-in function has the value of the function at the values of the arguments. -/
theorem eval_call (f : Builtin) (h : evalAll c es = .ok vs) : (call f.name es).eval c = .ok (f.apply vs) := by
  rw [eval, h]
  exact callBuiltin_name f vs

/-- Trees without a reading that stand among others have values without a reading among theirs. -/
theorem exists_evalAll_interspersed (h : Interspersed (Unread c) rest es) (hvs : evalAll c es = .ok vs) :
    ∃ ws, evalAll c rest = .ok ws ∧ Interspersed (fun v => v.toNumber? = none) ws vs := by
  induction h generalizing vs with
  | nil =>
    cases hvs
    exact ⟨[], rfl, .nil⟩
  | keep e h ih =>
    obtain ⟨v, us, hv, hus, rfl⟩ := List.forall₂_cons_left_iff.1 (evalAll_eq_ok_iff.1 hvs)
    obtain ⟨ws, hws, hmore⟩ := ih (evalAll_eq_ok_iff.2 hus)
    exact ⟨v :: ws, evalAll_eq_ok_iff.2 (.cons hv (evalAll_eq_ok_iff.1 hws)), hmore.keep v⟩
  | insert e hunread h ih =>
    obtain ⟨v, us, hv, hus, rfl⟩ := List.forall₂_cons_left_iff.1 (evalAll_eq_ok_iff.1 hvs)
    obtain ⟨ws, hws, hmore⟩ := ih (evalAll_eq_ok_iff.2 hus)
    exact ⟨ws, hws, hmore.insert v ((unread_iff hv).1 hunread)⟩

end Expr

/-! ## Additions -/

namespace Operator

variable {v w : Value} {vs : List Value}

theorem add_apply_eq_number {x y : Binary64} (hv : v.toNumber? = some x) (hw : w.toNumber? = some y) :
    add.apply v w = .number (x.add y) := by
  simp only [apply, arithmetic, hv, hw, Builtin.numberOrNull]

/-- A chain of additions on top of a number adds the readings to it. -/
theorem foldl_add_number (x : Binary64) (h : ∀ u ∈ vs, u.toNumber? ≠ none) :
    vs.foldl add.apply (.number x) = .number ((Builtin.numbers vs).foldl Binary64.add x) := by
  induction vs generalizing x with
  | nil => rfl
  | cons w vs ih =>
    obtain ⟨y, hy⟩ := Option.ne_none_iff_exists'.1 (h w List.mem_cons_self)
    rw [List.foldl_cons, add_apply_eq_number rfl hy, ih _ fun u hu => h u (List.mem_cons_of_mem _ hu), Builtin.numbers,
      Builtin.numbers, List.filterMap_cons_some hy, List.foldl_cons]

/-- **A chain of additions** of operands that all have a reading is their sum. -/
theorem foldl_add (h : ∀ u ∈ v :: w :: vs, u.toNumber? ≠ none) :
    (w :: vs).foldl add.apply v = .number (Builtin.total (Builtin.numbers (v :: w :: vs))) := by
  simp only [List.forall_mem_cons] at h
  obtain ⟨hv, hw, hvs⟩ := h
  obtain ⟨x, hx⟩ := Option.ne_none_iff_exists'.1 hv
  obtain ⟨y, hy⟩ := Option.ne_none_iff_exists'.1 hw
  rw [List.foldl_cons, add_apply_eq_number hx hy, foldl_add_number _ hvs, Builtin.total, Builtin.numbers,
    Builtin.numbers, List.filterMap_cons_some hx, List.filterMap_cons_some hy, List.foldl_cons, List.foldl_cons,
    Binary64.zero_add]

theorem toNumber?_foldl_add_eq_none_iff :
    (vs.foldl add.apply v).toNumber? = none ↔ v.toNumber? = none ∨ ∃ w ∈ vs, w.toNumber? = none := by
  induction vs generalizing v with
  | nil => simp
  | cons w vs ih =>
    rw [List.foldl_cons, ih, toNumber?_apply_eq_none_iff rfl]
    simp [divides, or_assoc]

theorem foldl_add_cases (vs : List Value) (h : v = .null ∨ ∃ x, v = .number x) :
    vs.foldl add.apply v = .null ∨ ∃ x, vs.foldl add.apply v = .number x := by
  induction vs generalizing v with
  | nil => exact h
  | cons w vs ih => exact ih (apply_cases rfl v w)

/-- **A chain of additions** with an operand that has no reading is null. -/
theorem foldl_add_eq_null (h : ∃ u ∈ v :: w :: vs, u.toNumber? = none) : (w :: vs).foldl add.apply v = .null := by
  have hfirst : add.apply v w = .null ∨ ∃ x, add.apply v w = .number x := apply_cases rfl v w
  have hcases : (w :: vs).foldl add.apply v = .null ∨ ∃ x, (w :: vs).foldl add.apply v = .number x :=
    foldl_add_cases vs hfirst
  rw [Value.eq_null_iff_toNumber?_eq_none hcases, toNumber?_foldl_add_eq_none_iff]
  exact (List.exists_mem_cons_iff _ _ _).1 h

end Operator

namespace Expr

variable {c : Context}

/-- The chain of additions of a list of trees on top of one, from left to right. -/
def additions (e : Expr) (es : List Expr) : Expr := es.foldl (fun l r => binary l .add r) e

theorem eval_additions {e : Expr} {v : Value} {es : List Expr} {vs : List Value} (he : e.eval c = .ok v)
    (hes : evalAll c es = .ok vs) : (additions e es).eval c = .ok (vs.foldl Operator.add.apply v) := by
  rw [evalAll_eq_ok_iff] at hes
  induction hes generalizing e v with
  | nil => exact he
  | cons hw hes ih => exact ih (eval_binary_eq_ok_iff.2 ⟨_, _, he, hw, rfl⟩)

/-- **A sum can stand in for a chain of additions**: of two or more operands that have values the sum is a number, and
where all operands have a reading, the chain is the same number. Where one has none, the chain is null, and the sum is
what it is without such operands. -/
theorem sum_is_additions {e₁ e₂ : Expr} {es : List Expr} (h : ∀ e ∈ e₁ :: e₂ :: es, ∃ v, e.eval c = .ok v) :
    ∃ x, (call "sum" (e₁ :: e₂ :: es)).eval c = .ok (.number x) ∧
      ((∀ e ∈ e₁ :: e₂ :: es, ¬ e.Unread c) → (additions e₁ (e₂ :: es)).eval c = .ok (.number x)) ∧
      ((∃ e ∈ e₁ :: e₂ :: es, e.Unread c) → (additions e₁ (e₂ :: es)).eval c = .ok .null) ∧
      ∀ rest, Interspersed (Unread c) rest (e₁ :: e₂ :: es) → (call "sum" rest).eval c = .ok (.number x) := by
  obtain ⟨vs, hvs⟩ := exists_evalAll_eq_ok h
  have hsum : (call "sum" (e₁ :: e₂ :: es)).eval c = .ok (.number (Builtin.total (Builtin.numbers vs))) :=
    eval_call .sum hvs
  obtain ⟨v, ws, hv, hws, rfl⟩ := List.forall₂_cons_left_iff.1 (evalAll_eq_ok_iff.1 hvs)
  obtain ⟨w, us, hw, hus, rfl⟩ := List.forall₂_cons_left_iff.1 hws
  have hchain := eval_additions hv (evalAll_eq_ok_iff.2 hws)
  refine ⟨_, hsum, fun hread => ?_, fun hunread => ?_, fun rest hrest => ?_⟩
  · have hvalues : ∀ u ∈ v :: w :: us, u.toNumber? ≠ none := by
      simpa using mt (exists_unread_iff hvs).2 (by simpa using hread)
    rw [hchain, Operator.foldl_add hvalues]
  · rw [hchain, Operator.foldl_add_eq_null ((exists_unread_iff hvs).1 hunread)]
  · obtain ⟨rs, hrs, hmore⟩ := exists_evalAll_interspersed hrest hvs
    have hnumbers : Builtin.numbers (v :: w :: us) = Builtin.numbers rs := hmore.filterMap_eq fun _ => id
    rw [hnumbers]
    exact eval_call .sum hrs

/-- In `true + '2' + a` without a field `a` one operand has no reading. -/
theorem sum_is_additions_of_three :
    let c := Context.ofList []
    let es := [literal (.boolean true), literal (.string "2"), fieldOf "a"]
    (∀ e ∈ es, ∃ v, e.eval c = .ok v) ∧ (call "sum" es).eval c = .ok (.number (.ofNat 3)) ∧
      (additions (literal (.boolean true)) [literal (.string "2"), fieldOf "a"]).eval c = .ok .null ∧
      (call "sum" [literal (.boolean true), literal (.string "2")]).eval c = .ok (.number (.ofNat 3)) := by
  intro c es
  have hvalues : ∀ e ∈ es, ∃ v, e.eval c = .ok v := by
    simp only [es, List.forall_mem_cons]
    exact ⟨⟨_, rfl⟩, ⟨_, rfl⟩, ⟨_, rfl⟩, fun e he => nomatch he⟩
  have hunread : (fieldOf "a").Unread c := ⟨.null, rfl, rfl⟩
  obtain ⟨x, hsum, -, hnull, hrest⟩ := sum_is_additions hvalues
  have hthree : (call "sum" es).eval c = .ok (.number (.ofNat 3)) := by decide +kernel
  rw [hsum] at hthree
  refine ⟨hvalues, hsum.trans hthree, hnull ⟨_, ?_, hunread⟩, (hrest _ ?_).trans hthree⟩
  · exact List.mem_cons_of_mem _ (List.mem_cons_of_mem _ List.mem_cons_self)
  · exact ((Interspersed.nil.insert _ hunread).keep _).keep _

end Expr

/-! ## Averages -/

/-- No whole number but zero is a zero when it is rounded. -/
theorem Binary64.isZero_ofNat (n : Nat) : (Binary64.ofNat n).isZero = true ↔ n = 0 := by
  constructor
  · intro hzero
    by_contra hn
    have hpos : 1 ≤ nearest (n * unitsPerOne) 1 := by
      refine le_nearest Nat.one_pos ?_
      exact Nat.mul_pos (Nat.pos_of_ne_zero hn) unitsPerOne_pos
    rw [ofNat, ofWhole, round, ofRank] at hzero
    split at hzero
    · simp only [isZero, decide_eq_true_eq] at hzero
      omega
    · cases hzero
  · rintro rfl
    decide +kernel

namespace Builtin

variable {vs : List Value}

/-- **What is counted** are the readings, where every value but null has one. -/
theorem countP_eq_length_numbers (h : ∀ v ∈ vs, v = .null ∨ v.toNumber? ≠ none) :
    vs.countP (fun v => !v.isNull) = (numbers vs).length := by
  rw [numbers, List.length_filterMap_eq_countP]
  refine List.countP_congr fun v hv => ?_
  obtain rfl | hread := h v hv
  · rfl
  · cases v <;> simp_all [Value.isNull, Value.toNumber?, Option.isSome_iff_ne_none]

/-- **The average** is the sum over the count of the readings, and null where there are none. -/
theorem numberOrNull_average? (xs : List Binary64) :
    numberOrNull (average? xs) = Operator.div.apply (.number (total xs)) (.number (.ofNat xs.length)) := by
  have hdiv : Operator.div.apply (.number (total xs)) (.number (.ofNat xs.length)) =
      numberOrNull (Operator.guarded Binary64.div (total xs) (.ofNat xs.length)) := rfl
  rw [hdiv, Operator.guarded, average?]
  by_cases hxs : xs = []
  · rw [if_pos hxs, if_pos ((Binary64.isZero_ofNat _).2 (List.length_eq_zero_iff.2 hxs))]
  · rw [if_neg hxs, if_neg fun hzero => hxs (List.length_eq_zero_iff.1 ((Binary64.isZero_ofNat _).1 hzero))]

end Builtin

namespace Expr

/-- **Aggregates pass over** what they do not count: values without a reading make no difference to `min`, `max`, `sum`
and `avg`, wherever they stand, and nulls make none to `count`. So **the average is the sum over the count** of any
arguments that are null or have a reading, null where there is nothing to be counted. -/
theorem aggregates_pass_over :
    (∀ name ∈ ["min", "max", "sum", "avg"], ∀ args args' : List Value,
      Interspersed (fun v => v.toNumber? = none) args args' → callBuiltin name args' = callBuiltin name args) ∧
    (∀ args args' : List Value, Interspersed (fun v => v = .null) args args' →
      callBuiltin "count" args' = callBuiltin "count" args) ∧
    ∀ (c : Context) (es : List Expr) (vs : List Value), evalAll c es = .ok vs →
      (∀ v ∈ vs, v = .null ∨ v.toNumber? ≠ none) →
      ∃ v, (call "avg" es).eval c = .ok v ∧ (binary (call "sum" es) .div (call "count" es)).eval c = .ok v := by
  refine ⟨fun name hname args args' h => ?_, fun args args' h => ?_, fun c es vs hvs hread => ?_⟩
  · have hnumbers : Builtin.numbers args' = Builtin.numbers args := h.filterMap_eq fun _ => id
    simp only [List.mem_cons, List.not_mem_nil, or_false] at hname
    rcases hname with rfl | rfl | rfl | rfl <;>
      simp only [callBuiltin, Builtin.ofName?, Builtin.apply, hnumbers]
  · have hcount : args'.countP (fun v => !v.isNull) = args.countP fun v => !v.isNull :=
      h.countP_eq fun v hv => by rw [hv, Value.isNull, Bool.not_true]
    simp only [callBuiltin, Builtin.ofName?, Builtin.apply, hcount]
  · refine ⟨_, eval_call .avg hvs, eval_binary_eq_ok_iff.2 ⟨_, _, eval_call .sum hvs, eval_call .count hvs, ?_⟩⟩
    simp only [Builtin.apply, Builtin.countP_eq_length_numbers hread, Builtin.numberOrNull_average?]

/-- The arguments `true`, null and `"2"`: their average is the half of three, and a text that is no numeral would make
no difference to it. -/
theorem aggregates_pass_over_null :
    let args := [Value.boolean true, .null, .string "2"]
    let es := args.map literal
    (∀ v ∈ args, v = .null ∨ v.toNumber? ≠ none) ∧
      (binary (call "sum" es) .div (call "count" es)).eval .empty = (call "avg" es).eval .empty ∧
      callBuiltin "avg" (.string "two" :: args) = callBuiltin "avg" args ∧
      callBuiltin "count" (.null :: args) = callBuiltin "count" args := by
  intro args es
  have hread : ∀ v ∈ args, v = .null ∨ v.toNumber? ≠ none := by decide +kernel
  have hargs (extra : Value → Prop) : Interspersed extra args args := ((Interspersed.nil.keep _).keep _).keep _
  obtain ⟨hreadings, hcount, haverage⟩ := aggregates_pass_over
  obtain ⟨v, havg, hquotient⟩ := haverage .empty es args rfl hread
  refine ⟨hread, hquotient.trans havg.symm, hreadings "avg" (by decide) _ _ ((hargs _).insert _ ?_),
    hcount _ _ ((hargs _).insert _ ?_)⟩
  · decide +kernel
  · rfl

end Expr
end Formula
