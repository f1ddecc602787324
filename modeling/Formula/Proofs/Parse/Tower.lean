import Formula.Proofs.Parse.Formulas
import Formula.Proofs.Parse.Height
import Formula.Proofs.Scan.Spelling

/-!
# Trees as high as the limit allows

The bound on the height of accepted trees is reached at every limit. A tower puts `b` operators at each of the six
levels behind the tower below it and a call around the whole, every other operand being a field.

* `limit_bounds_height` : the height of accepted trees, and formulas of exactly that height.
-/

namespace Formula

open Grammar

namespace Grammar

/-- There is an operator at every level. -/
theorem exists_operator_level {n : Nat} (h : n < Operator.levels) : ∃ op : Operator, op.level = n := by
  match n, h with
  | 0, _ => exact ⟨.mul, rfl⟩
  | 1, _ => exact ⟨.add, rfl⟩
  | 2, _ => exact ⟨.lt, rfl⟩
  | 3, _ => exact ⟨.eq, rfl⟩
  | 4, _ => exact ⟨.and, rfl⟩
  | 5, _ => exact ⟨.or, rfl⟩

theorem isName_a : IsName ['a'] := isName_of_all (by decide +kernel) rfl

theorem spells_field : Spells ['a'] [.identifier "a"] := Spells.name isName_a

/-- `b` operators of one level with a field behind each put `b` nodes above what stands in front. -/
theorem exists_links {n : Nat} (hn : n < Operator.levels) (b : Nat) : ∃ l : Links n, l.need = b ∧
    (∀ left, (l.fold left).height = left.height + b) ∧
    ∀ text ws, Spells text ws → ∃ text', Spells text' (ws ++ l.words) := by
  obtain ⟨op, hop⟩ := exists_operator_level hn
  induction b with
  | zero =>
    refine ⟨.nil, rfl, fun left => rfl, fun text ws h => ⟨text, ?_⟩⟩
    rwa [Links.words, List.append_nil]
  | succ b ih =>
    obtain ⟨l, hneed, hheight, hspells⟩ := ih
    let right := (Primary.field "a").chain n
    refine ⟨.cons op hop right l, ?_, ?_, ?_⟩
    · have hright : right.need = 0 := Primary.need_chain _ n
      rw [Links.need, hright, hneed]
      omega
    · intro left
      rw [Links.fold, hheight, Expr.height, Primary.tree_chain, Primary.tree, Expr.height_fieldOf]
      omega
    · intro text ws h
      obtain ⟨text', h'⟩ := hspells _ _ (h.operator op spells_field)
      refine ⟨text', ?_⟩
      rw [Links.words, Primary.words_chain, Primary.words]
      simpa using h'

/-- `b` operators at each of the levels below `n` put `n * b` nodes above a unary expression. -/
theorem exists_chain {u : Unary} {b : Nat} (hu : u.need ≤ b) {text : List Char} (htext : Spells text u.words) :
    ∀ {n : Nat}, n ≤ Operator.levels → ∃ c : Chain n, c.need ≤ b ∧ c.tree.height = u.tree.height + n * b ∧
      ∃ text', Spells text' c.words
  | 0, _ => ⟨.unary u, hu, by rw [Nat.zero_mul]; rfl, text, htext⟩
  | n + 1, hn => by
    obtain ⟨c, hneed, hheight, text', htext'⟩ := exists_chain hu htext (show n ≤ Operator.levels by omega)
    obtain ⟨l, hlneed, hlheight, hspells⟩ := exists_links (show n < Operator.levels by omega) b
    refine ⟨.level c l, ?_, ?_, hspells _ _ htext'⟩
    · rw [Chain.need, hlneed]
      omega
    · rw [Chain.tree, hlheight, hheight, Nat.succ_mul]
      omega

/-- Unary expressions reach their greatest height. -/
theorem exists_unary (b : Nat) : ∃ u : Unary, u.need ≤ b ∧ u.tree.height = maxHeight b ∧
    ∃ text, Spells text u.words := by
  induction b with
  | zero => exact ⟨.primary (.field "a"), Nat.le_refl _, Expr.height_fieldOf _, _, spells_field⟩
  | succ b ih =>
    obtain ⟨u, hneed, hheight, text, htext⟩ := ih
    obtain ⟨c, hcneed, hcheight, text', htext'⟩ := exists_chain hneed htext (Nat.le_refl _)
    refine ⟨.primary (.call "a" (.last c)), ?_, ?_, _, Spells.call isName_a htext'⟩
    · rw [Unary.need, Primary.need, Arguments.need]
      omega
    · rw [Unary.tree, Primary.tree, Expr.height_callOf, Arguments.trees, Expr.heightAbove, Expr.heightAbove, hcheight,
        hheight, maxHeight]
      omega

end Grammar

/-- **The limit bounds the height** of every accepted tree by `(limit - 1) * (3 * limit + 1)`, and each limit accepts
some formula with a tree of that height. -/
theorem limit_bounds_height :
    (∀ ts m e, Expr.ofTokens ts m = .ok e → e.height ≤ (max 1 m - 1) * (3 * max 1 m + 1)) ∧
      ∀ limit, 1 ≤ limit → ∃ formula e, Expr.ofFormula formula limit = .ok e ∧
        e.height = (limit - 1) * (3 * limit + 1) := by
  refine ⟨fun ts m e => height_le_of_ofTokens_eq_ok, fun limit hlimit => ?_⟩
  obtain ⟨b, rfl⟩ : ∃ b, limit = b + 1 := ⟨limit - 1, by omega⟩
  obtain ⟨u, hneed, hheight, text, htext⟩ := exists_unary b
  obtain ⟨d, hdneed, hdheight, text', htext'⟩ := exists_chain hneed htext (Nat.le_refl _)
  have hdepth : Expression.depth d ≤ max 1 (b + 1) := by
    rw [Expression.depth]
    omega
  refine ⟨String.ofList text', d.tree, ofFormula_eq_ok_iff.2 ⟨d, ?_, rfl, hdepth⟩, ?_⟩
  · rw [String.toList_ofList]
    exact htext'.terminals?_eq
  · rw [hdheight, hheight, maxHeight_add, Nat.add_sub_cancel, show 3 * (b + 1) + 1 = 3 * b + 4 by omega]

/-- The height seven at the limit two. -/
example : (Expr.ofFormula "f(a)*b+c<d==e&&g||h" 2).toOption.map Expr.height = some 7 := by decide +kernel

end Formula
