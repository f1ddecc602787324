import Formula.Proofs.Parse.Language

/-!
# How high an accepted tree is

The limit on nesting bounds the height of every tree that is accepted, however long its sentence is. The bound is not
the limit itself: the first operand of a chain is not charged for the operators behind it, at any level, so a derivation
that needs `b` may stand for a tree of height `b * (3 * b + 4)`.

* `Expr.height` : the number of edges on the longest path from the root to a leaf.
* `maxHeight` : the greatest height of the unary expressions that need at most a given nesting.
* `Chain.height_tree_le` and its companions: the height of a tree against the need of its derivation.
-/

namespace Formula

/-! ## Heights -/

namespace Expr

mutual

/-- The number of edges on the longest path from the root to a leaf. -/
def height : Expr → Nat
  | literal _ => 0
  | field _ => 0
  | binary l _ r => 1 + max (height l) (height r)
  | call _ args => heightAbove args

/-- The height of a node above the given trees. -/
def heightAbove : List Expr → Nat
  | [] => 0
  | e :: es => max (1 + height e) (heightAbove es)

end

@[simp] theorem height_fieldOf (identifier : String) : (fieldOf identifier).height = 0 := by
  rw [fieldOf, height]

@[simp] theorem height_callOf (name : String) (args : List Expr) : (callOf name args).height = heightAbove args := by
  rw [callOf, height]

/-- Both unary operators put one node above their operand. -/
@[simp] theorem height_unary (op : UnaryOperator) (e : Expr) : (unary op e).height = 1 + e.height := by
  cases op <;> simp [unary, negate, not, height]

end Expr

namespace Grammar

/-! ## The bound -/

/-- The greatest height of the trees of unary expressions that need `b`: the operand of each of the six levels of a
chain may have `b` operators behind it, and the whole may stand in a call. -/
def maxHeight : (b : Nat) → Nat
  | 0 => 0
  | b + 1 => 1 + (maxHeight b + Operator.levels * b)

theorem maxHeight_add (b : Nat) : maxHeight b + Operator.levels * b = b * (3 * b + 4) := by
  induction b with
  | zero => rfl
  | succ b ih =>
    have hstep : (b + 1) * (3 * (b + 1) + 4) = b * (3 * b + 4) + (6 * b + 7) := by
      simp only [Nat.mul_add, Nat.add_mul]
      omega
    rw [maxHeight, ih, hstep, Operator.levels]
    omega

mutual

/-- A chain of the levels below `n` may put `b` nodes above its first operand at each of them. -/
theorem Chain.height_tree_le : ∀ {n : Nat} (c : Chain n) {b : Nat}, c.need ≤ b →
    c.tree.height ≤ maxHeight b + n * b
  | _, .unary u, b, h => by
    have hu := u.height_tree_le h
    rw [Nat.zero_mul]
    exact hu
  | n + 1, .level first links, b, h => by
    rw [Chain.need] at h
    have hfirst := first.height_tree_le (show first.need ≤ b by omega)
    have hlinks := links.height_fold_le (show links.need ≤ b by omega) hfirst (Nat.le_refl _)
    rw [Chain.tree, Nat.succ_mul]
    omega

/-- Each operator puts one node above the tree to its left and leaves one level less to the operands behind it, so what
they may add shrinks as that tree grows. -/
theorem Links.height_fold_le : ∀ {n : Nat} (l : Links n) {b : Nat}, l.need ≤ b → ∀ {left : Expr} {bound : Nat},
    left.height ≤ bound → maxHeight b + n * b ≤ bound → (l.fold left).height ≤ bound + b
  | _, .nil, _, _, _, _, hleft, _ => Nat.le_add_right_of_le hleft
  | n, .cons op _ right more, b, h, left, bound, hleft, hbound => by
    rw [Links.need] at h
    obtain ⟨b, rfl⟩ : ∃ b', b = b' + 1 := ⟨b - 1, by omega⟩
    have hright := right.height_tree_le (show right.need ≤ b by omega)
    have hbelow : maxHeight b + n * b ≤ bound := by
      rw [maxHeight, Nat.mul_succ] at hbound
      omega
    have hnode : (Expr.binary left op right.tree).height ≤ bound + 1 := by
      rw [Expr.height]
      omega
    have hmore := more.height_fold_le (show more.need ≤ b by omega) hnode (by omega)
    rw [Links.fold]
    omega

theorem Unary.height_tree_le : ∀ (u : Unary) {b : Nat}, u.need ≤ b → u.tree.height ≤ maxHeight b
  | .sign op operand, b, h => by
    rw [Unary.need] at h
    obtain ⟨b, rfl⟩ : ∃ b', b = b' + 1 := ⟨b - 1, by omega⟩
    have hoperand := operand.height_tree_le (show operand.need ≤ b by omega)
    rw [Unary.tree_sign, Expr.height_unary, maxHeight]
    omega
  | .primary p, _, h => p.height_tree_le h

theorem Primary.height_tree_le : ∀ (p : Primary) {b : Nat}, p.need ≤ b → p.tree.height ≤ maxHeight b
  | .number .., _, _ | .string _, _, _ | .boolean _, _, _ | .field _, _, _ | .emptyCall _, _, _ => by
    simp [Primary.tree, Expr.height, Expr.heightAbove]
  | .call name args, _, h => by
    rw [Primary.tree, Expr.height_callOf]
    exact args.height_trees_le h
  | .group inner, b, h => by
    rw [Primary.need] at h
    obtain ⟨b, rfl⟩ : ∃ b', b = b' + 1 := ⟨b - 1, by omega⟩
    have hinner := inner.height_tree_le (show inner.need ≤ b by omega)
    rw [Primary.tree, maxHeight]
    omega

theorem Arguments.height_trees_le : ∀ (a : Arguments) {b : Nat}, a.need ≤ b →
    Expr.heightAbove a.trees ≤ maxHeight b
  | .last e, b, h => by
    rw [Arguments.need] at h
    obtain ⟨b, rfl⟩ : ∃ b', b = b' + 1 := ⟨b - 1, by omega⟩
    have he := e.height_tree_le (show e.need ≤ b by omega)
    rw [Arguments.trees, Expr.heightAbove, Expr.heightAbove, maxHeight]
    omega
  | .cons e more, b, h => by
    rw [Arguments.need] at h
    have hmore := more.height_trees_le (show more.need ≤ b by omega)
    obtain ⟨b, rfl⟩ : ∃ b', b = b' + 1 := ⟨b - 1, by omega⟩
    have he := e.height_tree_le (show e.need ≤ b by omega)
    rw [Arguments.trees, Expr.heightAbove]
    rw [maxHeight] at hmore ⊢
    omega

end

/-- The tree of an expression is at most as high as its depth allows. -/
theorem Expression.height_tree_le (d : Expression) {limit : Nat} (h : d.depth ≤ limit) :
    d.tree.height ≤ (limit - 1) * (3 * limit + 1) := by
  unfold depth at h
  obtain ⟨b, rfl⟩ : ∃ b, limit = b + 1 := ⟨limit - 1, by omega⟩
  have hchain := Chain.height_tree_le d (show d.need ≤ b by omega)
  rw [maxHeight_add] at hchain
  rw [show 3 * (b + 1) + 1 = 3 * b + 4 by omega]
  exact hchain

end Grammar

/-- A tree that is accepted at some limit is at most as high as the limit allows. -/
theorem height_le_of_ofTokens_eq_ok {ts : List Token} {m : Nat} {e : Expr} (h : Expr.ofTokens ts m = .ok e) :
    e.height ≤ (max 1 m - 1) * (3 * max 1 m + 1) := by
  obtain ⟨d, -, rfl, hdepth⟩ := Parser.ofTokens_eq_ok_iff.1 h
  exact d.height_tree_le hdepth

end Formula
