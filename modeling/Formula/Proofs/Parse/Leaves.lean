import Formula.Proofs.Parse.Formulas

/-!
# What parsing leaves in a tree

The leaves and names of an accepted tree come from words, and a word of a scanned text is a word of its kind.

* `Expr.callNames` : the names of the calls in a tree.
* `Expr.FromWords` : the literals, fields and call names of the tree come from words.
* `fromWords_of_ofFormula` : every accepted tree is such a tree.
-/

namespace Formula

open Grammar

/-! ## Trees made of words -/

namespace Expr

mutual

/-- The names of the calls in a tree from left to right. -/
def callNames : Expr → List String
  | literal _ => []
  | field _ => []
  | binary l _ r => callNames l ++ callNames r
  | call name args => name :: callNamesAll args

/-- The names of the calls in a list of trees from left to right. -/
def callNamesAll : List Expr → List String
  | [] => []
  | e :: es => callNames e ++ callNamesAll es

end

end Expr

/-- The value of a literal word: no null, no negative number, and no text with both kinds of quote. -/
def Value.FromWord : Value → Prop
  | null => False
  | boolean _ => True
  | number x => ∃ rank, x = .finite false rank
  | string s => '"' ∉ s.toList ∨ '\'' ∉ s.toList

/-- The reference that a name makes which is no truth value. -/
def Field.FromWord (f : Field) : Prop :=
  ∃ identifier, f = ofIdentifier identifier ∧ IsName identifier.toList ∧ identifier ≠ "true" ∧ identifier ≠ "false"

/-- A name in lower case. -/
def CalledFromWord (name : String) : Prop :=
  ∃ identifier : List Char, name = String.ofList (Unicode.lowerCase identifier) ∧ IsName identifier

namespace Expr

mutual

/-- The leaves and the call names of the tree come from words. -/
def FromWords : Expr → Prop
  | literal v => v.FromWord
  | field f => f.FromWord
  | binary l _ r => FromWords l ∧ FromWords r
  | call name args => CalledFromWord name ∧ FromWordsAll args

/-- The leaves and the call names of the trees come from words. -/
def FromWordsAll : List Expr → Prop
  | [] => True
  | e :: es => FromWords e ∧ FromWordsAll es

end

theorem fromWords_unary {op : UnaryOperator} {e : Expr} (h : e.FromWords) : (unary op e).FromWords := by
  cases op with
  | negate => exact ⟨⟨_, rfl⟩, h⟩
  | not => exact ⟨h, trivial⟩

theorem fromWords_callOf {name : String} {args : List Expr} (hname : IsName name.toList) (h : FromWordsAll args) :
    (callOf name args).FromWords := ⟨⟨_, rfl, hname⟩, h⟩

end Expr

/-! ## Trees of derivations -/

theorem fromWord_of_literalNumber? {text : String} {x : Binary64} (htext : IsNumber text.toList)
    (h : Parser.literalNumber? text = some x) : (Value.number x).FromWord := by
  obtain ⟨hread, hfinite⟩ := Option.filter_eq_some_iff.1 h
  cases hcs : text.toList with
  | nil =>
    rw [hcs] at htext
    exact htext.elim
  | cons c cs =>
    rw [hcs] at htext hread
    exact Binary64.exists_eq_finite_of_ofNumeral? htext.1 hread hfinite

namespace Grammar

mutual

theorem Chain.fromWords_tree : ∀ {n : Nat} (c : Chain n), (∀ w ∈ c.words, w.Lexical) → c.tree.FromWords
  | _, .unary u, h => u.fromWords_tree h
  | _, .level first links, h => by
    rw [Chain.words] at h
    exact links.fromWords_fold (fun w hw => h w (List.mem_append_right _ hw))
      (first.fromWords_tree fun w hw => h w (List.mem_append_left _ hw))

theorem Links.fromWords_fold : ∀ {n : Nat} (l : Links n), (∀ w ∈ l.words, w.Lexical) → ∀ {left : Expr},
    left.FromWords → (l.fold left).FromWords
  | _, .nil, _, _, hleft => hleft
  | _, .cons op _ right more, h, left, hleft => by
    rw [Links.words] at h
    have hright := right.fromWords_tree fun w hw => h w (List.mem_cons_of_mem _ (List.mem_append_left _ hw))
    have hnode : (Expr.binary left op right.tree).FromWords := ⟨hleft, hright⟩
    exact more.fromWords_fold (fun w hw => h w (List.mem_cons_of_mem _ (List.mem_append_right _ hw))) hnode

theorem Unary.fromWords_tree : ∀ u : Unary, (∀ w ∈ u.words, w.Lexical) → u.tree.FromWords
  | .sign op operand, h => by
    rw [Unary.tree_sign]
    exact Expr.fromWords_unary (operand.fromWords_tree fun w hw => h w (List.mem_cons_of_mem _ hw))
  | .primary p, h => p.fromWords_tree h

theorem Primary.fromWords_tree : ∀ p : Primary, (∀ w ∈ p.words, w.Lexical) → p.tree.FromWords
  | .number text x reads, h => fromWord_of_literalNumber? (h (.number text) List.mem_cons_self) reads
  | .string text, h => h (.string text) List.mem_cons_self
  | .boolean _, _ => trivial
  | .field identifier, h => ⟨identifier, rfl, h (.identifier identifier) List.mem_cons_self⟩
  | .emptyCall name, h => Expr.fromWords_callOf (h (.identifier name) List.mem_cons_self).1 trivial
  | .call name args, h => by
    refine Expr.fromWords_callOf (h (.identifier name) List.mem_cons_self).1 (args.fromWords_trees fun w hw => ?_)
    exact h w (List.mem_cons_of_mem _ (List.mem_cons_of_mem _ (List.mem_append_left _ hw)))
  | .group inner, h =>
    inner.fromWords_tree fun w hw => h w (List.mem_cons_of_mem _ (List.mem_append_left _ hw))

theorem Arguments.fromWords_trees : ∀ a : Arguments, (∀ w ∈ a.words, w.Lexical) → Expr.FromWordsAll a.trees
  | .last e, h => ⟨e.fromWords_tree h, trivial⟩
  | .cons e more, h => by
    rw [Arguments.words] at h
    exact ⟨e.fromWords_tree fun w hw => h w (List.mem_append_left _ hw),
      more.fromWords_trees fun w hw => h w (List.mem_append_right _ (List.mem_cons_of_mem _ hw))⟩

end

end Grammar

/-- **Every accepted tree is made of words.** -/
theorem fromWords_of_ofFormula {formula : String} {m : Nat} {e : Expr} (h : Expr.ofFormula formula m = .ok e) :
    e.FromWords := by
  obtain ⟨d, hterminals, rfl, -⟩ := ofFormula_eq_ok_iff.1 h
  exact d.fromWords_tree fun w hw => lexical_of_terminals? hterminals w (List.mem_append_left _ hw)

end Formula
