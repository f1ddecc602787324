import Formula.Proofs.Sql.Shown

/-!
# SQL text is unambiguous

What a dialect shows of an accepted tree is read back as the tree. A dialect that quotes the names of columns shows all
of the plain tree. The generic dialect writes bare names, so a name that is the text of a number shows as that number,
and an empty name that is the only argument of a call does not show.

* `Tree.expr` : the reading of what is shown.
* `Expr.bare` : the plain tree as the generic dialect shows it.
* `expr_sqlTree`, `expr_sqlTree_generic` : what is shown reads as the plain tree, or as its bare form.
* `quoting_toSql_eq_iff` : the text of a quoting dialect tells the plain tree.
* `generic_toSql_eq_iff` : the text of the generic dialect tells the bare form, and so the plain tree if there are no
  such names.
-/

namespace Formula

open Sql

/-! ## Texts of numbers -/

namespace Binary64

/-- The finite double whose text is given. -/
def ofChars? (cs : List Char) : Option Binary64 :=
  (ofNumeral? cs).filter fun x => x.isFinite && x.chars == cs

theorem ofChars?_eq_some {cs : List Char} {x : Binary64} (h : ofChars? cs = some x) :
    x.isFinite = true ∧ x.chars = cs := by
  obtain ⟨-, hx⟩ := Option.filter_eq_some_iff.1 h
  obtain ⟨hfinite, hchars⟩ := Bool.and_eq_true_iff.1 hx
  exact ⟨hfinite, beq_iff_eq.1 hchars⟩

theorem ofChars?_chars (rank : Fin rankCount) : ofChars? (finite false rank).chars = some (finite false rank) := by
  obtain ⟨_, _, _, _, _, hread⟩ := ofNumeral?_chars rank
  have hfinite : (finite false rank).isFinite = true := rfl
  refine Option.filter_eq_some_iff.2 ⟨hread, ?_⟩
  rw [hfinite, beq_self_eq_true, Bool.and_self]

/-- The text of a number opens with a digit or with a minus sign. -/
theorem ofChars?_of_isNameStart {c : Char} (h : isNameStart c = true) (cs : List Char) :
    ofChars? (c :: cs) = none := by
  cases hread : ofChars? (c :: cs) with
  | none => rfl
  | some x =>
    obtain ⟨hfinite, hchars⟩ := ofChars?_eq_some hread
    cases x with
    | finite negative rank =>
      cases negative with
      | false =>
        have hnumber := isNumber_chars rank
        rw [hchars] at hnumber
        rw [IsNumber, isDigit_eq_false_of_isNameStart h] at hnumber
        cases hnumber.1
      | true =>
        rw [chars, withSign, if_pos rfl] at hchars
        have hminus : isNameStart '-' = false := by decide +kernel
        rw [← (List.cons.inj hchars).1, hminus] at h
        cases h
    | _ => cases hfinite

end Binary64

/-! ## Reading what is shown -/

namespace Expr

/-- The number whose text the name is, or else the field of that name. -/
def ofBareName (name : String) : Expr :=
  match Binary64.ofChars? name.toList with
  | some x => literal (.number x)
  | none => field ⟨name, false⟩

/-- An argument list as it shows under bare names: an only argument of the empty name is none. -/
def shownArgs : List Expr → List Expr
  | [field ⟨"", _⟩] => []
  | es => es

end Expr

namespace Sql.Tree

mutual

/-- The plain tree that the shown tree is read as. -/
def expr : Tree → Expr
  | word cs => Expr.ofBareName (String.ofList cs)
  | quoted .single cs => .literal (.string (String.ofList cs))
  | quoted _ cs => .field ⟨String.ofList cs, false⟩
  | operation l op r => .binary (expr l) op (expr r)
  | call name args => .call (String.ofList name) (exprs args)

/-- The plain trees that shown trees are read as. -/
def exprs : List Tree → List Expr
  | [] => []
  | t :: ts => expr t :: exprs ts

end

end Sql.Tree

/-! ## What is shown reads back -/

theorem Expr.ofBareName_chars (rank : Fin Binary64.rankCount) :
    ofBareName (String.ofList (Binary64.finite false rank).chars) = literal (.number (.finite false rank)) := by
  rw [ofBareName, String.toList_ofList, Binary64.ofChars?_chars]

theorem Value.FromWord.expr_sqlTree {v : Value} (h : v.FromWord) : v.plain.sqlTree.expr = .literal v.plain := by
  rcases h.plain_cases with ⟨rank, hv⟩ | ⟨s, hv⟩
  · rw [hv, Value.sqlTree_number, Tree.expr, Expr.ofBareName_chars]
  · rw [hv, Value.sqlTree, Tree.expr, String.ofList_toList]

/-- A literal shows something. -/
theorem Value.FromWord.sqlTree_ne {v : Value} (h : v.FromWord) : v.plain.sqlTree ≠ .word [] := by
  rcases h.plain_cases with ⟨rank, hv⟩ | ⟨s, hv⟩
  · rw [hv, Value.sqlTree_number]
    intro hnil
    have hnumber := isNumber_chars rank
    rw [Tree.word.inj hnil] at hnumber
    exact hnumber
  · rw [hv]
    exact Tree.noConfusion

/-- A bare name that is neither empty nor the text of a number. -/
def Field.Named (f : Field) : Prop := f.name ≠ "" ∧ Binary64.ofChars? f.name.toList = none

/-- Only a global field can have another name. -/
theorem Field.FromWord.named {f : Field} (h : f.FromWord) (hlocal : f.global = false) : f.Named := by
  obtain ⟨identifier, hf, hname, -⟩ := h
  have hkey : f.name = identifier := by
    rw [← Field.key_ofIdentifier identifier, ← hf, Field.key, hlocal, if_neg Bool.false_ne_true]
  rw [Field.Named, hkey]
  cases hcs : identifier.toList with
  | nil =>
    rw [hcs] at hname
    exact hname.elim
  | cons c cs =>
    rw [hcs] at hname
    refine ⟨?_, Binary64.ofChars?_of_isNameStart hname.1 cs⟩
    rintro rfl
    cases hcs

/-- The dialect shows the field as a field: it quotes the name, or the bare name is one. -/
def Field.ShownBy (d : Dialect) (f : Field) : Prop := d = .generic → f.global = true → f.Named

theorem Field.FromWord.named_of_shownBy {f : Field} (h : f.FromWord) (hshown : f.ShownBy .generic) : f.Named := by
  cases hglobal : f.global with
  | false => exact h.named hglobal
  | true => exact hshown rfl hglobal

theorem Field.FromWord.expr_column {d : Dialect} {f : Field} (h : f.FromWord) (hshown : f.ShownBy d) :
    (column d f.name.toList).expr = .field ⟨f.name, false⟩ := by
  cases d with
  | generic =>
    have hnamed := h.named_of_shownBy hshown
    rw [column, Tree.expr, String.ofList_toList, Expr.ofBareName, hnamed.2]
  | _ =>
    rw [column, Tree.expr, String.ofList_toList]
    simp

theorem Field.FromWord.column_ne {d : Dialect} {f : Field} (h : f.FromWord) (hshown : f.ShownBy d) :
    column d f.name.toList ≠ .word [] := by
  cases d with
  | generic =>
    have hnamed := h.named_of_shownBy hshown
    intro hnil
    exact hnamed.1 (String.toList_eq_nil_iff.1 (Tree.word.inj hnil))
  | _ => exact Tree.noConfusion

namespace Sql.Tree

theorem shownArgs_of_ne {ts : List Tree} (h : ts ≠ [word []]) : shownArgs ts = ts := by
  unfold shownArgs
  split
  · exact absurd rfl h
  · rfl

end Sql.Tree

namespace Expr

/-- Every tree shows something if the names of its fields do. -/
theorem sqlTree_ne {d : Dialect} {e : Expr} (h : e.FromWords) (hshown : ∀ f ∈ e.references, f.ShownBy d) :
    e.plain.sqlTree d ≠ .word [] := by
  cases e with
  | literal v => exact Value.FromWord.sqlTree_ne h
  | field f => exact Field.FromWord.column_ne (f := f) h (hshown f List.mem_cons_self)
  | binary l op r => exact Tree.noConfusion
  | call name args => exact Tree.noConfusion

theorem sqlTrees_ne {d : Dialect} {es : List Expr} (h : FromWordsAll es)
    (hshown : ∀ f ∈ referencesAll es, f.ShownBy d) : sqlTrees d (plainAll es) ≠ [.word []] := by
  cases es with
  | nil => simp [plainAll, sqlTrees]
  | cons e es =>
    intro hword
    exact sqlTree_ne h.1 (fun f hf => hshown f (List.mem_append_left _ hf)) (List.cons.inj hword).1

mutual

/-- **What is shown reads as the plain tree** where every field is shown as a field. -/
theorem expr_sqlTree {d : Dialect} : ∀ e : Expr, e.FromWords → (∀ f ∈ e.references, f.ShownBy d) →
    (e.plain.sqlTree d).expr = e.plain
  | literal _, h, _ => Value.FromWord.expr_sqlTree h
  | field f, h, hshown => Field.FromWord.expr_column (f := f) h (hshown f List.mem_cons_self)
  | binary l op r, h, hshown => by
    rw [references] at hshown
    have hl := expr_sqlTree l h.1 fun f hf => hshown f (List.mem_append_left _ hf)
    have hr := expr_sqlTree r h.2 fun f hf => hshown f (List.mem_append_right _ hf)
    rw [plain, sqlTree, Tree.expr, hl, hr]
  | call name args, h, hshown => by
    rw [plain, sqlTree, Tree.expr, Tree.shownArgs_of_ne (sqlTrees_ne h.2 hshown), exprs_sqlTrees args h.2 hshown,
      String.ofList_toList]

theorem exprs_sqlTrees {d : Dialect} : ∀ es : List Expr, FromWordsAll es → (∀ f ∈ referencesAll es, f.ShownBy d) →
    Tree.exprs (sqlTrees d (plainAll es)) = plainAll es
  | [], _, _ => rfl
  | e :: es, h, hshown => by
    rw [referencesAll] at hshown
    have he := expr_sqlTree e h.1 fun f hf => hshown f (List.mem_append_left _ hf)
    have hes := exprs_sqlTrees es h.2 fun f hf => hshown f (List.mem_append_right _ hf)
    rw [plainAll, sqlTrees, Tree.exprs, he, hes]

end

/-- The text tells the plain tree where every field is shown as a field. -/
theorem toSql_eq_iff_of_shownBy {d : Dialect} {e₁ e₂ : Expr} (h₁ : e₁.FromWords) (h₂ : e₂.FromWords)
    (hshown : ∀ f ∈ e₁.references ++ e₂.references, f.ShownBy d) : e₁.toSql d = e₂.toSql d ↔ e₁.plain = e₂.plain := by
  rw [toSql_eq_iff h₁ h₂]
  constructor
  · intro h
    rw [← expr_sqlTree e₁ h₁ fun f hf => hshown f (List.mem_append_left _ hf), h,
      expr_sqlTree e₂ h₂ fun f hf => hshown f (List.mem_append_right _ hf)]
  · intro h
    rw [h]

end Expr

/-! ## Bare names -/

namespace Expr

mutual

/-- The plain tree as bare names show it: the text of a number is read as that number, and an only argument of the empty
name is left out. -/
def bare : Expr → Expr
  | literal v => literal v
  | field f => ofBareName f.name
  | binary l op r => binary (bare l) op (bare r)
  | call name args => call name (shownArgs (bareAll args))

/-- The bare forms of a list of plain trees. -/
def bareAll : List Expr → List Expr
  | [] => []
  | e :: es => bare e :: bareAll es

end

/-- An only argument that shows is read as an argument. -/
theorem shownArgs_bare {e : Expr} (h : e.plain.sqlTree .generic ≠ .word []) :
    shownArgs [e.plain.bare] = [e.plain.bare] := by
  cases e with
  | field f =>
    rw [plain, bare, ofBareName]
    split
    · rfl
    · unfold shownArgs
      split
      · rename_i hempty
        have hname : f.name = "" := congrArg Field.name (field.inj (List.cons.inj hempty).1)
        rw [plain, sqlTree, column, hname] at h
        exact absurd rfl h
      · rfl
  | _ => rfl

/-- Reading the arguments that show is leaving out the empty name after reading. -/
theorem exprs_shownArgs : ∀ {es : List Expr}, Tree.exprs (sqlTrees .generic (plainAll es)) = bareAll (plainAll es) →
    Tree.exprs (Tree.shownArgs (sqlTrees .generic (plainAll es))) = shownArgs (bareAll (plainAll es))
  | [], _ => rfl
  | [e], h => by
    -- Only a list of one argument may show as no argument.
    by_cases hnil : e.plain.sqlTree .generic = .word []
    · rw [← h, plainAll, plainAll, sqlTrees, sqlTrees, hnil]
      rfl
    · rw [Tree.shownArgs_of_ne (by simp [plainAll, sqlTrees, hnil]), h]
      exact (shownArgs_bare hnil).symm
  | e :: e' :: es, h => by
    rw [Tree.shownArgs_of_ne (by simp [plainAll, sqlTrees]), h]
    simp [plainAll, bareAll, shownArgs]

mutual

/-- **What the generic dialect shows** reads as the bare form. -/
theorem expr_sqlTree_generic : ∀ e : Expr, e.FromWords → (e.plain.sqlTree .generic).expr = e.plain.bare
  | literal _, h => Value.FromWord.expr_sqlTree h
  | field f, _ => by
    rw [plain, sqlTree, column, Tree.expr, bare, String.ofList_toList]
  | binary l op r, h => by
    rw [plain, sqlTree, Tree.expr, bare, expr_sqlTree_generic l h.1, expr_sqlTree_generic r h.2]
  | call name args, h => by
    rw [plain, sqlTree, Tree.expr, bare, exprs_shownArgs (exprs_sqlTrees_generic args h.2), String.ofList_toList]

theorem exprs_sqlTrees_generic : ∀ es : List Expr, FromWordsAll es →
    Tree.exprs (sqlTrees .generic (plainAll es)) = bareAll (plainAll es)
  | [], _ => rfl
  | e :: es, h => by
    rw [plainAll, sqlTrees, Tree.exprs, bareAll, expr_sqlTree_generic e h.1, exprs_sqlTrees_generic es h.2]

end

/-! The generic dialect shows a tree and its bare form alike. -/

theorem sqlTree_ofBareName (name : String) : (ofBareName name).sqlTree .generic = .word name.toList := by
  unfold ofBareName
  split
  · rename_i x hx
    obtain ⟨hfinite, hchars⟩ := Binary64.ofChars?_eq_some hx
    rw [sqlTree, Value.sqlTree, Sql.literal, if_pos hfinite, hchars]
    simp
  · rfl

theorem sqlTrees_shownArgs (es : List Expr) :
    Tree.shownArgs (sqlTrees .generic (shownArgs es)) = Tree.shownArgs (sqlTrees .generic es) := by
  unfold shownArgs
  split
  · simp [sqlTrees, sqlTree, column, Tree.shownArgs]
  · rfl

mutual

theorem sqlTree_bare : ∀ e : Expr, e.bare.sqlTree .generic = e.sqlTree .generic
  | literal _ => rfl
  | field f => sqlTree_ofBareName f.name
  | binary l op r => by
    rw [bare, sqlTree, sqlTree, sqlTree_bare l, sqlTree_bare r]
  | call name args => by
    rw [bare, sqlTree, sqlTree, sqlTrees_shownArgs, sqlTrees_bareAll args]

theorem sqlTrees_bareAll : ∀ es : List Expr, sqlTrees .generic (bareAll es) = sqlTrees .generic es
  | [] => rfl
  | e :: es => by
    rw [bareAll, sqlTrees, sqlTrees, sqlTree_bare e, sqlTrees_bareAll es]

end

/-- The text tells the bare form of the plain tree. -/
theorem toSql_generic_eq_iff {e₁ e₂ : Expr} (h₁ : e₁.FromWords) (h₂ : e₂.FromWords) :
    e₁.toSql .generic = e₂.toSql .generic ↔ e₁.plain.bare = e₂.plain.bare := by
  rw [toSql_eq_iff h₁ h₂]
  constructor
  · intro h
    rw [← expr_sqlTree_generic e₁ h₁, h, expr_sqlTree_generic e₂ h₂]
  · intro h
    rw [← sqlTree_bare e₁.plain, h, sqlTree_bare]

end Expr

/-! ## Accepted formulas -/

section

variable {formula₁ formula₂ : String} {limit₁ limit₂ : Nat} {e₁ e₂ : Expr}

/-- **SQL text is unambiguous** in a dialect that quotes the names of columns: it tells the plain tree. -/
theorem quoting_toSql_eq_iff {d : Dialect} (hd : d ≠ .generic) (h₁ : Expr.ofFormula formula₁ limit₁ = .ok e₁)
    (h₂ : Expr.ofFormula formula₂ limit₂ = .ok e₂) : e₁.toSql d = e₂.toSql d ↔ e₁.plain = e₂.plain :=
  Expr.toSql_eq_iff_of_shownBy (fromWords_of_ofFormula h₁) (fromWords_of_ofFormula h₂)
    fun _ _ hgeneric => absurd hgeneric hd

/-- The marks of global fields, the letter case of calls and the words for truth values are all that is lost. -/
theorem quoting_toSql_eq_iff_call : ∃ e₁ e₂, Expr.ofFormula "f(ctx.a, true)" 128 = .ok e₁ ∧
    Expr.ofFormula "F(a, 1)" 128 = .ok e₂ ∧ e₁.toSql .sqlServer = "F([a], 1)" ∧ e₁.plain = e₂.plain := by
  have hsql₁ : (Expr.ofFormula "f(ctx.a, true)" 128).toOption.map (Expr.toSql .sqlServer) = some "F([a], 1)" := by
    decide +kernel
  have hsql₂ : (Expr.ofFormula "F(a, 1)" 128).toOption.map (Expr.toSql .sqlServer) = some "F([a], 1)" := by
    decide +kernel
  obtain ⟨e₁, he₁, htext₁⟩ := exists_ok_of_map_toOption hsql₁
  obtain ⟨e₂, he₂, htext₂⟩ := exists_ok_of_map_toOption hsql₂
  exact ⟨e₁, e₂, he₁, he₂, htext₁, (quoting_toSql_eq_iff (by decide) he₁ he₂).1 (htext₁.trans htext₂.symm)⟩

/-- **The generic dialect** tells the bare form of the plain tree, and the plain tree itself if every global field has
the name of a field. -/
theorem generic_toSql_eq_iff (h₁ : Expr.ofFormula formula₁ limit₁ = .ok e₁)
    (h₂ : Expr.ofFormula formula₂ limit₂ = .ok e₂) :
    (e₁.toSql .generic = e₂.toSql .generic ↔ e₁.plain.bare = e₂.plain.bare) ∧
      ((∀ f ∈ e₁.references ++ e₂.references, f.global = true → f.Named) →
        (e₁.toSql .generic = e₂.toSql .generic ↔ e₁.plain = e₂.plain)) := by
  have hwords₁ := fromWords_of_ofFormula h₁
  have hwords₂ := fromWords_of_ofFormula h₂
  exact ⟨Expr.toSql_generic_eq_iff hwords₁ hwords₂,
    fun hnamed => Expr.toSql_eq_iff_of_shownBy hwords₁ hwords₂ fun f hf _ => hnamed f hf⟩

/-- An empty name as the only argument, and a name that is the text of a number. -/
theorem generic_toSql_eq_iff_call : ∃ e₁ e₂, Expr.ofFormula "f(ctx.) + ctx.5" 128 = .ok e₁ ∧
    Expr.ofFormula "F() + 5" 128 = .ok e₂ ∧ e₁.toSql .generic = "(F() + 5)" ∧ e₁.plain.bare = e₂.plain.bare := by
  have hsql₁ : (Expr.ofFormula "f(ctx.) + ctx.5" 128).toOption.map (Expr.toSql .generic) = some "(F() + 5)" := by
    decide +kernel
  have hsql₂ : (Expr.ofFormula "F() + 5" 128).toOption.map (Expr.toSql .generic) = some "(F() + 5)" := by
    decide +kernel
  obtain ⟨e₁, he₁, htext₁⟩ := exists_ok_of_map_toOption hsql₁
  obtain ⟨e₂, he₂, htext₂⟩ := exists_ok_of_map_toOption hsql₂
  exact ⟨e₁, e₂, he₁, he₂, htext₁, (generic_toSql_eq_iff he₁ he₂).1.1 (htext₁.trans htext₂.symm)⟩

/-- The generic dialect writes a global field whose name is a number as that number. -/
theorem generic_toSql_of_number_name : ∃ e₁ e₂, Expr.ofFormula "ctx.5" 128 = .ok e₁ ∧
    Expr.ofFormula "5" 128 = .ok e₂ ∧ e₁.toSql .generic = e₂.toSql .generic ∧ e₁.plain ≠ e₂.plain := by
  have hfield : (Expr.ofFormula "ctx.5" 128).toOption.map (fun e => (e.toSql .generic, e.plain.references.length)) =
      some ("5", 1) := by
    decide +kernel
  have hnumber : (Expr.ofFormula "5" 128).toOption.map (fun e => (e.toSql .generic, e.plain.references.length)) =
      some ("5", 0) := by
    decide +kernel
  obtain ⟨e₁, he₁, hpair₁⟩ := exists_ok_of_map_toOption hfield
  obtain ⟨e₂, he₂, hpair₂⟩ := exists_ok_of_map_toOption hnumber
  obtain ⟨htext₁, hcount₁⟩ := Prod.mk.inj hpair₁
  obtain ⟨htext₂, hcount₂⟩ := Prod.mk.inj hpair₂
  refine ⟨e₁, e₂, he₁, he₂, htext₁.trans htext₂.symm, ?_⟩
  intro hplain
  rw [hplain, hcount₂] at hcount₁
  cases hcount₁

end

end Formula
