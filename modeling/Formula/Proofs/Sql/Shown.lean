import Formula.Proofs.Render.Spelling
import Formula.Proofs.Sql.Tree
import Formula.Proofs.Unicode.UpperCase

/-!
# What SQL shows of an expression

* `Expr.plain` : the tree without what no dialect shows.
* `Expr.sqlTree`, `sqlOnto_eq_onto` : what a dialect shows of a plain tree, and that its SQL text shows just that.
* `clean_sqlTree` : of an accepted tree the names and numbers that are shown hold no mark.
* `toSql_eq_iff` : hence two accepted trees have the same SQL text exactly when the same is shown of them.
-/

namespace Formula

open Sql

/-! ## Plain trees -/

/-- The value as SQL writes it: a truth value is one or zero. -/
def Value.plain : Value → Value
  | boolean b => number (if b then .ofNat 1 else .zero false)
  | v => v

namespace Expr

mutual

/-- The tree without the marks of global fields, with one and zero for the truth values, and with the call names in
upper case. -/
def plain : Expr → Expr
  | literal v => literal v.plain
  | field f => field ⟨f.name, false⟩
  | binary l op r => binary (plain l) op (plain r)
  | call name args => call (String.ofList (Unicode.upperCase name.toList)) (plainAll args)

/-- The plain trees of a list. -/
def plainAll : List Expr → List Expr
  | [] => []
  | e :: es => plain e :: plainAll es

end

end Expr

theorem Value.literal_plain (v : Value) : Sql.literal v.plain = Sql.literal v := by
  cases v with
  | boolean b => cases b <;> decide +kernel
  | _ => rfl

/-- Of a literal word SQL shows a number or a text. -/
theorem Value.FromWord.plain_cases {v : Value} (h : v.FromWord) :
    (∃ rank, v.plain = .number (.finite false rank)) ∨ ∃ s, v.plain = .string s := by
  cases v with
  | null => exact h.elim
  | boolean b =>
    have hone : Binary64.ofNat 1 = .finite false ⟨1023 * 2 ^ 52, by decide⟩ := by decide +kernel
    cases b with
    | true => exact .inl ⟨_, by rw [plain, if_pos rfl, hone]⟩
    | false => exact .inl ⟨_, by rw [plain, if_neg Bool.false_ne_true, Binary64.zero]⟩
  | number x =>
    obtain ⟨rank, rfl⟩ := h
    exact .inl ⟨rank, rfl⟩
  | string s => exact .inr ⟨s, rfl⟩

/-! ## What a dialect shows -/

/-- How a literal shows: a text in quotes, anything else as a word. -/
def Value.sqlTree : Value → Tree
  | .string s => .quoted .single s.toList
  | v => .word (Sql.literal v)

/-- How the name of a column shows. -/
def Sql.column : Dialect → List Char → Tree
  | .sqlServer, cs => .quoted .brackets cs
  | .postgres, cs => .quoted .double cs
  | .generic, cs => .word cs

namespace Expr

mutual

/-- What the dialect shows of a plain tree. -/
def sqlTree (d : Dialect) : Expr → Tree
  | literal v => v.sqlTree
  | field f => column d f.name.toList
  | binary l op r => .operation (sqlTree d l) op (sqlTree d r)
  | call name args => .call name.toList (Tree.shownArgs (sqlTrees d args))

/-- What the dialect shows of a list of plain trees. -/
def sqlTrees (d : Dialect) : List Expr → List Tree
  | [] => []
  | e :: es => sqlTree d e :: sqlTrees d es

end

end Expr

/-- A number shows its digits. -/
theorem Value.sqlTree_number (rank : Fin Binary64.rankCount) :
    (number (.finite false rank)).sqlTree = .word (Binary64.finite false rank).chars := by
  have hfinite : (Binary64.finite false rank).isFinite = true := rfl
  rw [sqlTree, Sql.literal, if_pos hfinite]
  simp

theorem Value.onto_sqlTree (v : Value) (rest : List Char) : v.sqlTree.onto rest = Sql.literal v ++ rest := by
  cases v <;> rfl

theorem Sql.onto_column (d : Dialect) (cs rest : List Char) :
    (column d cs).onto rest = Sql.identifier d cs ++ rest := by
  cases d <;> rfl

namespace Expr

mutual

/-- **The SQL text shows the tree.** -/
theorem sqlOnto_eq_onto (d : Dialect) : ∀ (e : Expr) (rest : List Char),
    e.sqlOnto d rest = (e.plain.sqlTree d).onto rest
  | literal v, rest => by
    rw [sqlOnto, plain, sqlTree, Value.onto_sqlTree, Value.literal_plain]
  | field f, rest => by
    rw [sqlOnto, plain, sqlTree, Sql.onto_column]
  | binary l op r, rest => by
    rw [sqlOnto, plain, sqlTree, Tree.onto, sqlOnto_eq_onto d l, sqlOnto_eq_onto d r]
  | call name args, rest => by
    rw [sqlOnto, plain, sqlTree, Tree.onto, Tree.argsOnto_shownArgs, sqlArgsOnto_eq_argsOnto d args,
      String.toList_ofList]

theorem sqlArgsOnto_eq_argsOnto (d : Dialect) : ∀ (es : List Expr) (rest : List Char),
    sqlArgsOnto d es rest = Tree.argsOnto (sqlTrees d (plainAll es)) rest
  | [], _ => rfl
  | [e], rest => by
    rw [sqlArgsOnto, sqlOnto_eq_onto d e]
    rfl
  | e :: e' :: es, rest => by
    rw [sqlArgsOnto, sqlOnto_eq_onto d e, sqlArgsOnto_eq_argsOnto d (e' :: es)]
    · rfl
    · simp

end

end Expr

/-! ## Accepted trees show clean -/

/-- Neither the characters of numbers and names nor capital letters and characters beyond ASCII are marks. -/
theorem isWordChar_of_apart {p : Char → Bool} (hp : (marks.all fun c => !p c) = true) {c : Char} (hc : p c = true) :
    isWordChar c = true := by
  have hnot : c ∉ marks := by
    intro hmem
    have hmark := List.all_eq_true.1 hp c hmem
    rw [hc] at hmark
    cases hmark
  simpa [isWordChar] using hnot

theorem isWord_chars (rank : Fin Binary64.rankCount) : IsWord (Binary64.finite false rank).chars :=
  fun c hc => isWordChar_of_apart (p := isNumberChar) (by decide) ((isNumber_chars rank).forall_mem c hc)

theorem isWordChar_of_isNameChar {c : Char} (h : isNameChar c = true) : isWordChar c = true :=
  isWordChar_of_apart (p := isNameChar) (by decide +kernel) h

/-- The bare name of a field is what is left of an identifier. -/
theorem Field.name_subset_key (f : Field) : ∀ c ∈ f.name.toList, c ∈ f.key.toList := by
  intro c hc
  unfold key
  split
  · simp [hc]
  · exact hc

theorem Field.FromWord.isWord_name {f : Field} (h : f.FromWord) : IsWord f.name.toList := by
  obtain ⟨identifier, rfl, hname, -⟩ := h
  intro c hc
  have hkey := name_subset_key _ c hc
  rw [key_ofIdentifier] at hkey
  exact isWordChar_of_isNameChar (hname.forall_mem c hkey)

/-- The upper case of a call name is a word that is not empty. -/
theorem CalledFromWord.isWord_upperCase {name : String} (h : CalledFromWord name) :
    IsWord (Unicode.upperCase name.toList) ∧ Unicode.upperCase name.toList ≠ [] := by
  obtain ⟨identifier, rfl, hname⟩ := h
  obtain ⟨d, ds, hlower, -, hall⟩ := exists_lowerCase_of_isName hname
  rw [String.toList_ofList, hlower]
  refine ⟨fun c hc => ?_, Unicode.upperCase_ne_nil (List.cons_ne_nil d ds)⟩
  rcases Unicode.mem_upperCase hc with hc | hcapital
  · rcases hall c hc with hchar | rfl
    · exact isWordChar_of_isNameChar hchar
    · decide
  · exact isWordChar_of_apart (p := fun c => Unicode.inRanges c.toNat Unicode.capitalRanges) (by decide +kernel)
      hcapital

theorem Value.FromWord.clean_sqlTree {v : Value} (h : v.FromWord) : v.plain.sqlTree.Clean := by
  rcases h.plain_cases with ⟨rank, hv⟩ | ⟨s, hv⟩
  · rw [hv, Value.sqlTree_number]
    exact isWord_chars rank
  · rw [hv]
    trivial

theorem Field.FromWord.clean_column {f : Field} (h : f.FromWord) (d : Dialect) : (column d f.name.toList).Clean := by
  cases d with
  | generic => exact h.isWord_name
  | _ => trivial

namespace Expr

theorem cleanAll_shownArgs {ts : List Tree} (h : Tree.CleanAll ts) : Tree.CleanAll (Tree.shownArgs ts) := by
  unfold Tree.shownArgs
  split
  · trivial
  · exact h

mutual

/-- **What is shown of a tree made of words** is clean. -/
theorem clean_sqlTree (d : Dialect) : ∀ e : Expr, e.FromWords → (e.plain.sqlTree d).Clean
  | literal _, h => Value.FromWord.clean_sqlTree h
  | field _, h => Field.FromWord.clean_column h d
  | binary l _ r, h => ⟨clean_sqlTree d l h.1, clean_sqlTree d r h.2⟩
  | call name args, h => by
    obtain ⟨hword, hne⟩ := h.1.isWord_upperCase
    rw [plain, sqlTree, String.toList_ofList]
    exact ⟨hword, hne, Tree.shownArgs_ne _, cleanAll_shownArgs (cleanAll_sqlTrees d args h.2)⟩

theorem cleanAll_sqlTrees (d : Dialect) : ∀ es : List Expr, FromWordsAll es → Tree.CleanAll (sqlTrees d (plainAll es))
  | [], _ => trivial
  | e :: es, h => ⟨clean_sqlTree d e h.1, cleanAll_sqlTrees d es h.2⟩

end

/-- **The SQL text tells what it shows**, in every dialect. -/
theorem toSql_eq_iff {d : Dialect} {e₁ e₂ : Expr} (h₁ : e₁.FromWords) (h₂ : e₂.FromWords) :
    e₁.toSql d = e₂.toSql d ↔ e₁.plain.sqlTree d = e₂.plain.sqlTree d := by
  rw [toSql, toSql, String.ofList_inj, sqlOnto_eq_onto, sqlOnto_eq_onto]
  constructor
  · intro h
    exact (Tree.eq_of_onto _ _ (clean_sqlTree d e₁ h₁) (clean_sqlTree d e₂ h₂) ends_nil ends_nil h).1
  · intro h
    rw [h]

end Expr
end Formula
