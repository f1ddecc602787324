import Formula.Proofs.Parse.Language

/-!
# Formulas that differ in their numbers

A reader looks at the text of a number only to see whether it is a literal. So lists of tokens that differ in the texts
of their numbers alone are read in parallel, until a number that is no literal is refused in one of them.

* `Token.skeleton` : what is left of a token without its place and, if it is a number, without its text.
* `Outcome.Parallel`, `expression_parallel` : readings that take the same course.
* `literalNumber?_eq_none_of_refused` : a number that is refused is no literal.
* `ofTokens_of_skeleton` : with other numbers what is accepted is still accepted, or refused for a number.
-/

namespace Formula

open Grammar

/-! ## Skeletons -/

/-- The terminal of the token, without the text if it is a number. -/
def Token.skeleton (t : Token) : Terminal := if t.kind = .number then .number "" else t.terminal

namespace Token

variable {t t' : Token}

theorem kind_skeleton (t : Token) : t.skeleton.kind = t.kind := by
  unfold skeleton
  split
  · rename_i h
    exact h.symm
  · exact t.terminal_kind

theorem kind_eq_of_skeleton (h : t.skeleton = t'.skeleton) : t.kind = t'.kind := by
  rw [← kind_skeleton t, h, kind_skeleton]

theorem terminal_eq_of_skeleton (h : t.skeleton = t'.skeleton) (hk : t.kind ≠ .number) : t.terminal = t'.terminal := by
  have hk' : t'.kind ≠ .number := kind_eq_of_skeleton h ▸ hk
  rwa [skeleton, skeleton, if_neg hk, if_neg hk'] at h

theorem terminal_eq_operator_of_skeleton {symbol : String} (h : t.skeleton = t'.skeleton)
    (ht : t.terminal = .operator symbol) : t'.terminal = .operator symbol := by
  have hk : t.kind = .operator := kind_of_terminal ht
  exact (terminal_eq_of_skeleton h (by simp [hk])).symm.trans ht

end Token

namespace Parser

/-- The tokens are of the same kinds and, but for the numbers, of the same texts. -/
def SameSkeleton (ts ts' : List Token) : Prop := ts.map Token.skeleton = ts'.map Token.skeleton

namespace SameSkeleton

variable {ts ts' : List Token}

theorem length_eq (h : SameSkeleton ts ts') : ts.length = ts'.length := by
  simpa using congrArg List.length h

theorem tail (h : SameSkeleton ts ts') : SameSkeleton ts.tail ts'.tail := by
  rw [SameSkeleton, List.map_tail, List.map_tail]
  exact congrArg List.tail h

/-- There is a next token in both lists, or in none. -/
theorem eq_nil_or_cons (h : SameSkeleton ts ts') : ts = [] ∧ ts' = [] ∨
    ∃ t rest t' rest', ts = t :: rest ∧ ts' = t' :: rest' ∧ t.skeleton = t'.skeleton ∧ SameSkeleton rest rest' := by
  cases ts with
  | nil => exact .inl ⟨rfl, List.map_eq_nil_iff.1 h.symm⟩
  | cons t rest =>
    obtain ⟨t', rest', rfl, ht, hrest⟩ := List.map_eq_cons_iff.1 h.symm
    exact .inr ⟨t, rest, t', rest', rfl, rfl, ht.symm, hrest.symm⟩

theorem nextKind_eq (h : SameSkeleton ts ts') : nextKind ts = nextKind ts' := by
  rcases h.eq_nil_or_cons with ⟨rfl, rfl⟩ | ⟨t, rest, t', rest', rfl, rfl, ht, -⟩
  · rfl
  · exact Token.kind_eq_of_skeleton ht

theorem operatorAt?_eq (h : SameSkeleton ts ts') (level : Nat) : operatorAt? level ts = operatorAt? level ts' := by
  rcases h.eq_nil_or_cons with ⟨rfl, rfl⟩ | ⟨t, rest, t', rest', rfl, rfl, ht, -⟩
  · rfl
  · refine Option.ext fun op => ?_
    rw [operatorAt?_cons, operatorAt?_cons]
    exact and_congr_left' ⟨Token.terminal_eq_operator_of_skeleton ht, Token.terminal_eq_operator_of_skeleton ht.symm⟩

theorem unaryAt?_eq (h : SameSkeleton ts ts') : unaryAt? ts = unaryAt? ts' := by
  rcases h.eq_nil_or_cons with ⟨rfl, rfl⟩ | ⟨t, rest, t', rest', rfl, rfl, ht, -⟩
  · rfl
  · refine Option.ext fun op => ?_
    rw [unaryAt?_cons, unaryAt?_cons]
    exact ⟨Token.terminal_eq_operator_of_skeleton ht, Token.terminal_eq_operator_of_skeleton ht.symm⟩

end SameSkeleton

/-! ## Readings in parallel -/

section

variable {α β : Type}

/-- The two readings take the same course, or one of them is refused for a number that is no literal. -/
inductive Outcome.Parallel : Outcome α → Outcome α → Prop
  | left {text : String} {rest : List Token} {o : Outcome α} (not_literal : literalNumber? text = none) :
    Parallel (.refused (.invalidNumber text) rest) o
  | right {text : String} {rest : List Token} {o : Outcome α} (not_literal : literalNumber? text = none) :
    Parallel o (.refused (.invalidNumber text) rest)
  | done {a a' : α} {rest rest' : List Token} (same : SameSkeleton rest rest') :
    Parallel (.done a rest) (.done a' rest')
  | refused {why : Refusal} {rest rest' : List Token} (not_number : ∀ text, why ≠ .invalidNumber text) :
    Parallel (.refused why rest) (.refused why rest')

/-- Two readers that read in parallel where the skeletons are the same. -/
def ReadInParallel (read read' : Reader α) : Prop := ∀ ⦃ts ts'⦄, SameSkeleton ts ts' → (read ts).Parallel (read' ts')

theorem Outcome.Parallel.andThen {o o' : Outcome α} {next next' : α → Reader β} (h : o.Parallel o')
    (hn : ∀ a a', ReadInParallel (next a) (next' a')) : (o.andThen next).Parallel (o'.andThen next') := by
  cases h with
  | left not_literal => exact .left not_literal
  | right not_literal => exact .right not_literal
  | done same => exact hn _ _ same
  | refused not_number => exact .refused not_number

/-- A reading that is refused for a number is refused for one that is no literal. -/
theorem Outcome.Parallel.literalNumber?_eq_none {text : String} {rest : List Token}
    (h : (Outcome.refused (.invalidNumber text) rest : Outcome α).Parallel (.refused (.invalidNumber text) rest)) :
    literalNumber? text = none := by
  cases h with
  | left not_literal | right not_literal => exact not_literal
  | refused not_number => exact absurd rfl (not_number text)

/-- To make something of what is read takes no tokens. -/
theorem Outcome.Parallel.map {o o' : Outcome α} (h : o.Parallel o') (f f' : α → β) :
    (o.andThen fun a rest => .done (f a) rest).Parallel (o'.andThen fun a rest => .done (f' a) rest) :=
  h.andThen fun _ _ _ _ hrest => .done hrest

theorem closing_parallel (bracket : Bracket) (a a' : α) : ReadInParallel (closing bracket a) (closing bracket a') := by
  intro ts ts' h
  rcases h.eq_nil_or_cons with ⟨rfl, rfl⟩ | ⟨t, rest, t', rest', rfl, rfl, ht, hrest⟩
  · exact .refused (by simp)
  · rw [closing, closing, Token.kind_eq_of_skeleton ht]
    split
    · exact .done hrest
    · exact .refused (by simp)

variable {operand inner : Reader Expr} {more : Nat → Expr → Reader Expr}

theorem argumentsUpTo_parallel (hi : ReadInParallel inner inner) :
    ∀ bound, ReadInParallel (argumentsUpTo inner bound) (argumentsUpTo inner bound)
  | 0 => fun _ _ _ => .refused (by simp)
  | bound + 1 => by
    intro ts ts' h
    rw [argumentsUpTo_succ, argumentsUpTo_succ]
    refine (hi h).andThen fun e e' rest rest' hrest => ?_
    rw [hrest.nextKind_eq]
    split
    · exact (argumentsUpTo_parallel hi bound hrest.tail).map (e :: ·) (e' :: ·)
    · exact .done hrest

theorem arguments_parallel (hi : ReadInParallel inner inner) : ReadInParallel (arguments inner) (arguments inner) := by
  intro ts ts' h
  rw [arguments_eq, arguments_eq, h.nextKind_eq, h.length_eq]
  split
  · exact closing_parallel _ _ _ h
  · exact (argumentsUpTo_parallel hi _ h).andThen (closing_parallel _)

theorem primary_parallel (hi : ReadInParallel inner inner) : ReadInParallel (primary inner) (primary inner) := by
  intro ts ts' h
  rcases h.eq_nil_or_cons with ⟨rfl, rfl⟩ | ⟨t, rest, t', rest', rfl, rfl, ht, hrest⟩
  · exact .refused (by simp)
  · have hkind : t'.kind = t.kind := (Token.kind_eq_of_skeleton ht).symm
    cases hk : t.kind with
    | number =>
      -- the texts differ, and so may the fates of the two numbers
      rw [primary_number _ _ hk, primary_number _ _ (hkind.trans hk)]
      cases hx : literalNumber? t.text with
      | none => exact .left hx
      | some x =>
        cases hx' : literalNumber? t'.text with
        | none => exact .right hx'
        | some x' => exact .done hrest
    | identifier =>
      rw [primary_identifier _ _ hk, primary_identifier _ _ (hkind.trans hk), hrest.nextKind_eq]
      split
      · exact (arguments_parallel hi hrest.tail).map _ _
      · exact .done hrest
    | leftParen =>
      rw [primary_leftParen _ _ hk, primary_leftParen _ _ (hkind.trans hk)]
      exact (hi hrest).andThen (closing_parallel _)
    | string | boolean =>
      simp only [primary, hk, hkind]
      exact .done hrest
    | _ =>
      simp only [primary, hk, hkind]
      exact .refused (by simp)

theorem unaryWith_parallel (ho : ReadInParallel operand operand) (hi : ReadInParallel inner inner) :
    ReadInParallel (unaryWith operand inner) (unaryWith operand inner) := by
  intro ts ts' h
  rw [unaryWith_eq, unaryWith_eq, h.unaryAt?_eq]
  split
  · exact primary_parallel hi h
  · exact (ho h.tail).map _ _

theorem chainWith_parallel (ho : ReadInParallel operand operand)
    (hm : ∀ level left left', ReadInParallel (more level left) (more level left')) :
    ∀ n, ReadInParallel (chainWith operand more n) (chainWith operand more n)
  | 0 => ho
  | level + 1 => by
    intro ts ts' h
    rw [chainWith_succ, chainWith_succ]
    exact (chainWith_parallel ho hm level h).andThen (hm level)

theorem nested_parallel {read read' : Nat → Reader Expr} {budget : Nat}
    (h : ∀ smaller, budget = smaller + 1 → ReadInParallel (read smaller) (read' smaller)) :
    ReadInParallel (nested read tooDeep budget) (nested read' tooDeep budget) := by
  cases budget with
  | zero => exact fun _ _ _ => .refused (by simp)
  | succ budget => exact h budget rfl

end

/-- The readers of every budget read in parallel. -/
theorem readers_parallel (budget : Nat) : ReadInParallel (unary budget) (unary budget) ∧
    ∀ level left left', ReadInParallel (folds budget level left) (folds budget level left') := by
  induction budget using Nat.strongRecOn with
  | _ budget ih =>
    have hchain : ∀ smaller, budget = smaller + 1 → ∀ n, ReadInParallel (chain smaller n) (chain smaller n) := by
      rintro smaller rfl
      exact chainWith_parallel (ih smaller (Nat.lt_succ_self _)).1 (ih smaller (Nat.lt_succ_self _)).2
    constructor
    · intro ts ts' h
      rw [unary_eq, unary_eq, expression_eq]
      refine unaryWith_parallel ?_ ?_ h
      · exact nested_parallel fun smaller hs => (ih smaller (by omega)).1
      · exact nested_parallel fun smaller hs => hchain smaller hs _
    · intro level left left' ts ts' h
      rw [folds_eq, folds_eq, h.operatorAt?_eq]
      split
      · exact .done h
      · refine nested_parallel (fun smaller hs ts ts' h => ?_) h
        exact (hchain smaller hs level h.tail).andThen fun right right' => (ih smaller (by omega)).2 level _ _

theorem expression_parallel (budget : Nat) : ReadInParallel (expression budget) (expression budget) := by
  rw [expression_eq]
  have hreaders := readers_parallel
  exact nested_parallel fun smaller _ => chainWith_parallel (hreaders smaller).1 (hreaders smaller).2 Operator.levels

/-- **No reader refuses a number that is a literal**: it would take the same course as itself. -/
theorem literalNumber?_eq_none_of_refused {budget : Nat} {ts rest : List Token} {text : String}
    (h : expression budget ts = .refused (.invalidNumber text) rest) : literalNumber? text = none := by
  have hparallel := expression_parallel budget (show SameSkeleton ts ts from rfl)
  rw [h] at hparallel
  exact hparallel.literalNumber?_eq_none

/-! ## Parsers -/

/-- The tokens to be read have the same skeleton if all have. -/
theorem sameSkeleton_rest_ofTokens {ts ts' : List Token} (h : SameSkeleton ts ts') (maxDepth : Nat) :
    SameSkeleton (ofTokens ts maxDepth).rest (ofTokens ts' maxDepth).rest := by
  have hlast : ts.getLast?.map Token.skeleton = ts'.getLast?.map Token.skeleton := by
    rw [← List.getLast?_map, ← List.getLast?_map, h]
  unfold ofTokens
  cases ht : ts.getLast? with
  | none =>
    have ht' : ts'.getLast? = none := by simpa [ht, eq_comm] using hlast
    rw [ht']
    rfl
  | some t =>
    obtain ⟨t', ht', hskeleton⟩ : ∃ t', ts'.getLast? = some t' ∧ t'.skeleton = t.skeleton := by
      simpa [ht, eq_comm] using hlast
    have hend : t'.isEnd = t.isEnd := by rw [Token.isEnd, Token.isEnd, Token.kind_eq_of_skeleton hskeleton]
    simp only [ht', hend]
    split
    · rw [SameSkeleton, List.map_dropLast, List.map_dropLast, h]
    · exact h

/-- **With other numbers** what is accepted is still accepted, or refused for a number. -/
theorem ofTokens_of_skeleton {ts ts' : List Token} (h : SameSkeleton ts ts') {maxDepth : Nat} {e' : Expr}
    (haccepted : Expr.ofTokens ts' maxDepth = .ok e') :
    (∃ text, Expr.ofTokens ts maxDepth = .error (.invalidNumber text)) ∨ ∃ e, Expr.ofTokens ts maxDepth = .ok e := by
  obtain ⟨rest', hread', hend⟩ := parse_eq_ok_iff.1 haccepted
  have hparallel := expression_parallel (max 1 maxDepth) (sameSkeleton_rest_ofTokens h maxDepth)
  rw [maxDepth_ofTokens] at hread'
  rw [hread'] at hparallel
  rw [Expr.ofTokens, parse_eq_answer, maxDepth_ofTokens]
  generalize expression (max 1 maxDepth) (ofTokens ts maxDepth).rest = o at hparallel ⊢
  cases hparallel with
  | left => exact .inl ⟨_, rfl⟩
  | done same => exact .inr ⟨_, if_pos (same.nextKind_eq.trans hend)⟩

end Parser
end Formula
