import Formula.Proofs.Parse.Sound

/-!
# The budget only refuses

A larger budget changes nothing but refusals for depth (`expression_below`), and a budget above the number of tokens is
never used up (`expression_sufficient`).
-/

namespace Formula.Parser

open Grammar

/-! ## A larger budget -/

section Below

variable {α β : Type}

/-- The one outcome is a refusal for depth, or it is the other outcome. -/
def Outcome.Within (o o' : Outcome α) : Prop := (∃ rest, o = .refused .tooDeep rest) ∨ o = o'

/-- The one reader differs from the other only by refusals for depth. -/
def Below (read read' : Reader α) : Prop := ∀ ts, (read ts).Within (read' ts)

theorem Outcome.Within.refl (o : Outcome α) : o.Within o := .inr rfl

theorem Outcome.Within.trans {o₁ o₂ o₃ : Outcome α} (h : o₁.Within o₂) (h' : o₂.Within o₃) : o₁.Within o₃ := by
  rcases h with h | rfl
  · exact .inl h
  · exact h'

theorem Outcome.Within.andThen {o o' : Outcome α} {next next' : α → Reader β} (h : o.Within o')
    (hn : ∀ a, Below (next a) (next' a)) : (o.andThen next).Within (o'.andThen next') := by
  rcases h with ⟨rest, rfl⟩ | rfl
  · exact .inl ⟨rest, rfl⟩
  · cases o with
    | refused why rest => exact .refl _
    | done a rest => exact hn a rest

theorem below_refl (read : Reader α) : Below read read := fun _ => .refl _

variable {operand operand' inner inner' : Reader Expr} {more more' : Nat → Expr → Reader Expr}

theorem argumentsUpTo_below (hi : Below inner inner') :
    ∀ bound, Below (argumentsUpTo inner bound) (argumentsUpTo inner' bound)
  | 0 => below_refl _
  | bound + 1 => by
    intro ts
    rw [argumentsUpTo_succ, argumentsUpTo_succ]
    refine (hi ts).andThen fun e rest => ?_
    split
    · exact (argumentsUpTo_below hi bound rest.tail).andThen fun es => below_refl _
    · exact .refl _

theorem arguments_below (hi : Below inner inner') : Below (arguments inner) (arguments inner') := by
  intro ts
  rw [arguments_eq, arguments_eq]
  split
  · exact .refl _
  · exact (argumentsUpTo_below hi _ ts).andThen fun es => below_refl _

theorem primary_below (hi : Below inner inner') : Below (primary inner) (primary inner') := by
  intro ts
  cases ts with
  | nil => exact .refl _
  | cons t ts =>
    cases hk : t.kind with
    | identifier =>
      rw [primary_identifier _ _ hk, primary_identifier _ _ hk]
      split
      · exact (arguments_below hi ts.tail).andThen fun args => below_refl _
      · exact .refl _
    | leftParen =>
      rw [primary_leftParen _ _ hk, primary_leftParen _ _ hk]
      exact (hi ts).andThen fun e => below_refl _
    | _ =>
      simp only [primary, hk]
      exact .refl _

theorem unaryWith_below (ho : Below operand operand') (hi : Below inner inner') :
    Below (unaryWith operand inner) (unaryWith operand' inner') := by
  intro ts
  rw [unaryWith_eq, unaryWith_eq]
  split
  · exact primary_below hi ts
  · exact (ho ts.tail).andThen fun e => below_refl _

theorem chainWith_below (ho : Below operand operand') (hm : ∀ level left, Below (more level left) (more' level left)) :
    ∀ n, Below (chainWith operand more n) (chainWith operand' more' n)
  | 0 => ho
  | level + 1 => by
    intro ts
    rw [chainWith_succ, chainWith_succ]
    exact (chainWith_below ho hm level ts).andThen (hm level)

theorem nested_below {read : Nat → Reader Expr} {budget : Nat}
    (h : ∀ smaller, budget = smaller + 1 → Below (read smaller) (read budget)) :
    Below (nested read tooDeep budget) (nested read tooDeep (budget + 1)) := by
  cases budget with
  | zero => exact fun ts => .inl ⟨ts, rfl⟩
  | succ budget => exact h budget rfl

end Below

/-- One more of the budget changes nothing but refusals for depth. -/
theorem readers_below_succ (budget : Nat) : Below (unary budget) (unary (budget + 1)) ∧
    ∀ level left, Below (folds budget level left) (folds (budget + 1) level left) := by
  induction budget using Nat.strongRecOn with
  | _ budget ih =>
    have hunary : ∀ smaller, budget = smaller + 1 → Below (unary smaller) (unary budget) := by
      rintro smaller rfl
      exact (ih smaller (Nat.lt_succ_self _)).1
    have hchain : ∀ smaller, budget = smaller + 1 → ∀ n, Below (chain smaller n) (chain budget n) := by
      rintro smaller rfl
      exact chainWith_below (ih smaller (Nat.lt_succ_self _)).1 (ih smaller (Nat.lt_succ_self _)).2
    constructor
    · intro ts
      rw [unary_eq, unary_eq, expression_eq, expression_eq]
      exact unaryWith_below (nested_below hunary) (nested_below fun smaller hs => hchain smaller hs _) ts
    · intro level left ts
      rw [folds_eq, folds_eq]
      split
      · exact .refl _
      · refine nested_below (fun smaller hs ts => ?_) ts
        refine (hchain smaller hs level ts.tail).andThen fun right => ?_
        subst hs
        exact (ih smaller (Nat.lt_succ_self _)).2 level _

theorem expression_below_succ (budget : Nat) : Below (expression budget) (expression (budget + 1)) := by
  rw [expression_eq, expression_eq]
  refine nested_below fun smaller hs => ?_
  subst hs
  exact chainWith_below (readers_below_succ smaller).1 (readers_below_succ smaller).2 _

/-- **A larger budget changes nothing but refusals for depth.** -/
theorem expression_below {budget larger : Nat} (h : budget ≤ larger) :
    Below (expression budget) (expression larger) := by
  induction h with
  | refl => exact below_refl _
  | step _ ih => exact fun ts => (ih ts).trans (expression_below_succ _ ts)

/-! ## A budget above the number of tokens -/

section Sufficient

/-- On at most `bound` tokens the reader does not refuse for depth. -/
def Sufficient {α : Type} (read : Reader α) (bound : Nat) : Prop :=
  ∀ ⦃ts : List Token⦄, ts.length ≤ bound → ∀ rest, read ts ≠ .refused .tooDeep rest

theorem Reads.length_le {α : Type} {read : Reader α} {P : List Terminal → α → Prop} (h : Reads read P)
    {ts : List Token} {a : α} {rest : List Token} (ha : read ts = .done a rest) : rest.length ≤ ts.length := by
  obtain ⟨used, rfl, -⟩ := h ha
  simp

variable {operand inner : Reader Expr} {more : Nat → Expr → Reader Expr} {bound : Nat}

theorem argumentsUpTo_sufficient (hr : Reads inner (ChainOf Operator.levels)) (hi : Sufficient inner bound) :
    ∀ count, Sufficient (argumentsUpTo inner count) bound
  | 0 => by
    intro ts _ rest h
    cases h
  | count + 1 => by
    intro ts hts rest h
    rw [argumentsUpTo_succ] at h
    rcases Outcome.andThen_eq_refused.1 h with h | ⟨e, mid, he, h⟩
    · exact hi hts rest h
    · have hmid := hr.length_le he
      split at h
      · rcases Outcome.andThen_eq_refused.1 h with h | ⟨es, mid', _, h⟩
        · refine argumentsUpTo_sufficient hr hi count ?_ rest h
          rw [List.length_tail]
          omega
        · cases h
      · cases h

theorem closing_ne_tooDeep {α : Type} (bracket : Bracket) (value : α) (ts rest : List Token) :
    closing bracket value ts ≠ .refused .tooDeep rest := by
  cases ts with
  | nil => simp [closing]
  | cons t ts =>
    rw [closing]
    split <;> simp

theorem arguments_sufficient (hr : Reads inner (ChainOf Operator.levels)) (hi : Sufficient inner bound) :
    Sufficient (arguments inner) bound := by
  intro ts hts rest h
  rw [arguments_eq] at h
  split at h
  · exact closing_ne_tooDeep _ _ _ _ h
  · rcases Outcome.andThen_eq_refused.1 h with h | ⟨es, mid, _, h⟩
    · exact argumentsUpTo_sufficient hr hi _ hts rest h
    · exact closing_ne_tooDeep _ _ _ _ h

theorem primary_sufficient (hr : Reads inner (ChainOf Operator.levels))
    (hi : ∀ fewer, bound = fewer + 1 → Sufficient inner fewer) : Sufficient (primary inner) bound := by
  intro ts hts rest h
  cases ts with
  | nil => cases h
  | cons t ts =>
    obtain ⟨fewer, rfl⟩ := Nat.exists_eq_add_one_of_ne_zero (n := bound) (by simp at hts; omega)
    have hlen : ts.length ≤ fewer := by simpa using hts
    cases hk : t.kind with
    | number =>
      rw [primary_number _ _ hk] at h
      split at h <;> cases h
    | identifier =>
      rw [primary_identifier _ _ hk] at h
      split at h
      · rcases Outcome.andThen_eq_refused.1 h with h | ⟨args, mid, _, h⟩
        · refine arguments_sufficient hr (hi fewer rfl) ?_ rest h
          rw [List.length_tail]
          omega
        · cases h
      · cases h
    | leftParen =>
      rw [primary_leftParen _ _ hk] at h
      rcases Outcome.andThen_eq_refused.1 h with h | ⟨e, mid, _, h⟩
      · exact hi fewer rfl hlen rest h
      · exact closing_ne_tooDeep _ _ _ _ h
    | _ =>
      simp only [primary, hk] at h
      cases h

theorem unaryWith_sufficient (hr : Reads inner (ChainOf Operator.levels))
    (ho : ∀ fewer, bound = fewer + 1 → Sufficient operand fewer)
    (hi : ∀ fewer, bound = fewer + 1 → Sufficient inner fewer) : Sufficient (unaryWith operand inner) bound := by
  intro ts hts rest h
  rw [unaryWith_eq] at h
  split at h
  · exact primary_sufficient hr hi hts rest h
  · rename_i op hop
    obtain ⟨t, ts, rfl, -⟩ := unaryAt?_eq_some hop
    obtain ⟨fewer, rfl⟩ := Nat.exists_eq_add_one_of_ne_zero (n := bound) (by simp at hts; omega)
    rcases Outcome.andThen_eq_refused.1 h with h | ⟨e, mid, _, h⟩
    · exact ho fewer rfl (by simpa using hts) rest h
    · cases h

theorem chainWith_sufficient (hr : ∀ n, Reads (chainWith operand more n) (ChainOf n)) (ho : Sufficient operand bound)
    (hm : ∀ level left, Sufficient (more level left) bound) : ∀ n, Sufficient (chainWith operand more n) bound
  | 0 => ho
  | level + 1 => by
    intro ts hts rest h
    rw [chainWith_succ] at h
    rcases Outcome.andThen_eq_refused.1 h with h | ⟨left, mid, hl, h⟩
    · exact chainWith_sufficient hr ho hm level hts rest h
    · exact hm level left (Nat.le_trans ((hr level).length_le hl) hts) rest h

end Sufficient

theorem nested_eq_succ {read : Nat → Reader Expr} {budget fewer : Nat} (h : budget = fewer + 1) :
    nested read tooDeep budget = read fewer := by
  subst h
  rfl

/-- A budget of the number of tokens is enough for them. -/
theorem readers_sufficient (budget : Nat) : Sufficient (unary budget) budget ∧
    ∀ level left, Sufficient (folds budget level left) budget := by
  induction budget using Nat.strongRecOn with
  | _ budget ih =>
    have hchain : ∀ fewer, budget = fewer + 1 → ∀ n, Sufficient (chain fewer n) fewer := by
      rintro fewer rfl
      exact chainWith_sufficient (chain_sound fewer) (ih fewer (Nat.lt_succ_self _)).1 (ih fewer (Nat.lt_succ_self _)).2
    constructor
    · intro ts hts rest h
      rw [unary_eq] at h
      refine unaryWith_sufficient (expression_sound budget) ?_ ?_ hts rest h
      · intro fewer hf
        rw [nested_eq_succ hf]
        exact (ih fewer (by omega)).1
      · intro fewer hf
        rw [expression_eq, nested_eq_succ hf]
        exact hchain fewer hf _
    · intro level left ts hts rest h
      rw [folds_eq] at h
      split at h
      · cases h
      · rename_i op hop
        obtain ⟨t, ts, rfl, -⟩ := operatorAt?_eq_some hop
        obtain ⟨fewer, hf⟩ := Nat.exists_eq_add_one_of_ne_zero (n := budget) (by simp at hts; omega)
        rw [nested_eq_succ hf] at h
        have hlen : ts.length ≤ fewer := by simp at hts; omega
        rcases Outcome.andThen_eq_refused.1 h with h | ⟨right, mid, hr, h⟩
        · exact hchain fewer hf level hlen rest h
        · have hmid := (chain_sound fewer level).length_le hr
          exact (ih fewer (by omega)).2 level _ (Nat.le_trans hmid hlen) rest h

/-- **A budget above the number of tokens is not used up.** -/
theorem expression_sufficient {budget : Nat} {ts : List Token} (h : ts.length < budget) (rest : List Token) :
    expression budget ts ≠ .refused .tooDeep rest := by
  obtain ⟨fewer, rfl⟩ := Nat.exists_eq_add_one_of_ne_zero (n := budget) (by omega)
  have hs := readers_sufficient fewer
  exact chainWith_sufficient (chain_sound fewer) hs.1 hs.2 _ (Nat.lt_succ_iff.1 h) rest

end Formula.Parser
