import Formula.Proofs.Parse.Readers

/-!
# Whatever is read is derived

When a reader is done, the tokens it took are the sentence of a derivation and what it read is that derivation's tree
(`readers_sound`, `expression_sound`). Each combination of readers keeps this; the induction is on the budget.
-/

namespace Formula.Parser

open Grammar

/-! ## Readers that take sentences -/

/-- Whenever the reader is done, the tokens it took and the value it read are related by `P`. -/
def Reads {α : Type} (read : Reader α) (P : List Terminal → α → Prop) : Prop :=
  ∀ ⦃ts : List Token⦄ ⦃a : α⦄ ⦃rest : List Token⦄, read ts = .done a rest →
    ∃ used, ts = used ++ rest ∧ P (used.map Token.terminal) a

/-- The tree of some chain with these terminals. -/
def ChainOf (n : Nat) (ws : List Terminal) (e : Expr) : Prop := ∃ c : Chain n, c.words = ws ∧ c.tree = e

/-- What some operators with these terminals make of the expression in front of them. -/
def LinksOf (n : Nat) (left : Expr) (ws : List Terminal) (e : Expr) : Prop :=
  ∃ l : Links n, l.words = ws ∧ l.fold left = e

def UnaryOf (ws : List Terminal) (e : Expr) : Prop := ∃ u : Unary, u.words = ws ∧ u.tree = e

def PrimaryOf (ws : List Terminal) (e : Expr) : Prop := ∃ p : Primary, p.words = ws ∧ p.tree = e

def ArgumentsOf (ws : List Terminal) (es : List Expr) : Prop := ∃ a : Arguments, a.words = ws ∧ a.trees = es

theorem reads_tooDeep (P : List Terminal → Expr → Prop) : Reads tooDeep P := by
  intro ts e rest h
  cases h

theorem reads_nested {read : Nat → Reader Expr} {P : List Terminal → Expr → Prop} {budget : Nat}
    (h : ∀ smaller, budget = smaller + 1 → Reads (read smaller) P) : Reads (nested read tooDeep budget) P := by
  cases budget with
  | zero => exact reads_tooDeep P
  | succ budget => exact h budget rfl

theorem exists_of_closing {α : Type} {bracket : Bracket} {value a : α} {ts rest : List Token}
    (h : closing bracket value ts = .done a rest) : ∃ t, ts = t :: rest ∧ t.terminal = .rightParen ∧ value = a := by
  cases ts with
  | nil => cases h
  | cons t ts =>
    rw [closing] at h
    split at h
    · rename_i hk
      cases h
      exact ⟨t, rfl, (Token.terminal_eq_iff rfl).2 hk, rfl⟩
    · cases h

/-! ## The combinations of readers -/

section Combinations

variable {operand inner : Reader Expr} {more : Nat → Expr → Reader Expr}

theorem argumentsUpTo_sound (hi : Reads inner (ChainOf Operator.levels)) :
    ∀ bound, Reads (argumentsUpTo inner bound) ArgumentsOf
  | 0 => by
    intro ts es rest h
    cases h
  | bound + 1 => by
    intro ts es rest h
    rw [argumentsUpTo_succ] at h
    obtain ⟨e, mid, he, h⟩ := Outcome.andThen_eq_done.1 h
    obtain ⟨used, rfl, c, hc, rfl⟩ := hi he
    split at h
    · rename_i hk
      obtain ⟨comma, mid, rfl, hcomma⟩ := (nextKind_eq_kind (w := .comma) rfl (by decide)).1 hk
      obtain ⟨es', mid', hes, h⟩ := Outcome.andThen_eq_done.1 h
      cases h
      obtain ⟨used', hmid, a, ha, rfl⟩ := argumentsUpTo_sound hi bound hes
      rw [List.tail_cons] at hmid
      refine ⟨used ++ comma :: used', by simp [hmid], .cons c a, ?_, rfl⟩
      simp [Arguments.words, hc, ha, hcomma]
    · cases h
      exact ⟨used, rfl, .last c, hc, rfl⟩

/-- What stands between the parentheses of a call, and the closing one: nothing or arguments. -/
theorem arguments_sound (hi : Reads inner (ChainOf Operator.levels)) {name : Token}
    {opening : Token} (hn : name.kind = .identifier) (ho : opening.terminal = .leftParen) {ts : List Token}
    {es : List Expr} {rest : List Token} (h : arguments inner ts = .done es rest) :
    ∃ used, ts = used ++ rest ∧ PrimaryOf ((name :: opening :: used).map Token.terminal) (.callOf name.text es) := by
  have hname : name.terminal = .identifier name.text := by simp [Token.terminal, hn]
  rw [arguments_eq] at h
  split at h
  · obtain ⟨close, rfl, hc, rfl⟩ := exists_of_closing h
    exact ⟨[close], rfl, .emptyCall name.text, by simp [Primary.words, hname, ho, hc], rfl⟩
  · obtain ⟨es', mid, hes, h⟩ := Outcome.andThen_eq_done.1 h
    obtain ⟨close, rfl, hc, rfl⟩ := exists_of_closing h
    obtain ⟨used, rfl, a, ha, rfl⟩ := argumentsUpTo_sound hi _ hes
    exact ⟨used ++ [close], by simp, .call name.text a, by simp [Primary.words, hname, ho, hc, ha], rfl⟩

theorem primary_sound (hi : Reads inner (ChainOf Operator.levels)) : Reads (primary inner) PrimaryOf := by
  intro ts e rest h
  cases ts with
  | nil => cases h
  | cons t ts =>
    cases hk : t.kind with
    | number =>
      rw [primary_number _ _ hk] at h
      split at h
      · rename_i x hx
        cases h
        exact ⟨[t], rfl, .number t.text x hx, by simp [Primary.words, Token.terminal, hk], rfl⟩
      · cases h
    | string =>
      simp only [primary, hk] at h
      cases h
      exact ⟨[t], rfl, .string t.text, by simp [Primary.words, Token.terminal, hk], rfl⟩
    | boolean =>
      simp only [primary, hk] at h
      cases h
      exact ⟨[t], rfl, .boolean t.text, by simp [Primary.words, Token.terminal, hk], rfl⟩
    | identifier =>
      rw [primary_identifier _ _ hk] at h
      split at h
      · rename_i hopen
        obtain ⟨opening, ts, rfl, ho⟩ := (nextKind_eq_kind (w := .leftParen) rfl (by decide)).1 hopen
        obtain ⟨args, mid, ha, h⟩ := Outcome.andThen_eq_done.1 h
        cases h
        obtain ⟨used, hts, hp⟩ := arguments_sound hi hk ho ha
        rw [List.tail_cons] at hts
        exact ⟨t :: opening :: used, by simp [hts], hp⟩
      · cases h
        exact ⟨[t], rfl, .field t.text, by simp [Primary.words, Token.terminal, hk], rfl⟩
    | leftParen =>
      rw [primary_leftParen _ _ hk] at h
      obtain ⟨e', mid, he, h⟩ := Outcome.andThen_eq_done.1 h
      obtain ⟨close, rfl, hc, rfl⟩ := exists_of_closing h
      obtain ⟨used, rfl, c, hw, rfl⟩ := hi he
      have ho : t.terminal = .leftParen := (Token.terminal_eq_iff rfl).2 hk
      exact ⟨t :: (used ++ [close]), by simp, .group c, by simp [Primary.words, ho, hc, hw], rfl⟩
    | operator | rightParen | comma | endOfInput =>
      simp only [primary, hk] at h
      cases h

theorem unaryWith_sound (ho : Reads operand UnaryOf) (hi : Reads inner (ChainOf Operator.levels)) :
    Reads (unaryWith operand inner) UnaryOf := by
  intro ts e rest h
  rw [unaryWith_eq] at h
  split at h
  · obtain ⟨used, hts, p, hw, ht⟩ := primary_sound hi h
    exact ⟨used, hts, .primary p, hw, ht⟩
  · rename_i op hop
    obtain ⟨t, ts, rfl, ht⟩ := unaryAt?_eq_some hop
    obtain ⟨e', mid, he, h⟩ := Outcome.andThen_eq_done.1 h
    cases h
    obtain ⟨used, hts, u, hw, rfl⟩ := ho he
    rw [List.tail_cons] at hts
    exact ⟨t :: used, by simp [hts], .sign op u, by simp [Unary.words, hw, ht], u.tree_sign op⟩

theorem chainWith_sound (ho : Reads operand UnaryOf)
    (hm : ∀ level left, Reads (more level left) (LinksOf level left)) :
    ∀ n, Reads (chainWith operand more n) (ChainOf n)
  | 0 => by
    intro ts e rest h
    obtain ⟨used, hts, u, hw, ht⟩ := ho h
    exact ⟨used, hts, .unary u, hw, ht⟩
  | level + 1 => by
    intro ts e rest h
    rw [chainWith_succ] at h
    obtain ⟨left, mid, hl, h⟩ := Outcome.andThen_eq_done.1 h
    obtain ⟨used, rfl, c, hc, rfl⟩ := chainWith_sound ho hm level hl
    obtain ⟨used', rfl, l, hw, rfl⟩ := hm level c.tree h
    exact ⟨used ++ used', by simp, .level c l, by simp [Chain.words, hc, hw], rfl⟩

end Combinations

/-! ## The readers -/

/-- The readers of every budget take sentences and read their trees. -/
theorem readers_sound (budget : Nat) :
    Reads (unary budget) UnaryOf ∧ ∀ level left, Reads (folds budget level left) (LinksOf level left) := by
  induction budget using Nat.strongRecOn with
  | _ budget ih =>
    have hchain : ∀ smaller, budget = smaller + 1 → ∀ n, Reads (chain smaller n) (ChainOf n) := fun smaller hs =>
      chainWith_sound (ih smaller (by omega)).1 (ih smaller (by omega)).2
    constructor
    · intro ts e rest h
      rw [unary_eq, expression_eq] at h
      refine unaryWith_sound ?_ ?_ h
      · exact reads_nested fun smaller hs => (ih smaller (by omega)).1
      · exact reads_nested fun smaller hs => hchain smaller hs Operator.levels
    · intro level left ts e rest h
      rw [folds_eq] at h
      split at h
      · cases h
        exact ⟨[], rfl, .nil, rfl, rfl⟩
      · rename_i op hop
        obtain ⟨t, ts, rfl, ht, hl⟩ := operatorAt?_eq_some hop
        cases budget with
        | zero => cases h
        | succ budget =>
          obtain ⟨right, mid, hr, h⟩ := Outcome.andThen_eq_done.1 h
          obtain ⟨used, hts, c, hc, rfl⟩ := hchain budget rfl level hr
          obtain ⟨used', rfl, l, hw, rfl⟩ := (ih budget (by omega)).2 level _ h
          rw [List.tail_cons] at hts
          exact ⟨t :: (used ++ used'), by simp [hts], .cons op hl c l, by simp [Links.words, hc, hw, ht], rfl⟩

theorem chain_sound (budget n : Nat) : Reads (chain budget n) (ChainOf n) :=
  chainWith_sound (readers_sound budget).1 (readers_sound budget).2 n

theorem expression_sound (budget : Nat) : Reads (expression budget) (ChainOf Operator.levels) := by
  rw [expression_eq]
  exact reads_nested fun smaller _ => chain_sound smaller Operator.levels

end Formula.Parser
