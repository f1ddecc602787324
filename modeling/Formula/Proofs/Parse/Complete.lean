import Formula.Proofs.Parse.Readers

/-!
# Every derivation is read

The readers on the tokens of a derivation, with any tokens behind it that do not go on with it: when the budget covers
the nesting that the derivation needs, exactly its tokens are taken and its tree is read; when not, the reading is
refused for its depth (`chain_takes` and its companions, `expression_takes`).
-/

namespace Formula.Parser

open Grammar

/-! ## Readings measured by a need -/

section Takes

variable {α β : Type} {budget m n : Nat} {value : α} {rest : List Token}

/-- The reading comes to the value if the budget covers the need, and is refused for its depth if not. -/
def Outcome.Takes (o : Outcome α) (budget need : Nat) (value : α) (rest : List Token) : Prop :=
  (need ≤ budget → o = .done value rest) ∧ (budget < need → ∃ left, o = .refused .tooDeep left)

theorem takes_done (budget : Nat) (value : α) (rest : List Token) :
    (Outcome.done value rest).Takes budget 0 value rest :=
  ⟨fun _ => rfl, fun h => absurd h (Nat.not_lt_zero _)⟩

/-- Two readings one behind the other need what the more demanding one needs. -/
theorem Outcome.Takes.andThen {o : Outcome α} {next : α → Reader β} {mid : List Token} {b : β}
    (h : o.Takes budget m value mid) (h' : (next value mid).Takes budget n b rest) :
    (o.andThen next).Takes budget (max m n) b rest := by
  constructor
  · intro hb
    rw [h.1 (by omega)]
    exact h'.1 (by omega)
  · intro hb
    by_cases hm : m ≤ budget
    · rw [h.1 hm]
      exact h'.2 (by omega)
    · obtain ⟨left, hl⟩ := h.2 (by omega)
      exact ⟨left, by rw [hl]; rfl⟩

theorem Outcome.Takes.andThen_done {o : Outcome α} {next : α → Reader β} {mid : List Token} {b : β}
    (h : o.Takes budget n value mid) (h' : next value mid = .done b rest) : (o.andThen next).Takes budget n b rest := by
  refine ⟨fun hb => by rw [h.1 hb]; exact h', fun hb => ?_⟩
  obtain ⟨left, hl⟩ := h.2 hb
  exact ⟨left, by rw [hl]; rfl⟩

/-- One level deeper the need is one more. -/
theorem takes_nested {read : Nat → Reader Expr} {ts : List Token} {e : Expr}
    (h : ∀ budget, (read budget ts).Takes budget n e rest) (budget : Nat) :
    (nested read tooDeep budget ts).Takes budget (1 + n) e rest := by
  cases budget with
  | zero => exact ⟨fun hb => absurd hb (by omega), fun _ => ⟨ts, rfl⟩⟩
  | succ budget => exact ⟨fun hb => (h budget).1 (by omega), fun hb => (h budget).2 (by omega)⟩

theorem expression_takes_of_chain {ts : List Token} {e : Expr}
    (h : ∀ budget, (chain budget Operator.levels ts).Takes budget n e rest) (budget : Nat) :
    (expression budget ts).Takes budget (1 + n) e rest := by
  rw [expression_eq]
  exact takes_nested h budget

theorem closing_eq_done {bracket : Bracket} {t : Token} (ht : t.terminal = .rightParen) (value : α)
    (rest : List Token) : closing bracket value (t :: rest) = .done value rest := by
  have hk : t.kind = .rightParen := Token.kind_of_terminal ht
  rw [closing, if_pos hk]

end Takes

/-! ## The readers on a derivation -/

theorem nextKind_arguments_ne {a : Arguments} {used rest : List Token} (h : used.map Token.terminal = a.words) :
    nextKind (used ++ rest) ≠ .rightParen := by
  intro hk
  obtain ⟨t, ts, he, ht⟩ := (nextKind_eq_kind (w := .rightParen) rfl (by decide)).1 hk
  have hw := congrArg (List.map Token.terminal) he
  rw [List.map_append, h, List.map_cons, ht] at hw
  exact a.words_ne_rightParen _ _ hw

/-- A name in front of an opening parenthesis is a call of the arguments behind it. -/
theorem call_takes {inner : Reader Expr} {t opening : Token} {name : String} {ts rest : List Token} {args : List Expr}
    {budget n : Nat} (ht : t.terminal = .identifier name) (ho : opening.terminal = .leftParen)
    (hargs : (arguments inner ts).Takes budget n args rest) :
    (primary inner (t :: opening :: ts)).Takes budget n (.callOf name args) rest := by
  obtain rfl := Token.text_of_terminal ht rfl
  have hopen : nextKind (opening :: ts) = .leftParen := Token.kind_of_terminal ho
  rw [primary_identifier _ _ (Token.kind_of_terminal ht), if_pos hopen]
  exact hargs.andThen_done rfl

/-- A bound on the number of arguments that their tokens keep has not run out. -/
theorem exists_eq_succ_of_words {a : Arguments} {used : List Token} {bound : Nat}
    (h : used.map Token.terminal = a.words) (hb : used.length ≤ bound) : ∃ m, bound = m + 1 := by
  obtain ⟨w, ws, hw, -⟩ := a.exists_words_cons
  have hlen := congrArg List.length (h.trans hw)
  rw [List.length_map, List.length_cons] at hlen
  exact ⟨bound - 1, by omega⟩

mutual

theorem chain_takes : ∀ {n : Nat} (c : Chain n) (budget : Nat) {used rest : List Token},
    used.map Token.terminal = c.words → Stops n (rest.map Token.terminal) →
    (chain budget n (used ++ rest)).Takes budget c.need c.tree rest
  | _, .unary u, budget, used, rest, hu, hs => unary_takes u budget hu hs
  | n + 1, .level first links, budget, used, rest, hu, hs => by
    obtain ⟨front, back, rfl, hf, hb⟩ := List.map_eq_append_iff.1 hu
    have hfirst : (chain budget n (front ++ (back ++ rest))).Takes budget first.need first.tree (back ++ rest) :=
      chain_takes first budget hf (by rw [List.map_append, hb]; exact links.stops hs)
    rw [chain, chainWith_succ, List.append_assoc]
    exact hfirst.andThen (folds_takes links budget first.tree hb hs)
termination_by structural _ c => c

theorem folds_takes : ∀ {n : Nat} (l : Links n) (budget : Nat) (left : Expr) {used rest : List Token},
    used.map Token.terminal = l.words → Stops (n + 1) (rest.map Token.terminal) →
    (folds budget n left (used ++ rest)).Takes budget l.need (l.fold left) rest
  | n, .nil, budget, left, used, rest, hu, hs => by
    obtain rfl := List.map_eq_nil_iff.1 hu
    rw [folds_eq, List.nil_append, operatorAt?_of_stops hs (Nat.lt_succ_self n)]
    exact takes_done budget left rest
  | n, .cons op hop right more, budget, left, used, rest, hu, hs => by
    obtain ⟨t, used, rfl, ht, hu⟩ := List.map_eq_cons_iff.1 hu
    obtain ⟨front, back, rfl, hf, hb⟩ := List.map_eq_append_iff.1 hu
    have hat : operatorAt? n (t :: (front ++ back ++ rest)) = some op := operatorAt?_cons.2 ⟨ht, hop⟩
    rw [folds_eq, List.cons_append, hat]
    refine takes_nested (fun budget => ?_) budget
    have hright : (chain budget n (front ++ (back ++ rest))).Takes budget right.need right.tree (back ++ rest) :=
      chain_takes right budget hf (by rw [List.map_append, hb]; exact more.stops hs)
    rw [List.tail_cons, List.append_assoc]
    exact hright.andThen (folds_takes more budget (.binary left op right.tree) hb hs)
termination_by structural _ l => l

theorem unary_takes : ∀ (u : Unary) (budget : Nat) {used rest : List Token}, used.map Token.terminal = u.words →
    Stops 0 (rest.map Token.terminal) → (unary budget (used ++ rest)).Takes budget u.need u.tree rest
  | .sign op operand, budget, used, rest, hu, hs => by
    obtain ⟨t, used, rfl, ht, hu⟩ := List.map_eq_cons_iff.1 hu
    have hat : unaryAt? (t :: (used ++ rest)) = some op := unaryAt?_cons.2 ht
    rw [unary_eq, unaryWith_eq, List.cons_append, hat, Unary.tree_sign]
    exact (takes_nested (fun budget => unary_takes operand budget hu hs) budget).andThen_done rfl
  | .primary p, budget, used, rest, hu, hs => by
    have hat : unaryAt? (used ++ rest) = none := by
      cases hop : unaryAt? (used ++ rest) with
      | none => rfl
      | some op =>
        obtain ⟨t, ts, h, ht⟩ := unaryAt?_eq_some hop
        have hw := congrArg (List.map Token.terminal) h
        rw [List.map_append, hu, List.map_cons, ht] at hw
        exact absurd hw (p.words_ne_operator _ _ _)
    rw [unary_eq, unaryWith_eq, hat]
    exact primary_takes p budget hu hs
termination_by structural u => u

theorem primary_takes : ∀ (p : Primary) (budget : Nat) {used rest : List Token},
    used.map Token.terminal = p.words → Stops 0 (rest.map Token.terminal) →
    (primary (expression budget) (used ++ rest)).Takes budget p.need p.tree rest
  | .number text x reads, budget, used, rest, hu, _ => by
    obtain ⟨t, rfl, ht⟩ := List.map_eq_singleton_iff.1 hu
    have hx : literalNumber? t.text = some x := by rw [Token.text_of_terminal ht rfl, reads]
    rw [List.singleton_append, primary_number _ _ (Token.kind_of_terminal ht), hx]
    exact takes_done budget _ rest
  | .string text, budget, used, rest, hu, _ => by
    obtain ⟨t, rfl, ht⟩ := List.map_eq_singleton_iff.1 hu
    obtain rfl := Token.text_of_terminal ht rfl
    simp only [List.singleton_append, primary, Token.kind_of_terminal ht, Terminal.kind]
    exact takes_done budget _ rest
  | .boolean text, budget, used, rest, hu, _ => by
    obtain ⟨t, rfl, ht⟩ := List.map_eq_singleton_iff.1 hu
    obtain rfl := Token.text_of_terminal ht rfl
    simp only [List.singleton_append, primary, Token.kind_of_terminal ht, Terminal.kind]
    exact takes_done budget _ rest
  | .field name, budget, used, rest, hu, hs => by
    obtain ⟨t, rfl, ht⟩ := List.map_eq_singleton_iff.1 hu
    obtain rfl := Token.text_of_terminal ht rfl
    rw [List.singleton_append, primary_identifier _ _ (Token.kind_of_terminal ht), if_neg (nextKind_ne_of_stops hs)]
    exact takes_done budget _ rest
  | .emptyCall name, budget, used, rest, hu, _ => by
    obtain ⟨t, used, rfl, ht, hu⟩ := List.map_eq_cons_iff.1 hu
    obtain ⟨opening, used, rfl, ho, hu⟩ := List.map_eq_cons_iff.1 hu
    obtain ⟨close, rfl, hc⟩ := List.map_eq_singleton_iff.1 hu
    have hclose : nextKind (close :: rest) = .rightParen := Token.kind_of_terminal hc
    have hargs : (arguments (expression budget) (close :: rest)).Takes budget 0 [] rest := by
      rw [arguments_eq, if_pos hclose, closing_eq_done hc]
      exact takes_done budget [] rest
    exact call_takes ht ho hargs
  | .call name args, budget, used, rest, hu, _ => by
    obtain ⟨t, used, rfl, ht, hu⟩ := List.map_eq_cons_iff.1 hu
    obtain ⟨opening, used, rfl, ho, hu⟩ := List.map_eq_cons_iff.1 hu
    obtain ⟨between, back, rfl, hi, hb⟩ := List.map_eq_append_iff.1 hu
    obtain ⟨close, rfl, hc⟩ := List.map_eq_singleton_iff.1 hb
    have hargs : (arguments (expression budget) (between ++ close :: rest)).Takes budget args.need args.trees rest := by
      have hlen : between.length ≤ (between ++ close :: rest).length + 1 := by simp; omega
      rw [arguments_eq, if_neg (nextKind_arguments_ne hi)]
      exact (argumentsUpTo_takes args budget _ hi hc hlen).andThen_done (closing_eq_done hc _ _)
    rw [List.cons_append, List.cons_append, List.append_assoc]
    exact call_takes ht ho hargs
  | .group inner, budget, used, rest, hu, _ => by
    obtain ⟨opening, used, rfl, ho, hu⟩ := List.map_eq_cons_iff.1 hu
    obtain ⟨between, back, rfl, hi, hb⟩ := List.map_eq_append_iff.1 hu
    obtain ⟨close, rfl, hc⟩ := List.map_eq_singleton_iff.1 hb
    have hs : Stops Operator.levels ((close :: rest).map Token.terminal) := by
      rw [List.map_cons, hc]
      exact .rightParen _ _
    have hinner : (expression budget (between ++ close :: rest)).Takes budget (1 + inner.need) inner.tree
        (close :: rest) := expression_takes_of_chain (fun budget => chain_takes inner budget hi hs) budget
    rw [List.cons_append, primary_leftParen _ _ (Token.kind_of_terminal ho), List.append_assoc, List.singleton_append]
    exact hinner.andThen_done (closing_eq_done hc _ _)
termination_by structural p => p

theorem argumentsUpTo_takes : ∀ (a : Arguments) (budget bound : Nat) {used rest : List Token} {t : Token},
    used.map Token.terminal = a.words → t.terminal = .rightParen → used.length ≤ bound →
    (argumentsUpTo (expression budget) bound (used ++ t :: rest)).Takes budget a.need a.trees (t :: rest)
  | .last e, budget, bound, used, rest, t, hu, ht, hb => by
    obtain ⟨bound, rfl⟩ := exists_eq_succ_of_words hu hb
    have hs : Stops Operator.levels ((t :: rest).map Token.terminal) := by
      rw [List.map_cons, ht]
      exact .rightParen _ _
    have he : (expression budget (used ++ t :: rest)).Takes budget (1 + e.need) e.tree (t :: rest) :=
      expression_takes_of_chain (fun budget => chain_takes e budget hu hs) budget
    have hk : nextKind (t :: rest) ≠ .comma := by
      rw [nextKind, Token.kind_of_terminal ht]
      decide
    rw [argumentsUpTo_succ]
    exact he.andThen_done (if_neg hk)
  | .cons e more, budget, bound, used, rest, t, hu, ht, hb => by
    obtain ⟨front, back, rfl, hf, hu⟩ := List.map_eq_append_iff.1 hu
    obtain ⟨comma, back, rfl, hc, hm⟩ := List.map_eq_cons_iff.1 hu
    obtain ⟨bound, rfl⟩ := Nat.exists_eq_add_one_of_ne_zero (n := bound) (by simp at hb; omega)
    have hs : Stops Operator.levels ((comma :: (back ++ t :: rest)).map Token.terminal) := by
      rw [List.map_cons, hc]
      exact .comma _ _
    have he : (expression budget (front ++ comma :: (back ++ t :: rest))).Takes budget (1 + e.need) e.tree
        (comma :: (back ++ t :: rest)) := expression_takes_of_chain (fun budget => chain_takes e budget hf hs) budget
    have hk : nextKind (comma :: (back ++ t :: rest)) = .comma := Token.kind_of_terminal hc
    have hlen : back.length ≤ bound := by simp at hb; omega
    rw [argumentsUpTo_succ, List.append_assoc, List.cons_append]
    refine he.andThen ?_
    simp only [hk, ↓reduceIte, List.tail_cons]
    exact (argumentsUpTo_takes more budget bound hm ht hlen).andThen_done rfl
termination_by structural a => a

end

theorem expression_takes (d : Expression) (budget : Nat) {used rest : List Token}
    (hu : used.map Token.terminal = d.words) (hs : Stops Operator.levels (rest.map Token.terminal)) :
    (expression budget (used ++ rest)).Takes budget d.depth d.tree rest :=
  expression_takes_of_chain (fun budget => chain_takes d budget hu hs) budget

end Formula.Parser
