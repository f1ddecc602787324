import Formula.Proofs.Grammar

/-!
# The grammar is unambiguous

A derivation is determined by its sentence, also when more terminals follow that do not go on with it.

* `Stops` : terminals that do not go on with a chain of operators in front of them.
* `Chain.eq_of_words_append` and its companions: of two derivations whose sentences open the same terminals, each with
  terminals behind it that do not go on with it, both are the same and leave the same terminals.
* `Expression.words_injective` : no sentence has two derivations.
-/

namespace Formula

theorem Operator.symbol_injective : ∀ {op op' : Operator}, op.symbol = op'.symbol → op = op' := by
  intro op op' h
  cases op <;> cases op' <;> first | rfl | exact absurd h (by decide)

theorem Operator.ofSymbol?_eq_some {symbol : String} {op : Operator} :
    ofSymbol? symbol = some op ↔ symbol = op.symbol := by
  constructor
  · intro h
    simpa [eq_comm] using List.find?_some h
  · rintro rfl
    cases op <;> decide

theorem Operator.level_lt_levels (op : Operator) : op.level < levels := by
  cases op <;> decide

theorem UnaryOperator.symbol_injective : ∀ {op op' : UnaryOperator}, op.symbol = op'.symbol → op = op' := by
  intro op op' h
  cases op <;> cases op' <;> first | rfl | exact absurd h (by decide)

theorem UnaryOperator.ofSymbol?_eq_some {symbol : String} {op : UnaryOperator} :
    ofSymbol? symbol = some op ↔ symbol = op.symbol := by
  unfold ofSymbol?
  cases op <;> grind [UnaryOperator.symbol]

namespace Grammar

/-! ## What may follow a derivation -/

/-- The terminals do not go on with a chain of the levels below `levels`: there is no operator of such a level at the
front, and no opening parenthesis that would make a call of a name. -/
def Stops (levels : Nat) : List Terminal → Prop
  | .leftParen :: _ => False
  | .operator symbol :: _ => ∀ op : Operator, op.symbol = symbol → levels ≤ op.level
  | _ => True

theorem Stops.mono {m n : Nat} (hmn : m ≤ n) : ∀ {ws : List Terminal}, Stops n ws → Stops m ws
  | [], _ => trivial
  | t :: _, h => by
    cases t with
    | operator symbol => exact fun op hop => Nat.le_trans hmn (h op hop)
    | leftParen => exact h
    | _ => trivial

theorem Stops.ne_leftParen {n : Nat} {ws us : List Terminal} (h : Stops n ws) : ws ≠ .leftParen :: us := by
  rintro rfl
  exact h

theorem Stops.rightParen (n : Nat) (ws : List Terminal) : Stops n (.rightParen :: ws) := trivial

theorem Stops.comma (n : Nat) (ws : List Terminal) : Stops n (.comma :: ws) := trivial

/-- The operators of a level stop the chains of the level below. -/
theorem Links.stops {n : Nat} {ws : List Terminal} (h : Stops (n + 1) ws) : ∀ l : Links n, Stops n (l.words ++ ws)
  | .nil => h.mono (Nat.le_succ n)
  | .cons op level_eq _ _ => by
    intro op' hop'
    obtain rfl := Operator.symbol_injective hop'
    exact Nat.le_of_eq level_eq.symm

theorem Links.words_ne_cons {n : Nat} {op : Operator} {ws us : List Terminal} (h : Stops (n + 1) ws)
    (hop : op.level = n) : ws ≠ .operator op.symbol :: us := by
  rintro rfl
  have := h op rfl
  omega

/-! ## How a derivation opens -/

theorem Primary.words_ne_operator (p : Primary) (symbol : String) (ws us : List Terminal) :
    p.words ++ ws ≠ .operator symbol :: us := by
  cases p <;> simp [Primary.words]

theorem Unary.exists_words_cons (u : Unary) : ∃ t ws, u.words = t :: ws ∧ t ≠ .rightParen := by
  cases u with
  | sign op operand => exact ⟨_, _, rfl, by simp⟩
  | primary p => cases p <;> exact ⟨_, _, rfl, by simp⟩

/-- A chain spells at least one terminal, and no closing parenthesis comes first. -/
theorem Chain.exists_words_cons {n : Nat} (c : Chain n) : ∃ t ws, c.words = t :: ws ∧ t ≠ .rightParen := by
  cases c with
  | unary u => exact u.exists_words_cons
  | level first links =>
    obtain ⟨t, ws, h, ht⟩ := Chain.exists_words_cons first
    exact ⟨t, ws ++ links.words, by simp [Chain.words, h], ht⟩

theorem Arguments.exists_words_cons (a : Arguments) : ∃ t ws, a.words = t :: ws ∧ t ≠ .rightParen := by
  cases a with
  | last e => exact e.exists_words_cons
  | cons e more =>
    obtain ⟨t, ws, h, ht⟩ := e.exists_words_cons
    exact ⟨t, ws ++ .comma :: more.words, by simp [Arguments.words, h], ht⟩

theorem Arguments.words_ne_rightParen (a : Arguments) (ws us : List Terminal) : a.words ++ ws ≠ .rightParen :: us := by
  obtain ⟨t, vs, h, ht⟩ := a.exists_words_cons
  rw [h, List.cons_append]
  intro he
  exact ht (List.cons.inj he).1

/-! ## Unambiguity -/

mutual

theorem Chain.eq_of_words_append : ∀ {n : Nat} (c c' : Chain n) {ws ws' : List Terminal}, Stops n ws → Stops n ws' →
    c.words ++ ws = c'.words ++ ws' → c = c' ∧ ws = ws'
  | _, .unary u, .unary u', ws, ws', hs, hs', h => by
    obtain ⟨rfl, hw⟩ := Unary.eq_of_words_append u u' hs hs' h
    exact ⟨rfl, hw⟩
  | _, .level first links, .level first' links', ws, ws', hs, hs', h => by
    simp only [Chain.words, List.append_assoc] at h
    obtain ⟨rfl, hl⟩ := Chain.eq_of_words_append first first' (links.stops hs) (links'.stops hs') h
    obtain ⟨rfl, hw⟩ := Links.eq_of_words_append links links' hs hs' hl
    exact ⟨rfl, hw⟩
termination_by structural _ c => c

theorem Links.eq_of_words_append : ∀ {n : Nat} (l l' : Links n) {ws ws' : List Terminal}, Stops (n + 1) ws →
    Stops (n + 1) ws' → l.words ++ ws = l'.words ++ ws' → l = l' ∧ ws = ws'
  | _, .nil, .nil, _, _, _, _, h => ⟨rfl, h⟩
  | _, .nil, .cons op hop right more, _, _, hs, _, h => absurd h (Links.words_ne_cons hs hop)
  | _, .cons op hop right more, .nil, _, _, _, hs', h => absurd h.symm (Links.words_ne_cons hs' hop)
  | n, .cons op hop right more, .cons op' hop' right' more', ws, ws', hs, hs', h => by
    simp only [Links.words, List.cons_append, List.append_assoc, List.cons.injEq, Terminal.operator.injEq] at h
    obtain ⟨hsym, h⟩ := h
    obtain rfl := Operator.symbol_injective hsym
    obtain ⟨rfl, hm⟩ := Chain.eq_of_words_append right right' (more.stops hs) (more'.stops hs') h
    obtain ⟨rfl, hw⟩ := Links.eq_of_words_append more more' hs hs' hm
    exact ⟨rfl, hw⟩
termination_by structural _ l => l

theorem Unary.eq_of_words_append : ∀ (u u' : Unary) {ws ws' : List Terminal}, Stops 0 ws → Stops 0 ws' →
    u.words ++ ws = u'.words ++ ws' → u = u' ∧ ws = ws'
  | .sign op operand, .sign op' operand', ws, ws', hs, hs', h => by
    simp only [Unary.words, List.cons_append, List.cons.injEq, Terminal.operator.injEq] at h
    obtain ⟨hsym, h⟩ := h
    obtain rfl := UnaryOperator.symbol_injective hsym
    obtain ⟨rfl, hw⟩ := Unary.eq_of_words_append operand operand' hs hs' h
    exact ⟨rfl, hw⟩
  | .sign _ _, .primary p, _, _, _, _, h => absurd h.symm (p.words_ne_operator _ _ _)
  | .primary p, .sign _ _, _, _, _, _, h => absurd h (p.words_ne_operator _ _ _)
  | .primary p, .primary p', _, _, hs, hs', h => by
    obtain ⟨rfl, hw⟩ := Primary.eq_of_words_append p p' hs hs' h
    exact ⟨rfl, hw⟩
termination_by structural u => u

theorem Primary.eq_of_words_append : ∀ (p p' : Primary) {ws ws' : List Terminal}, Stops 0 ws → Stops 0 ws' →
    p.words ++ ws = p'.words ++ ws' → p = p' ∧ ws = ws'
  | .number text x reads, p', ws, ws', _, _, h => by
    cases p' with
    | number text' x' reads' =>
      simp only [Primary.words, List.cons_append, List.nil_append, List.cons.injEq, Terminal.number.injEq] at h
      obtain ⟨rfl, hw⟩ := h
      cases Option.some.inj (reads.symm.trans reads')
      exact ⟨rfl, hw⟩
    | _ => simp [Primary.words] at h
  | .string text, p', ws, ws', _, _, h => by
    cases p' with
    | string text' => simpa [Primary.words] using h
    | _ => simp [Primary.words] at h
  | .boolean text, p', ws, ws', _, _, h => by
    cases p' with
    | boolean text' => simpa [Primary.words] using h
    | _ => simp [Primary.words] at h
  -- a name is told from a call by the parenthesis behind it
  | .field name, p', ws, ws', hs, _, h => by
    cases p' with
    | field name' => simpa [Primary.words] using h
    | emptyCall name' => exact absurd (List.cons.inj h).2 hs.ne_leftParen
    | call name' args' => exact absurd (List.cons.inj h).2 hs.ne_leftParen
    | _ => simp [Primary.words] at h
  | .emptyCall name, p', ws, ws', _, hs', h => by
    cases p' with
    | field name' => exact absurd (List.cons.inj h).2.symm hs'.ne_leftParen
    | emptyCall name' => simpa [Primary.words] using h
    | call name' args' =>
      simp only [Primary.words, List.cons_append, List.append_assoc, List.nil_append, List.cons.injEq, true_and] at h
      exact absurd h.2.symm (args'.words_ne_rightParen _ _)
    | _ => simp [Primary.words] at h
  | .call name args, p', ws, ws', _, hs', h => by
    cases p' with
    | field name' => exact absurd (List.cons.inj h).2.symm hs'.ne_leftParen
    | emptyCall name' =>
      simp only [Primary.words, List.cons_append, List.append_assoc, List.nil_append, List.cons.injEq, true_and] at h
      exact absurd h.2 (args.words_ne_rightParen _ _)
    | call name' args' =>
      simp only [Primary.words, List.cons_append, List.append_assoc, List.nil_append, List.cons.injEq,
        Terminal.identifier.injEq, true_and] at h
      obtain ⟨rfl, h⟩ := h
      obtain ⟨rfl, hw⟩ := Arguments.eq_of_words_append args args' h
      exact ⟨rfl, hw⟩
    | _ => simp [Primary.words] at h
  | .group inner, p', ws, ws', _, _, h => by
    cases p' with
    | group inner' =>
      simp only [Primary.words, List.cons_append, List.append_assoc, List.nil_append, List.cons.injEq, true_and] at h
      obtain ⟨rfl, hw⟩ := Chain.eq_of_words_append inner inner' (.rightParen _ _) (.rightParen _ _) h
      exact ⟨rfl, (List.cons.inj hw).2⟩
    | _ => simp [Primary.words] at h
termination_by structural p => p

theorem Arguments.eq_of_words_append : ∀ (a a' : Arguments) {ws ws' : List Terminal},
    a.words ++ .rightParen :: ws = a'.words ++ .rightParen :: ws' → a = a' ∧ ws = ws'
  | .last e, .last e', ws, ws', h => by
    obtain ⟨rfl, hw⟩ := Chain.eq_of_words_append e e' (.rightParen _ _) (.rightParen _ _) h
    exact ⟨rfl, (List.cons.inj hw).2⟩
  | .last e, .cons e' more', ws, ws', h => by
    simp only [Arguments.words, List.append_assoc, List.cons_append] at h
    cases (Chain.eq_of_words_append e e' (.rightParen _ _) (.comma _ _) h).2
  | .cons e more, .last e', ws, ws', h => by
    simp only [Arguments.words, List.append_assoc, List.cons_append] at h
    cases (Chain.eq_of_words_append e e' (.comma _ _) (.rightParen _ _) h).2
  | .cons e more, .cons e' more', ws, ws', h => by
    simp only [Arguments.words, List.append_assoc, List.cons_append] at h
    obtain ⟨rfl, hc⟩ := Chain.eq_of_words_append e e' (.comma _ _) (.comma _ _) h
    obtain ⟨rfl, hw⟩ := Arguments.eq_of_words_append more more' (List.cons.inj hc).2
    exact ⟨rfl, hw⟩
termination_by structural a => a

end

/-- No sentence has two derivations. -/
theorem Expression.words_injective {d d' : Expression} (h : d.words = d'.words) : d = d' := by
  have stops : Stops Operator.levels [] := trivial
  exact (Chain.eq_of_words_append d d' stops stops (by rw [h])).1

end Grammar
end Formula
