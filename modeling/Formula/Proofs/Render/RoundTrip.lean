import Formula.Proofs.Render.Spelling

/-!
# Reading a rendering back

The rendering of an accepted tree reads back as the tree if every call name is a word of its own. A call name that is
one of the words for truth values is not: it is scanned as a truth value, and no sentence has one in front of an opening
parenthesis. Nor is one with a combining dot, which is not scanned.

* `Expr.nesting` : the nesting that a rendering takes.
* `exists_primary_of_fromWords` : a tree made of words has a derivation that spells its spelling.
* `ofFormula_render` : with names for call names the rendering reads back as far as the limit covers its nesting.
* `NoBooleanCall`, `Chain.noBooleanCall` : what no sentence has in it.
* `render_reads_back_iff` : when the rendering of an accepted tree reads back, and that it is refused otherwise.
-/

namespace Formula

open Grammar

/-! ## The nesting of a rendering -/

namespace Expr

mutual

/-- The nesting that the rendering takes inside its outermost chain: the parentheses around an operation count one, the
right operand counts one more, and an argument counts one. -/
def nesting : Expr → Nat
  | literal _ => 0
  | field _ => 0
  | binary l _ r => max (1 + nesting l) (2 + nesting r)
  | call _ args => nestingAll args

/-- The nesting that the rendering of an argument list takes. -/
def nestingAll : List Expr → Nat
  | [] => 0
  | e :: es => max (1 + nesting e) (nestingAll es)

end

end Expr

/-! ## Derivations of spellings -/

namespace Grammar

/-- An operation on two primary expressions is a chain of every level above its operator. -/
theorem exists_chain_operation (op : Operator) (l r : Primary) : ∀ {n : Nat}, op.level < n →
    ∃ c : Chain n, c.words = l.words ++ .operator op.symbol :: r.words ∧ c.tree = .binary l.tree op r.tree ∧
      c.need = max l.need (1 + r.need)
  | n + 1, h => by
    rcases Nat.lt_or_eq_of_le (Nat.le_of_lt_succ h) with hlt | heq
    · obtain ⟨c, hwords, htree, hneed⟩ := exists_chain_operation op l r hlt
      refine ⟨.level c .nil, ?_, htree, ?_⟩
      · rw [Chain.words, Links.words, List.append_nil, hwords]
      · rw [Chain.need, Links.need, Nat.max_zero, hneed]
    · refine ⟨.level (l.chain n) (.cons op heq (r.chain n) .nil), ?_, ?_, ?_⟩
      · simp [Chain.words, Links.words]
      · simp [Chain.tree, Links.fold]
      · simp [Chain.need, Links.need]

end Grammar

theorem nameTerminal_eq_identifier {name : String} (h : name ≠ "true" ∧ name ≠ "false") :
    nameTerminal name = .identifier name := by
  rw [nameTerminal, if_neg (not_or.2 h)]

theorem callOf_eq_call {name : String} (h : CalledFromWord name) (args : List Expr) :
    Expr.callOf name args = .call name args := by
  rw [Expr.callOf, h.lowerCase_eq]

/-- A literal from a word is a primary expression. -/
theorem exists_primary_of_value {v : Value} (h : v.FromWord) :
    ∃ p : Primary, p.words = [v.terminal] ∧ p.tree = .literal v ∧ p.need = 0 := by
  cases v with
  | null => exact h.elim
  | boolean b => exact ⟨.boolean _, rfl, by cases b <;> rfl, rfl⟩
  | number x =>
    obtain ⟨rank, rfl⟩ := h
    obtain ⟨-, -, -, -, -, hread⟩ := Binary64.ofNumeral?_chars rank
    have hliteral : Parser.literalNumber? (Binary64.finite false rank).text = some (.finite false rank) := by
      rw [Parser.literalNumber?, Binary64.text, String.toList_ofList, hread]
      rfl
    exact ⟨.number _ _ hliteral, rfl, rfl, rfl⟩
  | string s => exact ⟨.string s, rfl, rfl, rfl⟩

mutual

/-- **A tree made of words has a derivation** of its spelling, unless a call name is a truth value. -/
theorem exists_primary_of_fromWords : ∀ e : Expr, e.FromWords →
    (∀ name ∈ e.callNames, name ≠ "true" ∧ name ≠ "false") →
    ∃ p : Primary, p.words = e.spelling ∧ p.tree = e ∧ p.need = e.nesting
  | .literal _, h, _ => exists_primary_of_value h
  | .field _, h, _ => by
    obtain ⟨identifier, rfl, -, hne⟩ := h
    refine ⟨.field identifier, ?_, rfl, rfl⟩
    rw [Expr.spelling, Field.key_ofIdentifier, nameTerminal_eq_identifier hne]
    rfl
  | .binary l op r, h, hnames => by
    obtain ⟨p, hp, htree, hneed⟩ :=
      exists_primary_of_fromWords l h.1 fun name hname => hnames name (List.mem_append_left _ hname)
    obtain ⟨q, hq, htree', hneed'⟩ :=
      exists_primary_of_fromWords r h.2 fun name hname => hnames name (List.mem_append_right _ hname)
    obtain ⟨c, hwords, hc, hn⟩ := exists_chain_operation op p q op.level_lt_levels
    refine ⟨.group c, ?_, ?_, ?_⟩
    · rw [Primary.words, hwords, hp, hq, Expr.spelling]
      rfl
    · rw [Primary.tree, hc, htree, htree']
    · rw [Primary.need, hn, hneed, hneed', Expr.nesting]
      omega
  | .call name args, h, hnames => by
    have hname := nameTerminal_eq_identifier (hnames name List.mem_cons_self)
    have hargs := exists_arguments_of_fromWords args h.2 fun name' hname => hnames name' (List.mem_cons_of_mem _ hname)
    rw [Expr.spelling, hname]
    cases args with
    | nil => exact ⟨.emptyCall name, rfl, callOf_eq_call h.1 [], rfl⟩
    | cons e es =>
      obtain ⟨a, hwords, htrees, hneed⟩ := hargs (List.cons_ne_nil e es)
      refine ⟨.call name a, ?_, ?_, ?_⟩
      · rw [Primary.words, hwords]
        rfl
      · rw [Primary.tree, htrees, callOf_eq_call h.1]
      · rw [Primary.need, hneed, Expr.nesting]

theorem exists_arguments_of_fromWords : ∀ es : List Expr, Expr.FromWordsAll es →
    (∀ name ∈ Expr.callNamesAll es, name ≠ "true" ∧ name ≠ "false") → es ≠ [] →
    ∃ a : Arguments, a.words = Expr.argsSpelling es ∧ a.trees = es ∧ a.need = Expr.nestingAll es
  | [], _, _, hne => absurd rfl hne
  | [e], h, hnames, _ => by
    obtain ⟨p, hp, htree, hneed⟩ :=
      exists_primary_of_fromWords e h.1 fun name hname => hnames name (List.mem_append_left _ hname)
    refine ⟨.last (p.chain _), ?_, ?_, ?_⟩
    · rw [Arguments.words, Primary.words_chain, hp, Expr.argsSpelling]
    · rw [Arguments.trees, Primary.tree_chain, htree]
    · rw [Arguments.need, Primary.need_chain, hneed, Expr.nestingAll, Expr.nestingAll, Nat.max_zero]
  | e :: e' :: es, h, hnames, _ => by
    obtain ⟨p, hp, htree, hneed⟩ :=
      exists_primary_of_fromWords e h.1 fun name hname => hnames name (List.mem_append_left _ hname)
    obtain ⟨a, hwords, htrees, hneed'⟩ := exists_arguments_of_fromWords (e' :: es) h.2
      (fun name hname => hnames name (List.mem_append_right _ hname)) (List.cons_ne_nil e' es)
    refine ⟨.cons (p.chain _) a, ?_, ?_, ?_⟩
    · simp only [Arguments.words, Primary.words_chain, hp, hwords, Expr.argsSpelling]
    · rw [Arguments.trees, Primary.tree_chain, htree, htrees]
    · rw [Arguments.need, Primary.need_chain, hneed, hneed', ← Expr.nestingAll]

end

/-! ## Truth values are not called -/

/-- No truth value stands in front of an opening parenthesis. -/
def NoBooleanCall : List Terminal → Prop
  | [] => True
  | w :: ws => (∀ text, w = .boolean text → ws.head? ≠ some .leftParen) ∧ NoBooleanCall ws

theorem NoBooleanCall.cons {w : Terminal} {ws : List Terminal} (h : NoBooleanCall ws) (hw : ∀ text, w ≠ .boolean text) :
    NoBooleanCall (w :: ws) := ⟨fun text he => absurd he (hw text), h⟩

theorem not_noBooleanCall_of_infix {text : String} {ws : List Terminal}
    (h : [Terminal.boolean text, .leftParen] <:+: ws) : ¬NoBooleanCall ws := by
  obtain ⟨front, back, rfl⟩ := h
  induction front with
  | nil => exact fun h => h.1 text rfl rfl
  | cons w front ih => exact fun h => ih h.2

namespace Grammar

mutual

/-- In a sentence no truth value stands in front of an opening parenthesis. -/
theorem Chain.noBooleanCall : ∀ {n : Nat} (c : Chain n) {ws : List Terminal}, NoBooleanCall ws →
    ws.head? ≠ some .leftParen → NoBooleanCall (c.words ++ ws)
  | _, .unary u, _, h, hhead => u.noBooleanCall h hhead
  | _, .level first links, ws, h, hhead => by
    rw [Chain.words, List.append_assoc]
    obtain ⟨hlinks, hlinkshead⟩ := links.noBooleanCall h hhead
    exact first.noBooleanCall hlinks hlinkshead

theorem Links.noBooleanCall : ∀ {n : Nat} (l : Links n) {ws : List Terminal}, NoBooleanCall ws →
    ws.head? ≠ some .leftParen → NoBooleanCall (l.words ++ ws) ∧ (l.words ++ ws).head? ≠ some .leftParen
  | _, .nil, _, h, hhead => ⟨h, hhead⟩
  | _, .cons op _ right more, ws, h, hhead => by
    rw [Links.words, List.cons_append, List.append_assoc]
    obtain ⟨hmore, hmorehead⟩ := more.noBooleanCall h hhead
    exact ⟨(right.noBooleanCall hmore hmorehead).cons (by simp), by simp⟩

theorem Unary.noBooleanCall : ∀ (u : Unary) {ws : List Terminal}, NoBooleanCall ws → ws.head? ≠ some .leftParen →
    NoBooleanCall (u.words ++ ws)
  | .sign _ operand, _, h, hhead => (operand.noBooleanCall h hhead).cons (by simp)
  | .primary p, _, h, hhead => p.noBooleanCall h hhead

theorem Primary.noBooleanCall : ∀ (p : Primary) {ws : List Terminal}, NoBooleanCall ws → ws.head? ≠ some .leftParen →
    NoBooleanCall (p.words ++ ws)
  | .number .., _, h, _ | .string _, _, h, _ | .field _, _, h, _ => h.cons (by simp)
  | .boolean _, _, h, hhead => ⟨fun _ _ => hhead, h⟩
  | .emptyCall _, _, h, _ => ((h.cons (by simp)).cons (by simp)).cons (by simp)
  | .call _ args, ws, h, _ => by
    rw [Primary.words, List.cons_append, List.cons_append, List.append_assoc]
    exact ((args.noBooleanCall (h.cons (by simp)) (by simp)).cons (by simp)).cons (by simp)
  | .group inner, ws, h, _ => by
    rw [Primary.words, List.cons_append, List.append_assoc]
    exact (inner.noBooleanCall (h.cons (by simp)) (by simp)).cons (by simp)

theorem Arguments.noBooleanCall : ∀ (a : Arguments) {ws : List Terminal}, NoBooleanCall ws →
    ws.head? ≠ some .leftParen → NoBooleanCall (a.words ++ ws)
  | .last e, _, h, hhead => e.noBooleanCall h hhead
  | .cons e more, ws, h, hhead => by
    rw [Arguments.words, List.append_assoc, List.cons_append]
    exact e.noBooleanCall ((more.noBooleanCall h hhead).cons (by simp)) (by simp)

end

theorem Expression.noBooleanCall_words (d : Expression) : NoBooleanCall d.words := by
  have h := @Chain.noBooleanCall _ d [] trivial (by simp)
  rwa [List.append_nil] at h

end Grammar

namespace Expr

mutual

/-- Every call name is spelled in front of an opening parenthesis. -/
theorem infix_spelling : ∀ e : Expr, ∀ name ∈ e.callNames, [nameTerminal name, .leftParen] <:+: e.spelling
  | literal _, _, hname | field _, _, hname => by simp [callNames] at hname
  | binary l op r, name, hname => by
    rw [spelling]
    rcases List.mem_append.1 hname with hname | hname
    · obtain ⟨front, back, he⟩ := infix_spelling l name hname
      exact ⟨.leftParen :: front, back ++ .operator op.symbol :: r.spelling ++ [.rightParen], by simp [← he]⟩
    · obtain ⟨front, back, he⟩ := infix_spelling r name hname
      exact ⟨.leftParen :: l.spelling ++ .operator op.symbol :: front, back ++ [.rightParen], by simp [← he]⟩
  | call name args, name', hname => by
    rw [spelling]
    rcases List.mem_cons.1 hname with rfl | hname
    · exact ⟨[], argsSpelling args ++ [.rightParen], rfl⟩
    · obtain ⟨front, back, he⟩ := infix_argsSpelling args name' hname
      exact ⟨nameTerminal name :: .leftParen :: front, back ++ [.rightParen], by simp [← he]⟩

theorem infix_argsSpelling : ∀ es : List Expr, ∀ name ∈ callNamesAll es,
    [nameTerminal name, .leftParen] <:+: argsSpelling es
  | [], _, hname => by simp [callNamesAll] at hname
  | [e], name, hname => by
    rw [callNamesAll, callNamesAll, List.append_nil] at hname
    exact infix_spelling e name hname
  | e :: e' :: es, name, hname => by
    simp only [argsSpelling]
    rcases List.mem_append.1 hname with hname | hname
    · obtain ⟨front, back, he⟩ := infix_spelling e name hname
      exact ⟨front, back ++ .comma :: argsSpelling (e' :: es), by simp [← he]⟩
    · obtain ⟨front, back, he⟩ := infix_argsSpelling (e' :: es) name hname
      exact ⟨e.spelling ++ .comma :: front, back, by simp [← he]⟩

end

end Expr

/-! ## The round trip -/

/-- A call name that is scanned as one name. -/
def IsCallName (name : String) : Prop :=
  name ≠ "true" ∧ name ≠ "false" ∧ Unicode.combiningDot ∉ name.toList

/-- **With names for call names** the rendering of a tree made of words reads back as the tree if the limit covers its
nesting, and is refused for its depth if not. -/
theorem ofFormula_render {e : Expr} (hwords : e.FromWords) (hnames : ∀ name ∈ e.callNames, IsCallName name) (m : Nat) :
    Expr.ofFormula e.render m =
      if 1 + e.nesting ≤ max 1 m then .ok e else .error (.parse (.tooDeep (max 1 m))) := by
  obtain ⟨p, hp, htree, hneed⟩ := exists_primary_of_fromWords e hwords fun name hname =>
    ⟨(hnames name hname).1, (hnames name hname).2.1⟩
  have hspells := Expr.spells_renderOnto e hwords fun name hname => (hnames name hname).2.2
  let d : Expression := p.chain _
  have hterminals : terminals? e.render.toList = some (d.words ++ [.endOfInput]) := by
    rw [Expr.render, String.toList_ofList, hspells.terminals?_eq, Primary.words_chain, hp]
  have hdepth : d.depth = 1 + e.nesting := by
    rw [Expression.depth, Primary.need_chain, hneed]
  have htree' : d.tree = e := by
    rw [Primary.tree_chain, htree]
  rw [ofFormula_of_derivation hterminals, hdepth, htree']

/-- With call names that are scanned as names the rendering is accepted at every limit large enough. -/
theorem exists_limit_of_isCallName {e : Expr} (hwords : e.FromWords) (hnames : ∀ name ∈ e.callNames, IsCallName name) :
    ∃ enough, ∀ m, enough ≤ m → Expr.ofFormula e.render m = .ok e := by
  refine ⟨1 + e.nesting, fun m hm => ?_⟩
  rw [ofFormula_render hwords hnames, if_pos (by omega)]

/-- With a call name that is not, the rendering is accepted at no limit. -/
theorem ofFormula_render_ne_ok {e : Expr} (hwords : e.FromWords) {name : String} (hmem : name ∈ e.callNames)
    (hname : ¬IsCallName name) (m : Nat) (e' : Expr) : Expr.ofFormula e.render m ≠ .ok e' := by
  intro hread
  obtain ⟨d, hterminals, -, -⟩ := ofFormula_eq_ok_iff.1 hread
  rw [Expr.render, String.toList_ofList] at hterminals
  by_cases hdot : ∃ name ∈ e.callNames, Unicode.combiningDot ∈ name.toList
  · rw [Expr.terminals?_renderOnto_eq_none e hwords hdot [] delimited_nil] at hterminals
    cases hterminals
  · have hspells := Expr.spells_renderOnto e hwords fun name hname hmem => hdot ⟨name, hname, hmem⟩
    rw [hspells.terminals?_eq, Option.some_inj, List.append_left_inj] at hterminals
    have htruth : name = "true" ∨ name = "false" := by
      by_cases htrue : name = "true"
      · exact .inl htrue
      · by_cases hfalse : name = "false"
        · exact .inr hfalse
        · exact absurd ⟨htrue, hfalse, fun hd => hdot ⟨name, hmem, hd⟩⟩ hname
    have hinfix := Expr.infix_spelling e name hmem
    rw [nameTerminal, if_pos htruth] at hinfix
    exact not_noBooleanCall_of_infix hinfix (hterminals ▸ d.noBooleanCall_words)

/-- **When a rendering reads back**: the rendering of an accepted tree is accepted with the same tree at every limit
large enough exactly if all its call names are scanned as names; if not, it is accepted at no limit. -/
theorem render_reads_back_iff {formula : String} {limit : Nat} {e : Expr} (h : Expr.ofFormula formula limit = .ok e) :
    ((∃ enough, ∀ m, enough ≤ m → Expr.ofFormula e.render m = .ok e) ↔ ∀ name ∈ e.callNames, IsCallName name) ∧
      ((∃ name ∈ e.callNames, ¬IsCallName name) → ∀ m e', Expr.ofFormula e.render m ≠ .ok e') := by
  have hwords := fromWords_of_ofFormula h
  refine ⟨⟨?_, exists_limit_of_isCallName hwords⟩, ?_⟩
  · rintro ⟨enough, hread⟩ name hmem
    refine Classical.byContradiction fun hname => ?_
    exact ofFormula_render_ne_ok hwords hmem hname enough e (hread enough (Nat.le_refl _))
  · rintro ⟨name, hmem, hname⟩
    exact ofFormula_render_ne_ok hwords hmem hname

/-- The call of a name that is no truth value reads back. -/
theorem render_reads_back_iff_call : ∃ e, Expr.ofFormula "F(1)" 128 = .ok e ∧ e.render = "f(1)" ∧
    ∃ enough, ∀ m, enough ≤ m → Expr.ofFormula e.render m = .ok e := by
  have hparse : (Expr.ofFormula "F(1)" 128).toOption.map (fun e => (e.render, e.callNames)) = some ("f(1)", ["f"]) := by
    decide +kernel
  obtain ⟨e, he, hpair⟩ := exists_ok_of_map_toOption hparse
  obtain ⟨hrender, hnames⟩ := Prod.mk.inj hpair
  refine ⟨e, he, hrender, (render_reads_back_iff he).1.2 fun name hname => ?_⟩
  rw [hnames, List.mem_singleton] at hname
  subst hname
  exact ⟨by decide, by decide, by decide⟩

/-- The call of a truth value in capitals does not read back. -/
theorem render_call_of_truth_value_unread : ∃ e, Expr.ofFormula "TRUE(1)" 128 = .ok e ∧ e.render = "true(1)" ∧
    ∀ m e', Expr.ofFormula e.render m ≠ .ok e' := by
  have hparse : (Expr.ofFormula "TRUE(1)" 128).toOption.map Expr.render = some "true(1)" := by decide +kernel
  obtain ⟨e, he, hrender⟩ := exists_ok_of_map_toOption hparse
  refine ⟨e, he, hrender, fun m e' hread => ?_⟩
  obtain ⟨d, hterminals, -, -⟩ := ofFormula_eq_ok_iff.1 hread
  have hscan : terminals? "true(1)".toList =
      some ([.boolean "true", .leftParen, .number "1", .rightParen] ++ [.endOfInput]) := by decide +kernel
  rw [hrender, hscan, Option.some_inj, List.append_left_inj] at hterminals
  exact not_noBooleanCall_of_infix ⟨[], _, hterminals⟩ d.noBooleanCall_words

end Formula
