import Formula.Proofs.Eval.Fields
import Formula.Proofs.Parse.Formulas

/-!
# The fields written in a formula

The fields that an expression lists are those that its formula writes, in the order in which it writes them: every
identifier is one unless an opening parenthesis right after it makes it the name of a call.

* `writtenFields` : the references that a list of tokens writes.
* `Grammar.Chain.written_words` and the others : a derivation writes the references of its tree.
* `fields_eq_written` : the listed fields of an accepted formula are the written ones without repetitions.
-/

namespace Formula

open Grammar

/-! ## Written references -/

theorem Expr.references_unary (op : UnaryOperator) (e : Expr) : (unary op e).references = e.references := by
  cases op with
  | negate => rfl
  | not => exact List.append_nil _

/-- The references that tokens write, from left to right: those of the identifiers that no opening parenthesis comes
right after. -/
def writtenFields : List Token → List Field
  | [] => []
  | t :: rest =>
    if t.kind = .identifier ∧ Parser.nextKind rest ≠ .leftParen then .ofIdentifier t.text :: writtenFields rest
    else writtenFields rest

namespace Grammar

/-- The references that terminals write. -/
def written : List Terminal → List Field
  | [] => []
  | .identifier text :: rest =>
    if rest.head? = some .leftParen then written rest else .ofIdentifier text :: written rest
  | _ :: rest => written rest

theorem written_cons_of_ne {w : Terminal} (h : w.kind ≠ .identifier) (rest : List Terminal) :
    written (w :: rest) = written rest := by
  cases w <;> first | rfl | exact absurd rfl h

theorem written_operator (symbol : String) (rest : List Terminal) :
    written (.operator symbol :: rest) = written rest := rfl

theorem written_leftParen (rest : List Terminal) : written (.leftParen :: rest) = written rest := rfl

theorem written_rightParen (rest : List Terminal) : written (.rightParen :: rest) = written rest := rfl

theorem written_comma (rest : List Terminal) : written (.comma :: rest) = written rest := rfl

/-- In front of an opening parenthesis an identifier is the name of a call. -/
theorem written_call (name : String) (rest : List Terminal) :
    written (.identifier name :: .leftParen :: rest) = written rest := rfl

theorem head?_map_terminal (ts : List Token) :
    (ts.map Token.terminal).head? = some .leftParen ↔ Parser.nextKind ts = .leftParen := by
  cases ts with
  | nil => simp [Parser.nextKind]
  | cons t ts =>
    rw [List.map_cons, List.head?_cons, Option.some_inj]
    exact Token.terminal_eq_iff rfl

/-- The terminals write what their tokens write. -/
theorem written_map_terminal (ts : List Token) : written (ts.map Token.terminal) = writtenFields ts := by
  induction ts with
  | nil => rfl
  | cons t ts ih =>
    rw [List.map_cons, writtenFields, ← ih]
    by_cases hk : t.kind = .identifier
    · have ht : t.terminal = .identifier t.text := by simp [Token.terminal, hk]
      simp only [ht, written, head?_map_terminal, hk, true_and, ne_eq, ite_not]
    · rw [written_cons_of_ne (by rwa [Token.terminal_kind]), if_neg fun h => hk h.1]

theorem Links.head?_append_ne {n : Nat} (l : Links n) {rest : List Terminal} (h : rest.head? ≠ some .leftParen) :
    (l.words ++ rest).head? ≠ some .leftParen := by
  cases l with
  | nil => exact h
  | cons => simp [Links.words]

mutual

/-- **A derivation writes the references of its tree**, in front of anything but an opening parenthesis. -/
theorem Chain.written_words : ∀ {n : Nat} (c : Chain n) {rest : List Terminal}, rest.head? ≠ some .leftParen →
    written (c.words ++ rest) = c.tree.references ++ written rest
  | _, .unary u, _, h => u.written_words h
  | _, .level first links, rest, h => by
    rw [Chain.words, Chain.tree, List.append_assoc, first.written_words (links.head?_append_ne h),
      links.written_words h]

/-- Behind the references of a left operand come those of the chain that it opens. -/
theorem Links.written_words : ∀ {n : Nat} (l : Links n) {left : Expr} {rest : List Terminal},
    rest.head? ≠ some .leftParen →
    left.references ++ written (l.words ++ rest) = (l.fold left).references ++ written rest
  | _, .nil, _, _, _ => rfl
  | _, .cons op _ right more, left, rest, h => by
    rw [Links.fold, ← more.written_words h, Expr.references, List.append_assoc,
      ← right.written_words (more.head?_append_ne h), Links.words, List.cons_append, List.append_assoc,
      written_operator]

theorem Unary.written_words : ∀ (u : Unary) {rest : List Terminal}, rest.head? ≠ some .leftParen →
    written (u.words ++ rest) = u.tree.references ++ written rest
  | .sign op operand, _, h => by
    rw [Unary.words, Unary.tree_sign, Expr.references_unary, List.cons_append, written_operator,
      operand.written_words h]
  | .primary p, _, h => p.written_words h

theorem Primary.written_words : ∀ (p : Primary) {rest : List Terminal}, rest.head? ≠ some .leftParen →
    written (p.words ++ rest) = p.tree.references ++ written rest
  | .number .., _, _ | .string _, _, _ | .boolean _, _, _ | .emptyCall _, _, _ => rfl
  | .field _, _, h => if_neg h
  | .call name args, rest, _ => by
    have hrest : (Terminal.rightParen :: rest).head? ≠ some .leftParen := by simp
    rw [Primary.words, List.cons_append, List.cons_append, List.append_assoc, written_call,
      List.singleton_append, args.written_words hrest, written_rightParen]
    rfl
  | .group inner, rest, _ => by
    have hrest : (Terminal.rightParen :: rest).head? ≠ some .leftParen := by simp
    rw [Primary.words, List.cons_append, List.append_assoc, written_leftParen, List.singleton_append,
      inner.written_words hrest, written_rightParen]
    rfl

theorem Arguments.written_words : ∀ (a : Arguments) {rest : List Terminal}, rest.head? ≠ some .leftParen →
    written (a.words ++ rest) = Expr.referencesAll a.trees ++ written rest
  | .last e, rest, h => by
    rw [Arguments.words, Arguments.trees, Expr.referencesAll, e.written_words h, Expr.referencesAll, List.append_nil]
  | .cons e more, rest, h => by
    rw [Arguments.words, Arguments.trees, Expr.referencesAll, List.append_assoc, List.append_assoc,
      e.written_words (by simp), List.cons_append, written_comma, more.written_words h]

end

end Grammar

/-- **The listed fields are the written ones**: the fields of an accepted formula are the references that its tokens
write, each at its first appearance. -/
theorem fields_eq_written {formula : String} {maxDepth : Nat} {e : Expr} (h : Expr.ofFormula formula maxDepth = .ok e) :
    ∃ ts, tokenize formula = .ok ts ∧ e.fields = (writtenFields ts).eraseDups := by
  obtain ⟨d, hterminals, rfl, -⟩ := ofFormula_eq_ok_iff.1 h
  obtain ⟨ts, hts, hmap⟩ := terminals?_eq_some_iff.1 hterminals
  refine ⟨ts, hts, ?_⟩
  have hwritten : writtenFields ts = d.tree.references := by
    rw [← written_map_terminal, hmap, d.written_words (by simp)]
    exact List.append_nil _
  rw [hwritten, Expr.fields_eq_eraseDups]

/-- A call of the name of a field, a unary operator, and a field with and without its mark. -/
theorem fields_eq_written_call : ∃ e ts, Expr.ofFormula "ctx.a + a(b, -a) * ctx.a" 128 = .ok e ∧
    tokenize "ctx.a + a(b, -a) * ctx.a" = .ok ts ∧ e.fields = (writtenFields ts).eraseDups ∧
    e.fields = [⟨"a", true⟩, ⟨"b", false⟩, ⟨"a", false⟩] := by
  have hfields : (Expr.ofFormula "ctx.a + a(b, -a) * ctx.a" 128).toOption.map Expr.fields =
      some [⟨"a", true⟩, ⟨"b", false⟩, ⟨"a", false⟩] := by
    decide +kernel
  obtain ⟨e, he, hlisted⟩ := exists_ok_of_map_toOption hfields
  obtain ⟨ts, hts, hwritten⟩ := fields_eq_written he
  exact ⟨e, ts, he, hts, hwritten, hlisted⟩

end Formula
