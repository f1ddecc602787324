import Formula.Parse.Cursor
import Formula.Proofs.Parse.Readers

/-!
# Parsing in place

A reading in place does what the reader of the same name does on the tokens that are left, with the levels of nesting
that are left as its budget, and on every way out it stands at the first token not taken and as deep as before.

* `LeadsTo` : a cursor that has moved on among its tokens.
* `Follows` : a reading at a cursor that goes as an outcome of a reader tells.
* `InPlace` : a reading that follows a reader at every cursor with the given levels of nesting left.
* `readings_in_place`, `expression_inPlace` : the readings.
-/

namespace Formula

open Formula.Parser (Outcome Reader Refusal nextKind)

/-- The tokens that an outcome leaves. -/
def Parser.Outcome.rest {α : Type} : Outcome α → List Token
  | .done _ rest => rest
  | .refused _ rest => rest

namespace Cursor

/-! ## The tokens that are left -/

/-- The tokens from the place on, without the closing one. -/
def rest (c : Cursor) : List Token := c.tokens.toList.dropLast.drop c.position

/-- The token that closes the others. -/
def last (c : Cursor) : Token := c.tokens.back c.size_pos

theorem back?_tokens (c : Cursor) : c.tokens.back? = some c.last := by
  rw [Array.back?_eq_getElem?, last, Array.back, Array.getElem?_eq_getElem]

theorem isEnd_last (c : Cursor) : c.last.isEnd = true := by simpa [c.back?_tokens] using c.closed

theorem length_rest (c : Cursor) : c.rest.length = c.tokens.size - 1 - c.position := by simp [rest]

section Places

variable {c : Cursor} (h : c.position < c.tokens.size)

include h

/-- The token at the place is the first one left, or the closing one. -/
theorem current_eq : c.current = c.rest.head?.getD c.last := by
  have hmin : min c.position (c.tokens.size - 1) = c.position := by omega
  simp only [current, hmin, rest, List.head?_drop, last, Array.back]
  rcases Nat.lt_or_ge c.position (c.tokens.size - 1) with hlt | hge
  · rw [List.getElem?_dropLast, if_pos (by simpa using hlt)]
    simp [h]
  · obtain hp : c.position = c.tokens.size - 1 := by omega
    rw [List.getElem?_eq_none (by simpa using hge)]
    simp [hp]

theorem getElem?_position : c.tokens[c.position]? = some c.current := by
  have hmin : min c.position (c.tokens.size - 1) = c.position := by omega
  simp [current, hmin, h]

theorem current_of_rest_eq_cons {t : Token} {ts : List Token} (hr : c.rest = t :: ts) : c.current = t := by
  rw [current_eq h, hr]
  rfl

theorem isEnd_of_rest_eq_nil (hr : c.rest = []) : c.current.isEnd = true := by
  rw [current_eq h, hr]
  exact c.isEnd_last

theorem kind_current : c.current.kind = nextKind c.rest := by
  cases hr : c.rest with
  | nil => exact of_decide_eq_true (isEnd_of_rest_eq_nil h hr)
  | cons t ts => rw [current_of_rest_eq_cons h hr, nextKind]

/-- A look at the kind and text of the next token sees in place what it sees on the tokens left. -/
theorem look_current {α : Type} {see : List Token → Option α} (hnil : see [] = none)
    (hcons : ∀ t ts, see (t :: ts) = see [t]) (hend : ∀ t, t.kind = .endOfInput → see [t] = none) :
    see [c.current] = see c.rest := by
  cases hr : c.rest with
  | nil => rw [hnil, hend _ (of_decide_eq_true (isEnd_of_rest_eq_nil h hr))]
  | cons t ts => rw [current_of_rest_eq_cons h hr, hcons t ts]

theorem operatorAt?_current (level : Nat) :
    Parser.operatorAt? level [c.current] = Parser.operatorAt? level c.rest :=
  look_current h rfl (fun _ _ => rfl) fun t ht => by simp [Parser.operatorAt?, ht]

theorem unaryAt?_current : Parser.unaryAt? [c.current] = Parser.unaryAt? c.rest :=
  look_current h rfl (fun _ _ => rfl) fun t ht => by simp [Parser.unaryAt?, ht]

end Places

/-- The cursor has moved on among its tokens. -/
structure LeadsTo (c c' : Cursor) : Prop where
  tokens : c'.tokens = c.tokens
  maxDepth : c'.maxDepth = c.maxDepth
  le : c.position ≤ c'.position
  lt : c'.position < c'.tokens.size

theorem LeadsTo.refl {c : Cursor} (h : c.position < c.tokens.size) : c.LeadsTo c := ⟨rfl, rfl, Nat.le_refl _, h⟩

theorem LeadsTo.last_eq {c c' : Cursor} (h : c.LeadsTo c') : c'.last = c.last := by simp only [last, h.tokens]

theorem LeadsTo.trans {c₁ c₂ c₃ : Cursor} (h : c₁.LeadsTo c₂) (h' : c₂.LeadsTo c₃) : c₁.LeadsTo c₃ :=
  ⟨h'.tokens.trans h.tokens, h'.maxDepth.trans h.maxDepth, Nat.le_trans h.le h'.le, h'.lt⟩

/-- A cursor that has the same tokens left has not moved. -/
theorem LeadsTo.eq_of_rest_eq {c c' : Cursor} (h : c.LeadsTo c') (hlt : c.position < c.tokens.size)
    (hdepth : c'.depth = c.depth) (hrest : c'.rest = c.rest) : c' = c := by
  have hlength := c'.length_rest
  rw [hrest, c.length_rest, h.tokens] at hlength
  have hlt' := h.tokens ▸ h.lt
  exact Cursor.ext h.tokens (by omega) hdepth h.maxDepth

/-- Taking a token that is left. -/
theorem advance_of_rest_eq_cons {c : Cursor} {t : Token} {ts : List Token} (hr : c.rest = t :: ts) :
    c.LeadsTo c.advance ∧ c.advance.rest = ts ∧ c.advance.depth = c.depth := by
  have hlength := c.length_rest
  rw [hr, List.length_cons] at hlength
  have hlt : c.position < c.tokens.size - 1 := by omega
  rw [advance, if_pos hlt]
  refine ⟨⟨rfl, rfl, Nat.le_succ _, by simp only; omega⟩, ?_, rfl⟩
  rw [rest] at hr ⊢
  rw [← List.tail_drop, hr, List.tail_cons]

/-! ## Readings that go as a reader goes -/

/-- The error for a refusal at the cursor. -/
def error (c : Cursor) : Refusal → ParseError
  | .unexpected => .unexpectedToken c.current
  | .unclosed bracket => .unclosed bracket c.current
  | .invalidNumber text => .invalidNumber text
  | .tooDeep => .tooDeep c.maxDepth

section Follows

variable {α β : Type} {c : Cursor} {ends : Nat → Prop}

/-- The answer that an outcome is told as, at the cursor where it stops. -/
def answer (c : Cursor) : Outcome α → Except ParseError α
  | .done a _ => .ok a
  | .refused why _ => .error (c.error why)

/-- At the cursor, the reading answers what the outcome tells, and moves on to the tokens that the outcome leaves; the
depth at which it ends is as told. -/
def Follows (c : Cursor) (read : Reading α) (o : Outcome α) (ends : Nat → Prop) : Prop :=
  ∃ c', c.LeadsTo c' ∧ c'.rest = o.rest ∧ ends c'.depth ∧ c.run read = (c'.answer o, c')

theorem follows_pure (h : c.position < c.tokens.size) (hends : ends c.depth) (a : α) :
    c.Follows (pure a) (.done a c.rest) ends :=
  ⟨c, .refl h, rfl, hends, rfl⟩

theorem follows_throw (h : c.position < c.tokens.size) (why : Refusal) :
    c.Follows (throw (c.error why)) (.refused why c.rest : Outcome α) (· = c.depth) :=
  ⟨c, .refl h, rfl, rfl, rfl⟩

theorem follows_look {next : Token → Reading α} {o : Outcome α} (h : c.Follows (next c.current) o ends) :
    c.Follows (look >>= next) o ends := h

theorem follows_get {next : Cursor → Reading α} {o : Outcome α} (h : c.Follows (next c) o ends) :
    c.Follows (get >>= next) o ends := h

/-- Taking a token and going on. -/
theorem follows_take {t : Token} {ts : List Token} {next : Unit → Reading α} {o : Outcome α} (hr : c.rest = t :: ts)
    (h : c.advance.Follows (next ()) o ends) : c.Follows (take >>= next) o ends := by
  obtain ⟨c', hleads, hrest, hends, hrun⟩ := h
  exact ⟨c', (advance_of_rest_eq_cons hr).1.trans hleads, hrest, hends, hrun⟩

theorem run_bind (c : Cursor) (read : Reading α) (next : α → Reading β) :
    c.run (read >>= next) = match c.run read with
      | (.ok a, c') => c'.run (next a)
      | (.error e, c') => (.error e, c') := by
  change ExceptT.bindCont next (c.run read).1 (c.run read).2 = _
  rcases c.run read with ⟨_ | _, _⟩ <;> rfl

/-- One reading behind the other. -/
theorem Follows.bind {read : Reading α} {next : α → Reading β} {o : Outcome α} {reader : α → Reader β} {depth : Nat}
    (h : c.Follows read o (· = depth)) (hends : ends depth)
    (hnext : ∀ a c', c.LeadsTo c' → c'.depth = depth → c'.Follows (next a) (reader a c'.rest) ends) :
    c.Follows (read >>= next) (o.andThen reader) ends := by
  obtain ⟨c', hleads, hrest, rfl, hrun⟩ := h
  cases o with
  | refused why rest => exact ⟨c', hleads, hrest, hends, by rw [run_bind, hrun]; rfl⟩
  | done a rest =>
    obtain ⟨c'', hleads', hrest', hends', hrun'⟩ := hnext a c' hleads rfl
    obtain rfl : c'.rest = rest := hrest
    exact ⟨c'', hleads.trans hleads', hrest', hends', by rw [run_bind, hrun]; exact hrun'⟩

/-- An answer depends on the token at the place and the limit. -/
theorem answer_congr {c c' : Cursor} (hcurrent : c'.current = c.current) (hmaxDepth : c'.maxDepth = c.maxDepth)
    (o : Outcome α) : c'.answer o = c.answer o := by
  rcases o with _ | ⟨_ | _, _⟩ <;> simp [answer, error, hcurrent, hmaxDepth]

/-- The nesting is what it is set to, whatever the reading did with it. -/
theorem Follows.resetting {read : Reading α} {o : Outcome α} (h : c.Follows read o ends) (depth : Nat) :
    c.Follows (resetting depth read) o (· = depth) := by
  obtain ⟨c', hleads, hrest, -, hrun⟩ := h
  refine ⟨{ c' with depth }, ⟨hleads.tokens, hleads.maxDepth, hleads.le, hleads.lt⟩, hrest, rfl, ?_⟩
  change ((c.run read).1, { (c.run read).2 with depth }) = _
  have hanswer : { c' with depth }.answer o = c'.answer o := answer_congr rfl rfl o
  rw [hrun, hanswer]

theorem run_descend (c : Cursor) : c.run descend =
    if c.maxDepth ≤ c.depth then (.error (.tooDeep c.maxDepth), c) else (.ok (), { c with depth := c.depth + 1 }) := by
  change c.run (if c.maxDepth ≤ c.depth then throw (.tooDeep c.maxDepth) else set { c with depth := c.depth + 1 }) = _
  split <;> rfl

/-- Going on one level deeper. -/
theorem follows_descend {next : Unit → Reading α} {o : Outcome α} (hdepth : c.depth < c.maxDepth)
    (h : { c with depth := c.depth + 1 }.Follows (next ()) o ends) : c.Follows (descend >>= next) o ends := by
  obtain ⟨c', hleads, hrest, hends, hrun⟩ := h
  refine ⟨c', ⟨hleads.tokens, hleads.maxDepth, hleads.le, hleads.lt⟩, hrest, hends, ?_⟩
  rw [run_bind, run_descend, if_neg (Nat.not_le.2 hdepth)]
  exact hrun

/-- With all levels taken, nothing goes on deeper. -/
theorem follows_descend_refused {next : Unit → Reading α} (h : c.position < c.tokens.size)
    (hdepth : c.depth = c.maxDepth) (hends : ends c.depth) :
    c.Follows (descend >>= next) (.refused .tooDeep c.rest) ends := by
  refine ⟨c, .refl h, rfl, hends, ?_⟩
  rw [run_bind, run_descend, if_pos (Nat.le_of_eq hdepth.symm)]
  rfl

end Follows

/-! ## The readings -/

/-- The cursor stands at one of its tokens with the given number of further levels of nesting. -/
structure Stands (c : Cursor) (deeper : Nat) : Prop where
  lt : c.position < c.tokens.size
  depth : c.depth + deeper = c.maxDepth

theorem Stands.of_leadsTo {c c' : Cursor} {deeper : Nat} (h : c.Stands deeper) (hleads : c.LeadsTo c')
    (hdepth : c'.depth = c.depth) : c'.Stands deeper := ⟨hleads.lt, by rw [hdepth, h.depth, hleads.maxDepth]⟩

theorem Stands.succ {c : Cursor} {deeper : Nat} (h : c.Stands (deeper + 1)) :
    { c with depth := c.depth + 1 }.Stands deeper := ⟨h.lt, (Nat.add_right_comm ..).trans h.depth⟩

/-- With so many further levels of nesting, the reading goes as the reader does on the tokens left, and comes back to
the depth where it started. -/
def InPlace {α : Type} (deeper : Nat) (read : Reading α) (reader : Reader α) : Prop :=
  ∀ c : Cursor, c.Stands deeper → c.Follows read (reader c.rest) (· = c.depth)

section InPlace

variable {α : Type} {deeper : Nat} {operand inner : Reading Expr} {operandReader innerReader : Reader Expr}

theorem inPlace_pure (a : α) : InPlace deeper (pure a) fun ts => .done a ts := by
  intro c hc
  refine follows_pure hc.lt ?_ a
  rfl

/-- One reading behind the other. -/
theorem InPlace.bind {β : Type} {read : Reading α} {reader : Reader α} {next : α → Reading β}
    {nextReader : α → Reader β} (h : InPlace deeper read reader) (hnext : ∀ a, InPlace deeper (next a) (nextReader a)) :
    InPlace deeper (read >>= next) fun ts => (reader ts).andThen nextReader := by
  refine fun c hc => (h c hc).bind rfl fun a c' hleads hdepth => ?_
  rw [← hdepth]
  exact hnext a c' (hc.of_leadsTo hleads hdepth)

/-- Taking a token, and reading behind it. -/
theorem InPlace.take {read : Reading α} {reader : Reader α} (h : InPlace deeper read reader) {c : Cursor} {t : Token}
    {ts : List Token} (hc : c.Stands deeper) (hr : c.rest = t :: ts) :
    c.Follows (take >>= fun _ => read) (reader ts) (· = c.depth) := by
  obtain ⟨hleads, hrest, hdepth⟩ := advance_of_rest_eq_cons hr
  refine follows_take hr ?_
  rw [← hrest, ← hdepth]
  exact h _ (hc.of_leadsTo hleads hdepth)

theorem closing_inPlace (bracket : Bracket) (a : α) :
    InPlace deeper (do closing bracket; return a) (Parser.closing bracket a) := by
  intro c hc
  have hclosing : c.Follows (closing bracket) (Parser.closing bracket () c.rest) (· = c.depth) := by
    refine follows_look ?_
    rw [kind_current hc.lt]
    cases hr : c.rest with
    | nil =>
      rw [if_neg (by decide), Parser.closing, ← hr]
      exact follows_throw hc.lt (.unclosed bracket)
    | cons t ts =>
      obtain ⟨hleads, hrest, hdepth⟩ := advance_of_rest_eq_cons hr
      rw [nextKind, Parser.closing]
      split
      · exact ⟨c.advance, hleads, hrest, hdepth, rfl⟩
      · rw [← hr]
        exact follows_throw hc.lt (.unclosed bracket)
  have hmap : Parser.closing bracket a c.rest =
      (Parser.closing bracket () c.rest).andThen fun _ rest => .done a rest := by
    cases c.rest with
    | nil => rfl
    | cons t ts =>
      rw [Parser.closing, Parser.closing]
      split <;> rfl
  rw [hmap]
  exact hclosing.bind rfl fun _ _ hleads hdepth => follows_pure hleads.lt hdepth a

theorem nested_inPlace {read : Reading α} {reader : Reader α} (h : InPlace deeper read reader) :
    InPlace (deeper + 1) (nested read) reader := by
  intro c hc
  have hdepth := hc.depth
  exact follows_get (follows_descend (by omega) ((h _ hc.succ).resetting c.depth))

/-- Without further levels, nothing is read one level deeper. -/
theorem nested_refuses (read : Reading Expr) : InPlace 0 (nested read) Parser.tooDeep := fun _ hc =>
  follows_get (follows_descend_refused hc.lt hc.depth rfl)

theorem argumentsUpTo_inPlace (hi : InPlace deeper inner innerReader) :
    ∀ bound, InPlace deeper (argumentsUpTo inner bound) (Parser.argumentsUpTo innerReader bound)
  | 0 => fun c hc => follows_throw hc.lt .unexpected
  | bound + 1 => by
    intro c hc
    rw [Parser.argumentsUpTo_succ]
    refine hi.bind (fun e c hc => follows_look ?_) c hc
    rw [kind_current hc.lt]
    split
    · rename_i hcomma
      obtain ⟨t, ts, hr, -⟩ := (Parser.nextKind_eq_kind (w := .comma) rfl (by decide)).1 hcomma
      rw [hr]
      exact ((argumentsUpTo_inPlace hi bound).bind fun es => inPlace_pure (e :: es)).take hc hr
    · exact inPlace_pure [e] c hc

theorem arguments_inPlace (hi : InPlace deeper inner innerReader) :
    InPlace deeper (arguments inner) (Parser.arguments innerReader) := by
  intro c hc
  have hlength := c.length_rest
  have hbound : c.tokens.size - c.position = c.rest.length + 1 := by
    have := hc.lt
    omega
  rw [Parser.arguments_eq]
  refine follows_get ?_
  rw [kind_current hc.lt, hbound]
  split
  · exact closing_inPlace .arguments [] c hc
  · exact (argumentsUpTo_inPlace hi _).bind (closing_inPlace .arguments) c hc

theorem named_inPlace (hi : InPlace deeper inner innerReader) (name : String) :
    InPlace deeper (named inner name) fun ts => if nextKind ts = .leftParen then
        (Parser.arguments innerReader ts.tail).andThen fun args rest => .done (.callOf name args) rest
      else .done (.fieldOf name) ts := by
  intro c hc
  show c.Follows _ (if nextKind c.rest = .leftParen then _ else _) _
  refine follows_look ?_
  rw [kind_current hc.lt]
  split
  · rename_i hopen
    obtain ⟨t, ts, hr, -⟩ := (Parser.nextKind_eq_kind (w := .leftParen) rfl (by decide)).1 hopen
    rw [hr]
    exact ((arguments_inPlace hi).bind fun args => inPlace_pure (Expr.callOf name args)).take hc hr
  · exact inPlace_pure _ c hc

theorem primary_inPlace (hi : InPlace deeper inner innerReader) :
    InPlace deeper (primary inner) (Parser.primary innerReader) := by
  intro c hc
  refine follows_look ?_
  have hkind := kind_current hc.lt
  cases hr : c.rest with
  | nil =>
    rw [hr, nextKind] at hkind
    simp only [hkind, Parser.primary, ← hr]
    exact follows_throw hc.lt .unexpected
  | cons t ts =>
    rw [current_of_rest_eq_cons hc.lt hr]
    cases hk : t.kind with
    | number =>
      rw [Parser.primary_number _ _ hk]
      cases Parser.literalNumber? t.text with
      | none =>
        have hrefuses : InPlace deeper (throw (.invalidNumber t.text))
            (fun ts => (.refused (.invalidNumber t.text) ts : Outcome Expr)) :=
          fun c hc => follows_throw hc.lt (.invalidNumber t.text)
        exact hrefuses.take hc hr
      | some x => exact (inPlace_pure _).take hc hr
    | string =>
      simp only [Parser.primary, hk]
      exact (inPlace_pure _).take hc hr
    | boolean =>
      simp only [Parser.primary, hk]
      exact (inPlace_pure _).take hc hr
    | identifier =>
      rw [Parser.primary_identifier _ _ hk]
      exact (named_inPlace hi t.text).take hc hr
    | leftParen =>
      rw [Parser.primary_leftParen _ _ hk]
      exact (hi.bind (closing_inPlace .group)).take hc hr
    | operator | rightParen | comma | endOfInput =>
      simp only [Parser.primary, hk, ← hr]
      exact follows_throw hc.lt .unexpected

theorem unaryWith_inPlace (ho : InPlace deeper operand operandReader) (hi : InPlace deeper inner innerReader) :
    InPlace deeper (unaryWith operand inner) (Parser.unaryWith operandReader innerReader) := by
  intro c hc
  rw [Parser.unaryWith_eq]
  refine follows_look ?_
  rw [unaryAt?_current hc.lt]
  cases hop : Parser.unaryAt? c.rest with
  | none => exact primary_inPlace hi c hc
  | some op =>
    obtain ⟨t, ts, hr, -⟩ := Parser.unaryAt?_eq_some hop
    rw [hr]
    exact (ho.bind fun e => inPlace_pure (Expr.unary op e)).take hc hr

theorem chainWith_inPlace {more : Nat → Expr → Reading Expr} {moreReader : Nat → Expr → Reader Expr}
    (ho : InPlace deeper operand operandReader)
    (hm : ∀ level left (c : Cursor), c.Stands deeper →
      c.Follows (more level left) (moreReader level left c.rest) fun _ => True) :
    ∀ n, InPlace deeper (chainWith operand more n) (Parser.chainWith operandReader moreReader n)
  | 0 => ho
  | level + 1 => by
    intro c hc
    rw [Parser.chainWith_succ]
    have hlevel : c.Follows (chainWith operand more level >>= more level) _ fun _ => True :=
      (chainWith_inPlace ho hm level c hc).bind trivial fun left c' hleads hdepth =>
        hm level left c' (hc.of_leadsTo hleads hdepth)
    exact follows_get (hlevel.resetting c.depth)

end InPlace

/-- The readings with the given number of further levels go as the readers with that budget; the operators behind an
operand take levels that only the whole chain gives back. -/
theorem readings_in_place (deeper : Nat) : InPlace deeper (unary deeper) (Parser.unary deeper) ∧
    ∀ level left (c : Cursor), c.Stands deeper →
      c.Follows (folds deeper level left) (Parser.folds deeper level left c.rest) fun _ => True := by
  induction deeper with
  | zero =>
    constructor
    · intro c hc
      rw [Parser.unary]
      exact unaryWith_inPlace (nested_refuses _) (nested_refuses _) c hc
    · intro level left c hc
      rw [Parser.folds_eq]
      refine follows_look ?_
      rw [operatorAt?_current hc.lt]
      cases hop : Parser.operatorAt? level c.rest with
      | none => exact follows_pure hc.lt trivial left
      | some op => exact follows_descend_refused hc.lt hc.depth trivial
  | succ deeper ih =>
    have hchain := chainWith_inPlace ih.1 ih.2
    constructor
    · intro c hc
      rw [Parser.unary]
      exact unaryWith_inPlace (nested_inPlace ih.1) (nested_inPlace (hchain Operator.levels)) c hc
    · intro level left c hc
      have hdepth := hc.depth
      rw [Parser.folds_eq]
      refine follows_look ?_
      rw [operatorAt?_current hc.lt]
      cases hop : Parser.operatorAt? level c.rest with
      | none => exact follows_pure hc.lt trivial left
      | some op =>
        obtain ⟨t, ts, hr, -⟩ := Parser.operatorAt?_eq_some hop
        obtain ⟨hleads, hrest, hdeeper⟩ := advance_of_rest_eq_cons (c := { c with depth := c.depth + 1 }) hr
        have hstands := hc.succ.of_leadsTo hleads hdeeper
        have hright := hchain level _ hstands
        rw [hrest] at hright
        refine follows_descend (by omega) (follows_take hr ?_)
        rw [hr]
        exact hright.bind trivial fun right c' hleads hdepth => ih.2 level _ c' (hstands.of_leadsTo hleads hdepth)

theorem expression_inPlace : ∀ deeper, InPlace deeper (expression deeper) (Parser.expression deeper)
  | 0 => nested_refuses _
  | deeper + 1 =>
    nested_inPlace (chainWith_inPlace (readings_in_place deeper).1 (readings_in_place deeper).2 Operator.levels)

end Cursor
end Formula
