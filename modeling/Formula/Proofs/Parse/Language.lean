import Formula.Proofs.Parse.Budget
import Formula.Proofs.Parse.Complete
import Formula.Proofs.Spans

/-!
# What a list of tokens parses to

* `ofTokens_eq_ok_iff_derivation` : with a limit above the number of tokens, parsing succeeds exactly on the sentences
  of the grammar, with the tree of their only derivation, and never refuses for depth.
* `ofTokens_limit_only_refuses` : every other limit gives the same answer or refuses for depth, and a sentence is
  refused exactly when its derivation takes more nesting than the limit.
-/

namespace Formula

open Grammar

namespace Parser

/-! ## The tokens in front of the end -/

theorem takeWhile_append_singleton {α : Type} {p : α → Bool} {a : α} (h : p a = false) :
    ∀ l : List α, (l ++ [a]).takeWhile p = l.takeWhile p
  | [] => by simp [h]
  | b :: l => by
    cases hb : p b with
    | true => simp [hb, takeWhile_append_singleton h l]
    | false => simp [hb]

/-- A parser keeps the tokens in front of the first end of the input. -/
theorem sentence_rest_ofTokens (ts : List Token) (maxDepth : Nat) :
    sentence (ofTokens ts maxDepth).rest = sentence ts := by
  unfold ofTokens
  split
  · rename_i h
    rw [List.getLast?_eq_none_iff.1 h]
  · rename_i t h
    obtain ⟨front, rfl⟩ := List.getLast?_eq_some_iff.1 h
    split
    · rename_i ht
      simp [sentence, takeWhile_append_singleton, ht]
    · rfl

theorem length_rest_ofTokens_le (ts : List Token) (maxDepth : Nat) :
    (ofTokens ts maxDepth).rest.length ≤ ts.length := by
  unfold ofTokens
  split
  · simp
  · split <;> simp

theorem maxDepth_ofTokens (ts : List Token) (maxDepth : Nat) : (ofTokens ts maxDepth).maxDepth = max 1 maxDepth := by
  unfold ofTokens
  split
  · rfl
  · split <;> rfl

/-- The tokens to be read do not depend on the limit. -/
theorem rest_ofTokens (ts : List Token) (m n : Nat) : (ofTokens ts m).rest = (ofTokens ts n).rest := by
  unfold ofTokens
  split
  · rfl
  · split <;> rfl

theorem stop_ofTokens (ts : List Token) (m n : Nat) : (ofTokens ts m).stop = (ofTokens ts n).stop := by
  unfold ofTokens
  split
  · rfl
  · split <;> rfl

/-- The tokens of a parser are those of its sentence, and then an end of the input or nothing. -/
theorem exists_eq_append_of_sentence (ts : List Token) : ∃ used rest, ts = used ++ rest ∧
    used.map Token.terminal = sentence ts ∧ nextKind rest = .endOfInput := by
  refine ⟨ts.takeWhile fun t => !t.isEnd, ts.dropWhile fun t => !t.isEnd, ?_, rfl, ?_⟩
  · exact List.takeWhile_append_dropWhile.symm
  · cases h : ts.dropWhile fun t => !t.isEnd with
    | nil => rfl
    | cons t rest =>
      have ht := List.head_dropWhile_not (l := ts) (fun t : Token => !t.isEnd) (by simp [h])
      simp only [h, List.head_cons] at ht
      simpa [Token.isEnd, nextKind] using ht

/-- Tokens of which none is an end of the input are the sentence when one comes next. -/
theorem sentence_append {used rest : List Token} (hused : .endOfInput ∉ used.map Token.terminal)
    (hrest : nextKind rest = .endOfInput) : sentence (used ++ rest) = used.map Token.terminal := by
  have hkeep : ∀ t ∈ used, (!t.isEnd) = true := by
    intro t ht
    have hkind : t.kind ≠ .endOfInput := by
      intro hk
      have hend : t.terminal = .endOfInput := (Token.terminal_eq_iff rfl).2 hk
      exact hused (hend ▸ List.mem_map_of_mem ht)
    simpa [Token.isEnd] using hkind
  have hstop : ∀ t ∈ rest.head?, (!t.isEnd) = false := by
    intro t ht
    obtain ⟨more, rfl⟩ := List.head?_eq_some_iff.1 ht
    have hkind : t.kind = .endOfInput := hrest
    simp [Token.isEnd, hkind]
  rw [sentence, takeWhile_span hkeep hstop]

/-- A derivation whose terminals are taken up to an end of the input spells the sentence. -/
theorem words_eq_sentence {d : Expression} {used rest : List Token} (h : used.map Token.terminal = d.words)
    (hr : nextKind rest = .endOfInput) : sentence (used ++ rest) = d.words := by
  rw [sentence_append (h ▸ d.endOfInput_not_mem) hr, h]

theorem stops_of_nextKind_eq_endOfInput {ts : List Token} (h : nextKind ts = .endOfInput) (n : Nat) :
    Stops n (ts.map Token.terminal) := by
  cases ts with
  | nil => trivial
  | cons t ts =>
    have ht : t.terminal = .endOfInput := (Token.terminal_eq_iff rfl).2 h
    rw [List.map_cons, ht]
    trivial

/-! ## Parsing by the expression reader -/

/-- What a parser answers when its expression reader ends so. -/
def answer (p : Parser) : Outcome Expr → Except ParseError Expr
  | .refused why rest => .error (error { p with rest } why)
  | .done e rest => if nextKind rest = .endOfInput then .ok e else .error (error { p with rest } .unexpected)

theorem parse_eq_answer (p : Parser) : p.parse.1 = p.answer (expression p.maxDepth p.rest) := by
  unfold parse
  cases expression p.maxDepth p.rest <;> rfl

/-- The limit shows in no answer but a refusal for depth. -/
theorem answer_congr {p p' : Parser} (hstop : p.stop = p'.stop) {o : Outcome Expr}
    (ho : ∀ rest, o ≠ .refused .tooDeep rest) : p.answer o = p'.answer o := by
  cases o with
  | refused why rest =>
    cases why with
    | tooDeep => exact absurd rfl (ho rest)
    | _ => simp [answer, error, current, hstop]
  | done e rest => simp [answer, error, current, hstop]

theorem parse_eq_ok_iff {p : Parser} {e : Expr} :
    p.parse.1 = .ok e ↔ ∃ rest, expression p.maxDepth p.rest = .done e rest ∧ nextKind rest = .endOfInput := by
  rw [parse_eq_answer]
  cases expression p.maxDepth p.rest with
  | refused why rest => simp [answer]
  | done e' rest =>
    rw [answer]
    split
    · rename_i hr
      rw [Except.ok.injEq]
      exact ⟨fun h => ⟨rest, by rw [h], hr⟩, fun ⟨_, h, _⟩ => (Outcome.done.inj h).1⟩
    · rename_i hr
      constructor
      · intro h
        cases h
      · rintro ⟨rest', h, hr'⟩
        cases h
        exact absurd hr' hr

theorem parse_eq_tooDeep_iff {p : Parser} {limit : Nat} : p.parse.1 = .error (.tooDeep limit) ↔
    limit = p.maxDepth ∧ ∃ rest, expression p.maxDepth p.rest = .refused .tooDeep rest := by
  rw [parse_eq_answer]
  cases expression p.maxDepth p.rest with
  | refused why rest => cases why <;> simp [answer, error, eq_comm]
  | done e rest =>
    rw [answer]
    split <;> simp [error]

/-- **On a sentence the limit decides**: parsing gives the tree if the limit covers its nesting, and refuses if not. -/
theorem ofTokens_of_derivation {ts : List Token} {d : Expression} (h : d.words = sentence ts) (maxDepth : Nat) :
    (d.depth ≤ max 1 maxDepth → Expr.ofTokens ts maxDepth = .ok d.tree) ∧
      (max 1 maxDepth < d.depth → Expr.ofTokens ts maxDepth = .error (.tooDeep (max 1 maxDepth))) := by
  obtain ⟨used, rest, hts, hu, hr⟩ := exists_eq_append_of_sentence (ofTokens ts maxDepth).rest
  rw [sentence_rest_ofTokens, ← h] at hu
  have hs : Stops Operator.levels (rest.map Token.terminal) := stops_of_nextKind_eq_endOfInput hr _
  have htakes := expression_takes d (max 1 maxDepth) hu hs
  rw [← hts] at htakes
  constructor
  · intro hd
    exact parse_eq_ok_iff.2 ⟨rest, by rw [maxDepth_ofTokens]; exact htakes.1 hd, hr⟩
  · intro hd
    refine parse_eq_tooDeep_iff.2 ⟨(maxDepth_ofTokens ts maxDepth).symm, ?_⟩
    rw [maxDepth_ofTokens]
    exact htakes.2 hd

/-- What parsing accepts is a sentence. -/
theorem exists_derivation_of_ofTokens {ts : List Token} {maxDepth : Nat} {e : Expr}
    (h : Expr.ofTokens ts maxDepth = .ok e) : ∃ d : Expression, d.words = sentence ts ∧ d.tree = e := by
  obtain ⟨rest, hd, hr⟩ := parse_eq_ok_iff.1 h
  obtain ⟨used, hts, d, hw, ht⟩ := expression_sound _ hd
  refine ⟨d, ?_, ht⟩
  rw [← sentence_rest_ofTokens ts maxDepth, hts, words_eq_sentence hw.symm hr]

/-- **A limit accepts** the sentences whose nesting it covers. -/
theorem ofTokens_eq_ok_iff {ts : List Token} {maxDepth : Nat} {e : Expr} : Expr.ofTokens ts maxDepth = .ok e ↔
    ∃ d : Expression, d.words = sentence ts ∧ d.tree = e ∧ d.depth ≤ max 1 maxDepth := by
  constructor
  · intro h
    obtain ⟨d, hd, ht⟩ := exists_derivation_of_ofTokens h
    refine ⟨d, hd, ht, Nat.le_of_not_lt fun hdepth => ?_⟩
    rw [(ofTokens_of_derivation hd maxDepth).2 hdepth] at h
    cases h
  · rintro ⟨d, hd, rfl, hdepth⟩
    exact (ofTokens_of_derivation hd maxDepth).1 hdepth

/-- A limit above the number of tokens never refuses for depth. -/
theorem ofTokens_ne_tooDeep {ts : List Token} {maxDepth : Nat} (h : ts.length < maxDepth) (limit : Nat) :
    Expr.ofTokens ts maxDepth ≠ .error (.tooDeep limit) := by
  intro he
  obtain ⟨-, rest, hr⟩ := parse_eq_tooDeep_iff.1 he
  have hlen := length_rest_ofTokens_le ts maxDepth
  refine expression_sufficient ?_ rest hr
  rw [maxDepth_ofTokens]
  omega

/-- A larger limit changes nothing but refusals for depth. -/
theorem ofTokens_below (ts : List Token) {m larger : Nat} (h : m ≤ larger) :
    Expr.ofTokens ts m = .error (.tooDeep (max 1 m)) ∨ Expr.ofTokens ts m = Expr.ofTokens ts larger := by
  have hbelow := expression_below (show max 1 m ≤ max 1 larger by omega) (ofTokens ts m).rest
  by_cases htoo : ∃ rest, expression (max 1 m) (ofTokens ts m).rest = .refused .tooDeep rest
  · exact .inl (parse_eq_tooDeep_iff.2 ⟨(maxDepth_ofTokens ts m).symm, by rwa [maxDepth_ofTokens]⟩)
  · right
    have heq := hbelow.resolve_left htoo
    rw [Expr.ofTokens, Expr.ofTokens, parse_eq_answer, parse_eq_answer, maxDepth_ofTokens, maxDepth_ofTokens,
      rest_ofTokens ts larger m, ← heq]
    exact answer_congr (stop_ofTokens ts m larger) fun rest hr => htoo ⟨rest, hr⟩

end Parser

/-! ## The main statements -/

/-- **Parsing accepts exactly the grammar**, and reads the tree of the only derivation. -/
theorem ofTokens_eq_ok_iff_derivation (ts : List Token) (maxDepth : Nat) (h : ts.length + 1 ≤ maxDepth) :
    (∀ e, Expr.ofTokens ts maxDepth = .ok e ↔ ∃ d : Expression, d.words = sentence ts ∧ d.tree = e) ∧
      (∀ limit, Expr.ofTokens ts maxDepth ≠ .error (.tooDeep limit)) ∧
      ∀ d d' : Expression, d.words = d'.words → d = d' := by
  refine ⟨fun e => ⟨Parser.exists_derivation_of_ofTokens, ?_⟩, Parser.ofTokens_ne_tooDeep h,
    fun _ _ => Expression.words_injective⟩
  rintro ⟨d, hd, rfl⟩
  have hdecide := Parser.ofTokens_of_derivation hd maxDepth
  by_cases hdepth : d.depth ≤ max 1 maxDepth
  · exact hdecide.1 hdepth
  · exact absurd (hdecide.2 (by omega)) (Parser.ofTokens_ne_tooDeep h _)

/-- The two tokens of `-a` with the least limit that their number allows. -/
theorem ofTokens_eq_ok_iff_derivation_negated_field :
    [Token.mk .operator "-" 0, Token.mk .identifier "a" 1].length + 1 ≤ 3 ∧
      Expr.ofTokens [⟨.operator, "-", 0⟩, ⟨.identifier, "a", 1⟩] 3 =
        .ok (.binary (.literal (.number (.zero false))) .sub (.field ⟨"a", false⟩)) ∧
      ∃ d : Expression, d.words = [.operator "-", .identifier "a"] ∧
        d.tree = .binary (.literal (.number (.zero false))) .sub (.field ⟨"a", false⟩) := by
  have hlength : [Token.mk .operator "-" 0, Token.mk .identifier "a" 1].length + 1 ≤ 3 := by decide
  have haccepts := (ofTokens_eq_ok_iff_derivation _ 3 hlength).1
    (.binary (.literal (.number (.zero false))) .sub (.field ⟨"a", false⟩))
  exact ⟨hlength, rfl, haccepts.1 rfl⟩

/-- **The limit only refuses**: below a limit that no nesting reaches the answer is the same or a refusal for depth, and
a sentence is refused exactly when its derivation takes more nesting than the limit. -/
theorem ofTokens_limit_only_refuses (ts : List Token) :
    (∃ unlimited, (∀ limit, unlimited ≠ .error (.tooDeep limit)) ∧
      (∀ m, ts.length < m → Expr.ofTokens ts m = unlimited) ∧
      ∀ m, Expr.ofTokens ts m = .error (.tooDeep (max 1 m)) ∨ Expr.ofTokens ts m = unlimited) ∧
    (∀ m larger, m ≤ larger → Expr.ofTokens ts m ≠ .error (.tooDeep (max 1 m)) →
      Expr.ofTokens ts larger = Expr.ofTokens ts m) ∧
    ∀ d : Expression, d.words = sentence ts →
      ∀ m, Expr.ofTokens ts m = .error (.tooDeep (max 1 m)) ↔ max 1 m < d.depth := by
  have hunlimited : ∀ m, ts.length < m → Expr.ofTokens ts m = Expr.ofTokens ts (ts.length + 1) := fun m hm =>
    ((Parser.ofTokens_below ts hm).resolve_left (Parser.ofTokens_ne_tooDeep (Nat.lt_succ_self _) _)).symm
  refine ⟨⟨Expr.ofTokens ts (ts.length + 1), Parser.ofTokens_ne_tooDeep (Nat.lt_succ_self _), hunlimited, ?_⟩, ?_, ?_⟩
  · intro m
    rcases Nat.lt_or_ge ts.length m with hm | hm
    · exact .inr (hunlimited m hm)
    · exact Parser.ofTokens_below ts (by omega)
  · intro m larger hm hne
    exact ((Parser.ofTokens_below ts hm).resolve_left hne).symm
  · intro d hd m
    have hdecide := Parser.ofTokens_of_derivation hd m
    constructor
    · intro he
      refine Nat.lt_of_not_le fun hle => ?_
      rw [hdecide.1 hle] at he
      cases he
    · exact hdecide.2

end Formula
