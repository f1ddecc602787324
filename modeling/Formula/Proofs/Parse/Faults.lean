import Formula.Proofs.Messages
import Formula.Proofs.Parse.Language

/-!
# Where a parsing fails

A reader decides token by token: what it does with the tokens it takes depends on these and the next one alone, and
whenever it refuses, the tokens in front of the one at fault begin a sentence of what it reads. So the token at fault is
the first one that cannot be right.

* `PinpointsAt` : both facts for a reader and the tokens in front of it.
* `PinpointsAt.congr`, `.cons`, `.andThen` : readers that look at the next token, take it, and go on.
* `readers_pinpoint`, `expression_pinpoints` : the readers.
* `ofTokens_fails_at_first_wrong_token` : the error of a parsing.
-/

namespace Formula

namespace Grammar

/-- The tokens are the sentence of a derivation. -/
def IsSentence (ts : List Token) : Prop := ∃ d : Expression, d.words = ts.map Token.terminal

/-- The tokens can be completed by further tokens to a sentence. -/
def IsBeginning (ts : List Token) : Prop := ∃ more, IsSentence (ts ++ more)

/-- Every terminal is that of a token. -/
theorem exists_map_terminal : ∀ ws : List Terminal, ∃ ts : List Token, ts.map Token.terminal = ws
  | [] => ⟨[], rfl⟩
  | w :: ws => by
    obtain ⟨ts, rfl⟩ := exists_map_terminal ws
    refine ⟨⟨w.kind, w.text?.getD "", 0⟩ :: ts, ?_⟩
    cases w <;> rfl

theorem isBeginning_of_words {ts : List Token} {more : List Terminal} {d : Expression}
    (h : d.words = ts.map Token.terminal ++ more) : IsBeginning ts := by
  obtain ⟨more, rfl⟩ := exists_map_terminal more
  exact ⟨more, d, by rw [h, List.map_append]⟩

/-- No end of the input comes in a sentence. -/
theorem isEnd_eq_false_of_words {ts : List Token} {more : List Terminal} {d : Expression}
    (h : d.words = ts.map Token.terminal ++ more) : ∀ t ∈ ts, t.isEnd = false := by
  intro t ht
  cases hend : t.isEnd with
  | false => rfl
  | true =>
    have hterminal : t.terminal = .endOfInput := (Token.terminal_eq_iff rfl).2 (of_decide_eq_true hend)
    have hmem : Terminal.endOfInput ∈ d.words := by
      rw [h, ← hterminal]
      exact List.mem_append_left _ (List.mem_map_of_mem ht)
    exact absurd hmem d.endOfInput_not_mem

end Grammar

open Grammar

namespace Parser

/-! ## Looks at the next token -/

section Heads

theorem head?_append_congr {α : Type} {back back' : List α} (h : back'.head? = back.head?) (front : List α) :
    (front ++ back').head? = (front ++ back).head? := by
  cases front with
  | nil => exact h
  | cons a front => rfl

variable {ts ts' : List Token} (h : ts'.head? = ts.head?)

include h

theorem nextKind_congr : nextKind ts' = nextKind ts := by
  cases ts <;> cases ts' <;> simp_all [nextKind]

theorem operatorAt?_congr (level : Nat) : operatorAt? level ts' = operatorAt? level ts := by
  cases ts <;> cases ts' <;> simp_all [operatorAt?]

theorem unaryAt?_congr : unaryAt? ts' = unaryAt? ts := by
  cases ts <;> cases ts' <;> simp_all [unaryAt?]

end Heads

/-! ## Readers that pinpoint faults -/

/-- Whether a refusal lays the fault to the first of these tokens, given those it leaves: a number that cannot be read
has been taken. -/
def Refusal.Blames (why : Refusal) (fault rest : List Token) : Prop :=
  match why with
  | .invalidNumber text => ∃ t, fault = t :: rest ∧ t.kind = .number ∧ t.text = text
  | _ => fault = rest

section Pinpoints

variable {α β : Type} {ts : List Token} {V W : List Terminal → Prop}

/-- On these tokens the reader depends on those that it takes and on the next one alone. When it refuses, and not for
its depth, it takes the tokens in front of the one at fault, which can be completed to one of the sentences, and it
would refuse the token at fault there whatever came behind it. -/
structure PinpointsAt (read : Reader α) (W : List Terminal → Prop) (ts : List Token) : Prop where
  done : ∀ {a : α} {rest : List Token}, read ts = .done a rest → ∃ used, ts = used ++ rest ∧
    ∀ rest', rest'.head? = rest.head? → read (used ++ rest') = .done a rest'
  refused : ∀ {why : Refusal} {rest : List Token}, read ts = .refused why rest → why ≠ .tooDeep →
    ∃ front fault, ts = front ++ fault ∧ why.Blames fault rest ∧ (∃ more, W (front.map Token.terminal ++ more)) ∧
      ∀ fault', fault'.head? = fault.head? →
        ∃ rest', read (front ++ fault') = .refused why rest' ∧ why.Blames fault' rest'

/-- A reader that goes by the next token is, on tokens with the same next one, the reader it chooses. -/
theorem PinpointsAt.congr {read read' : Reader α} (h : PinpointsAt read' W ts)
    (heq : ∀ ts' : List Token, ts'.head? = ts.head? → read ts' = read' ts') : PinpointsAt read W ts := by
  constructor
  · intro a rest hread
    obtain ⟨used, rfl, hlocal⟩ := h.done ((heq ts rfl).symm.trans hread)
    exact ⟨used, rfl, fun rest' hr => (heq _ (head?_append_congr hr used)).trans (hlocal rest' hr)⟩
  · intro why rest hread hwhy
    obtain ⟨front, fault, rfl, hblames, hmore, hlocal⟩ := h.refused ((heq ts rfl).symm.trans hread) hwhy
    refine ⟨front, fault, rfl, hblames, hmore, fun fault' hf => ?_⟩
    rw [heq _ (head?_append_congr hf front)]
    exact hlocal fault' hf

theorem PinpointsAt.mono {read : Reader α} (h : PinpointsAt read V ts) (hV : ∀ w, V w → W w) :
    PinpointsAt read W ts := by
  refine ⟨h.done, fun hread hwhy => ?_⟩
  obtain ⟨front, fault, hts, hblames, ⟨more, hmore⟩, hlocal⟩ := h.refused hread hwhy
  exact ⟨front, fault, hts, hblames, ⟨more, hV _ hmore⟩, hlocal⟩

/-- A reader that takes nothing. -/
theorem pinpointsAt_done (a : α) (W : List Terminal → Prop) (ts : List Token) :
    PinpointsAt (fun ts => .done a ts) W ts := by
  constructor
  · intro b rest h
    cases h
    exact ⟨[], rfl, fun rest' _ => rfl⟩
  · intro why rest h
    cases h

/-- A reader that refuses the next token, in whose place a sentence could stand. -/
theorem pinpointsAt_refused {why : Refusal} (hwhy : ∀ fault, why.Blames fault fault) (hW : ∃ w, W w) :
    PinpointsAt (fun ts => (.refused why ts : Outcome α)) W ts := by
  constructor
  · intro a rest h
    cases h
  · intro why' rest h _
    cases h
    exact ⟨[], ts, rfl, hwhy ts, hW, fun fault' _ => ⟨fault', rfl, hwhy fault'⟩⟩

/-- A reader that takes the next token and goes on by another reader. -/
theorem PinpointsAt.cons {read read' : Reader α} {t : Token} (h : PinpointsAt read' V ts)
    (heq : ∀ ts' : List Token, ts'.head? = ts.head? → read (t :: ts') = read' ts')
    (hV : ∀ w, V w → W (t.terminal :: w)) : PinpointsAt read W (t :: ts) := by
  constructor
  · intro a rest hread
    obtain ⟨used, rfl, hlocal⟩ := h.done ((heq ts rfl).symm.trans hread)
    exact ⟨t :: used, rfl, fun rest' hr => (heq _ (head?_append_congr hr used)).trans (hlocal rest' hr)⟩
  · intro why rest hread hwhy
    obtain ⟨front, fault, rfl, hblames, ⟨more, hmore⟩, hlocal⟩ := h.refused ((heq ts rfl).symm.trans hread) hwhy
    refine ⟨t :: front, fault, rfl, hblames, ⟨more, hV _ hmore⟩, fun fault' hf => ?_⟩
    rw [List.cons_append, heq _ (head?_append_congr hf front)]
    exact hlocal fault' hf

/-- Two readers one behind the other: what the first reads can be gone on with to a sentence of both. -/
theorem PinpointsAt.andThen {read : Reader α} {next : α → Reader β} {P : List Terminal → α → Prop}
    {U : α → List Terminal → Prop} (hreads : Reads read P) (h : PinpointsAt read V ts)
    (hnext : ∀ a rest, read ts = .done a rest → PinpointsAt (next a) (U a) rest)
    (extend : ∀ w, V w → ∃ more, W (w ++ more)) (join : ∀ w a w', P w a → U a w' → W (w ++ w')) :
    PinpointsAt (fun ts => (read ts).andThen next) W ts := by
  constructor
  · intro b rest hboth
    obtain ⟨a, mid, ha, hb⟩ := Outcome.andThen_eq_done.1 hboth
    obtain ⟨used, hused, hlocal⟩ := h.done ha
    obtain ⟨used', rfl, hlocal'⟩ := (hnext a mid ha).done hb
    refine ⟨used ++ used', by rw [hused, List.append_assoc], fun rest' hr => ?_⟩
    rw [List.append_assoc, hlocal _ (head?_append_congr hr used')]
    exact hlocal' rest' hr
  · intro why rest hrefused hwhy
    rcases Outcome.andThen_eq_refused.1 hrefused with ha | ⟨a, mid, ha, hrefused⟩
    · obtain ⟨front, fault, rfl, hblames, ⟨more, hmore⟩, hlocal⟩ := h.refused ha hwhy
      obtain ⟨further, hfurther⟩ := extend _ hmore
      refine ⟨front, fault, rfl, hblames, ⟨more ++ further, by simpa using hfurther⟩, fun fault' hf => ?_⟩
      obtain ⟨rest', hread, hblames'⟩ := hlocal fault' hf
      exact ⟨rest', by rw [hread]; rfl, hblames'⟩
    · obtain ⟨used, hused, hlocal⟩ := h.done ha
      obtain ⟨used', hused', hp⟩ := hreads ha
      obtain rfl : used = used' := List.append_cancel_right (hused.symm.trans hused')
      obtain ⟨front, fault, rfl, hblames, ⟨more, hmore⟩, hlocal'⟩ := (hnext a mid ha).refused hrefused hwhy
      refine ⟨used ++ front, fault, by simp [hused], hblames, ⟨more, ?_⟩, fun fault' hf => ?_⟩
      · rw [List.map_append, List.append_assoc]
        exact join _ a _ hp hmore
      · obtain ⟨rest', hread, hblames'⟩ := hlocal' fault' hf
        refine ⟨rest', ?_, hblames'⟩
        rw [List.append_assoc, hlocal _ (head?_append_congr hf front)]
        exact hread

/-- To make something of what a reader reads takes no tokens. -/
theorem PinpointsAt.map {read : Reader α} {f : α → β} {P : List Terminal → α → Prop} (hreads : Reads read P)
    (h : PinpointsAt read W ts) (hP : ∀ w a, P w a → W w) :
    PinpointsAt (fun ts => (read ts).andThen fun a rest => .done (f a) rest) W ts := by
  refine h.andThen hreads (fun a rest _ => pinpointsAt_done (f a) (· = []) rest) ?_ ?_
  · exact fun w hw => ⟨[], by simpa using hw⟩
  · rintro w a w' hp rfl
    simpa using hP w a hp

end Pinpoints

/-! ## The combinations of readers -/

/-- The words of some chain, and so on for the other nonterminals. -/
def IsChain (n : Nat) (ws : List Terminal) : Prop := ∃ c : Chain n, c.words = ws

def IsLinks (n : Nat) (ws : List Terminal) : Prop := ∃ l : Links n, l.words = ws

def IsUnary (ws : List Terminal) : Prop := ∃ u : Unary, u.words = ws

def IsPrimary (ws : List Terminal) : Prop := ∃ p : Primary, p.words = ws

def IsArguments (ws : List Terminal) : Prop := ∃ a : Arguments, a.words = ws

/-- A primary expression can stand wherever one is missing. -/
theorem exists_isPrimary : ∃ ws, IsPrimary ws := ⟨_, .boolean "true", rfl⟩

section Combinations

variable {operand inner : Reader Expr} {more : Nat → Expr → Reader Expr}

theorem closing_pinpoints {α : Type} (bracket : Bracket) (value : α) (ts : List Token) :
    PinpointsAt (closing bracket value) (· = [.rightParen]) ts := by
  have hrefused : PinpointsAt (fun ts => (.refused (.unclosed bracket) ts : Outcome α)) (· = [.rightParen]) ts :=
    pinpointsAt_refused (fun _ => rfl) ⟨_, rfl⟩
  cases ts with
  | nil => exact hrefused.congr fun ts' h => by rw [List.head?_eq_none_iff.1 h, closing]
  | cons t ts =>
    by_cases hk : t.kind = .rightParen
    · refine (pinpointsAt_done value (· = []) ts).cons (fun ts' _ => by rw [closing, if_pos hk]) ?_
      rintro w rfl
      rw [(Token.terminal_eq_iff (w := .rightParen) rfl).2 hk]
    · refine hrefused.congr fun ts' h => ?_
      obtain ⟨ts', rfl⟩ := List.head?_eq_some_iff.1 h
      rw [closing, if_neg hk]

/-- Behind an argument and a comma there are fewer tokens. -/
theorem length_tail_lt {P : List Terminal → Expr → Prop} (hr : Reads inner P) {ts rest : List Token} {e : Expr}
    (hread : inner ts = .done e rest) (hk : nextKind rest = .comma) : rest.tail.length < ts.length := by
  have hlength := hr.length_le hread
  obtain ⟨comma, rest, rfl, -⟩ := (nextKind_eq_kind (w := .comma) rfl (by decide)).1 hk
  exact hlength

/-- A bound above the number of tokens does not show. -/
theorem argumentsUpTo_bound {P : List Terminal → Expr → Prop} (hr : Reads inner P) :
    ∀ {bound bound' : Nat} {ts : List Token}, ts.length < bound → ts.length < bound' →
      argumentsUpTo inner bound ts = argumentsUpTo inner bound' ts
  | bound + 1, bound' + 1, ts, h, h' => by
    rw [argumentsUpTo_succ, argumentsUpTo_succ]
    cases hread : inner ts with
    | refused why rest => rfl
    | done e rest =>
      simp only [Outcome.andThen]
      split
      · rename_i hk
        have htail := length_tail_lt hr hread hk
        rw [argumentsUpTo_bound hr (show rest.tail.length < bound by omega) (show rest.tail.length < bound' by omega)]
      · rfl

/-- Arguments without a bound. -/
def argumentsAll (inner : Reader Expr) : Reader (List Expr) := fun ts => argumentsUpTo inner (ts.length + 1) ts

theorem argumentsAll_eq {P : List Terminal → Expr → Prop} (hr : Reads inner P) (ts : List Token) :
    argumentsAll inner ts = (inner ts).andThen fun e rest =>
      if nextKind rest = .comma then (argumentsAll inner rest.tail).andThen fun es rest => .done (e :: es) rest
      else .done [e] rest := by
  rw [argumentsAll, argumentsUpTo_succ]
  cases hread : inner ts with
  | refused why rest => rfl
  | done e rest =>
    simp only [Outcome.andThen, argumentsAll]
    split
    · rename_i hk
      rw [argumentsUpTo_bound hr (length_tail_lt hr hread hk) (Nat.lt_succ_self _)]
    · rfl

theorem argumentsAll_sound (hr : Reads inner (ChainOf Operator.levels)) : Reads (argumentsAll inner) ArgumentsOf :=
  fun _ _ _ h => argumentsUpTo_sound hr _ h

/-- By induction on the number of tokens, of which each comma takes one. -/
theorem argumentsAll_pinpoints (hr : Reads inner (ChainOf Operator.levels))
    (hi : ∀ ts, PinpointsAt inner (IsChain Operator.levels) ts) (ts : List Token) :
    PinpointsAt (argumentsAll inner) IsArguments ts := by
  induction hn : ts.length using Nat.strongRecOn generalizing ts with
  | _ n ih =>
    refine PinpointsAt.congr ?_ fun ts' _ => argumentsAll_eq hr ts'
    refine (hi ts).andThen hr (U := fun _ w => w = [] ∨ ∃ a : Arguments, .comma :: a.words = w)
      (fun e rest hread => ?_) ?_ ?_
    · by_cases hk : nextKind rest = .comma
      · have hlength := length_tail_lt hr hread hk
        obtain ⟨comma, rest, rfl, hc⟩ := (nextKind_eq_kind (w := .comma) rfl (by decide)).1 hk
        have htail := (ih _ (hn ▸ hlength) _ rfl).map (f := (e :: ·)) (argumentsAll_sound hr)
          fun w es ⟨a, ha, _⟩ => ⟨a, ha⟩
        refine htail.cons (fun rest' _ => if_pos (show nextKind (comma :: rest') = .comma from hk)) ?_
        rintro w ⟨a, rfl⟩
        exact .inr ⟨a, by rw [hc]⟩
      · refine (pinpointsAt_done [e] _ rest).congr fun rest' h => ?_
        rw [if_neg (by rwa [nextKind_congr h])]
    · rintro w ⟨c, rfl⟩
      exact ⟨[], .last c, by rw [List.append_nil]; rfl⟩
    · rintro w e w' ⟨c, rfl, -⟩ (rfl | ⟨a, rfl⟩)
      · exact ⟨.last c, by rw [List.append_nil]; rfl⟩
      · exact ⟨.cons c a, rfl⟩

/-- Behind a name and an opening parenthesis there is the rest of a call. -/
theorem arguments_pinpoints (hr : Reads inner (ChainOf Operator.levels))
    (hi : ∀ ts, PinpointsAt inner (IsChain Operator.levels) ts) (name : String) (ts : List Token) :
    PinpointsAt (arguments inner) (fun w => IsPrimary (.identifier name :: .leftParen :: w)) ts := by
  by_cases hk : nextKind ts = .rightParen
  · refine PinpointsAt.congr ((closing_pinpoints .arguments [] ts).mono ?_) fun ts' h => ?_
    · rintro w rfl
      exact ⟨.emptyCall name, rfl⟩
    · rw [arguments_eq, if_pos (by rwa [nextKind_congr h])]
  · have hlist : PinpointsAt (fun ts => (argumentsAll inner ts).andThen (closing .arguments))
        (fun w => IsPrimary (.identifier name :: .leftParen :: w)) ts := by
      refine (argumentsAll_pinpoints hr hi ts).andThen (argumentsAll_sound hr)
        (fun es rest _ => closing_pinpoints .arguments es rest) ?_ ?_
      · rintro w ⟨a, rfl⟩
        exact ⟨[.rightParen], .call name a, rfl⟩
      · rintro w es w' ⟨a, rfl, -⟩ rfl
        exact ⟨.call name a, rfl⟩
    refine hlist.congr fun ts' h => ?_
    rw [arguments_eq, if_neg (by rwa [nextKind_congr h]), argumentsAll]

/-- A token that is a primary expression by itself. -/
theorem primary_pinpoints_leaf {t : Token} {ts : List Token} (p : Primary) (hp : p.words = [t.terminal])
    (h : ∀ ts' : List Token, ts'.head? = ts.head? → primary inner (t :: ts') = .done p.tree ts') :
    PinpointsAt (primary inner) IsPrimary (t :: ts) := by
  refine (pinpointsAt_done p.tree (· = []) ts).cons h ?_
  rintro w rfl
  exact ⟨p, hp⟩

/-- A token that no primary expression starts with. -/
theorem primary_pinpoints_refused {ts : List Token}
    (h : ∀ ts' : List Token, ts'.head? = ts.head? → primary inner ts' = .refused .unexpected ts') :
    PinpointsAt (primary inner) IsPrimary ts := by
  refine PinpointsAt.congr ?_ h
  exact pinpointsAt_refused (fun _ => rfl) exists_isPrimary

/-- A number that cannot be read is at fault itself, whatever comes behind it. -/
theorem primary_pinpoints_number {t : Token} (hk : t.kind = .number) (hx : literalNumber? t.text = none)
    (ts : List Token) : PinpointsAt (primary inner) IsPrimary (t :: ts) := by
  have hread : ∀ ts', primary inner (t :: ts') = .refused (.invalidNumber t.text) ts' := fun ts' => by
    rw [primary_number inner ts' hk, hx]
  constructor
  · intro e rest h
    rw [hread] at h
    cases h
  · intro why rest h _
    rw [hread] at h
    cases h
    refine ⟨[], t :: ts, rfl, ⟨t, rfl, hk, rfl⟩, exists_isPrimary, fun fault' hf => ?_⟩
    obtain ⟨ts', rfl⟩ := List.head?_eq_some_iff.1 hf
    exact ⟨ts', hread ts', t, rfl, hk, rfl⟩

theorem primary_pinpoints (hr : Reads inner (ChainOf Operator.levels))
    (hi : ∀ ts, PinpointsAt inner (IsChain Operator.levels) ts) (ts : List Token) :
    PinpointsAt (primary inner) IsPrimary ts := by
  cases ts with
  | nil => exact primary_pinpoints_refused fun ts' h => by rw [List.head?_eq_none_iff.1 h, primary]
  | cons t ts =>
    cases hk : t.kind with
    | number =>
      cases hx : literalNumber? t.text with
      | none => exact primary_pinpoints_number hk hx ts
      | some x =>
        refine primary_pinpoints_leaf (.number t.text x hx) (by simp [Primary.words, Token.terminal, hk]) ?_
        exact fun ts' _ => by rw [primary_number inner ts' hk, hx]; rfl
    | string =>
      refine primary_pinpoints_leaf (.string t.text) (by simp [Primary.words, Token.terminal, hk]) ?_
      exact fun ts' _ => by simp only [primary, hk]; rfl
    | boolean =>
      refine primary_pinpoints_leaf (.boolean t.text) (by simp [Primary.words, Token.terminal, hk]) ?_
      exact fun ts' _ => by simp only [primary, hk]; rfl
    | identifier =>
      have hname : t.terminal = .identifier t.text := by simp [Token.terminal, hk]
      by_cases hopen : nextKind ts = .leftParen
      · obtain ⟨opening, ts, rfl, ho⟩ := (nextKind_eq_kind (w := .leftParen) rfl (by decide)).1 hopen
        have hreads : Reads (arguments inner) fun ws args =>
            PrimaryOf (.identifier t.text :: .leftParen :: ws) (.callOf t.text args) := by
          intro ts args rest h
          simpa [hname, ho] using arguments_sound hr hk ho h
        have hcall : PinpointsAt (fun ts => (arguments inner ts.tail).andThen fun args rest =>
            .done (Expr.callOf t.text args) rest) (fun w => IsPrimary (.identifier t.text :: w)) (opening :: ts) := by
          have hargs := arguments_pinpoints hr hi t.text ts
          refine (hargs.map (f := Expr.callOf t.text) hreads ?_).cons (fun _ _ => rfl) ?_
          · rintro w args ⟨p, hp, -⟩
            exact ⟨p, hp⟩
          · exact fun w hw => by rwa [ho]
        refine hcall.cons (fun ts' h => ?_) fun w hw => by rwa [hname]
        rw [primary_identifier inner ts' hk, if_pos (by rwa [nextKind_congr h])]
      · refine primary_pinpoints_leaf (.field t.text) (by rw [hname]; rfl) fun ts' h => ?_
        rw [primary_identifier inner ts' hk, if_neg (by rwa [nextKind_congr h])]
        rfl
    | leftParen =>
      have ho : t.terminal = .leftParen := (Token.terminal_eq_iff rfl).2 hk
      refine PinpointsAt.cons (V := fun w => IsPrimary (t.terminal :: w)) ?_
        (fun ts' _ => primary_leftParen inner ts' hk) fun w hw => hw
      refine (hi ts).andThen hr (fun e rest _ => closing_pinpoints .group e rest) ?_ ?_
      · rintro w ⟨c, rfl⟩
        exact ⟨[.rightParen], .group c, by rw [ho]; rfl⟩
      · rintro w e w' ⟨c, rfl, -⟩ rfl
        exact ⟨.group c, by rw [ho]; rfl⟩
    | operator | rightParen | comma | endOfInput =>
      refine primary_pinpoints_refused fun ts' h => ?_
      obtain ⟨ts', rfl⟩ := List.head?_eq_some_iff.1 h
      simp only [primary, hk]

theorem unaryWith_pinpoints (hs : Reads operand UnaryOf) (ho : ∀ ts, PinpointsAt operand IsUnary ts)
    (hr : Reads inner (ChainOf Operator.levels)) (hi : ∀ ts, PinpointsAt inner (IsChain Operator.levels) ts)
    (ts : List Token) : PinpointsAt (unaryWith operand inner) IsUnary ts := by
  cases hop : unaryAt? ts with
  | none =>
    refine ((primary_pinpoints hr hi ts).mono fun w ⟨p, hp⟩ => ⟨.primary p, hp⟩).congr fun ts' h => ?_
    rw [unaryWith_eq, unaryAt?_congr h, hop]
  | some op =>
    obtain ⟨t, ts, rfl, ht⟩ := unaryAt?_eq_some hop
    have hoperand := (ho ts).map (f := Expr.unary op) hs fun w e ⟨u, hu, _⟩ => ⟨u, hu⟩
    refine hoperand.cons (fun ts' _ => ?_) ?_
    · rw [unaryWith_eq, unaryAt?_congr (show (t :: ts').head? = (t :: ts).head? from rfl), hop, List.tail_cons]
    · rintro w ⟨u, rfl⟩
      exact ⟨.sign op u, by rw [ht]; rfl⟩

theorem chainWith_pinpoints (hs : Reads operand UnaryOf) (ho : ∀ ts, PinpointsAt operand IsUnary ts)
    (hl : ∀ level left, Reads (more level left) (LinksOf level left))
    (hm : ∀ level left ts, PinpointsAt (more level left) (IsLinks level) ts) :
    ∀ (n : Nat) (ts : List Token), PinpointsAt (chainWith operand more n) (IsChain n) ts
  | 0, ts => (ho ts).mono fun w ⟨u, hu⟩ => ⟨.unary u, hu⟩
  | level + 1, ts => by
    refine PinpointsAt.congr ?_ fun ts' _ => chainWith_succ operand more level ts'
    refine (chainWith_pinpoints hs ho hl hm level ts).andThen (chainWith_sound hs hl level)
      (fun left rest _ => hm level left rest) ?_ ?_
    · rintro w ⟨c, rfl⟩
      exact ⟨[], .level c .nil, rfl⟩
    · rintro w left w' ⟨c, rfl, -⟩ ⟨l, rfl⟩
      exact ⟨.level c l, rfl⟩

theorem pinpointsAt_tooDeep (W : List Terminal → Prop) (ts : List Token) : PinpointsAt tooDeep W ts := by
  constructor
  · intro e rest h
    cases h
  · intro why rest h hwhy
    cases h
    exact absurd rfl hwhy

theorem nested_pinpoints {read : Nat → Reader Expr} {budget : Nat} {W : List Terminal → Prop}
    (h : ∀ smaller, budget = smaller + 1 → ∀ ts, PinpointsAt (read smaller) W ts) (ts : List Token) :
    PinpointsAt (nested read tooDeep budget) W ts := by
  cases budget with
  | zero => exact pinpointsAt_tooDeep W ts
  | succ budget => exact h budget rfl ts

end Combinations

/-! ## The readers -/

/-- The readers of every budget pinpoint faults. -/
theorem readers_pinpoint (budget : Nat) : (∀ ts, PinpointsAt (unary budget) IsUnary ts) ∧
    ∀ level left ts, PinpointsAt (folds budget level left) (IsLinks level) ts := by
  induction budget using Nat.strongRecOn with
  | _ budget ih =>
    have hchain : ∀ smaller, budget = smaller + 1 → ∀ n ts, PinpointsAt (chain smaller n) (IsChain n) ts := by
      rintro smaller rfl
      have hsound := readers_sound smaller
      have hpinpoint := ih smaller (Nat.lt_succ_self _)
      exact chainWith_pinpoints hsound.1 hpinpoint.1 hsound.2 hpinpoint.2
    constructor
    · intro ts
      refine PinpointsAt.congr ?_ fun ts' _ => unary_eq budget ts'
      refine unaryWith_pinpoints ?_ ?_ (expression_sound budget) ?_ ts
      · exact reads_nested fun smaller _ => (readers_sound smaller).1
      · exact nested_pinpoints fun smaller hs => (ih smaller (by omega)).1
      · rw [expression_eq]
        exact nested_pinpoints fun smaller hs => hchain smaller hs Operator.levels
    · intro level left ts
      cases hop : operatorAt? level ts with
      | none =>
        refine (pinpointsAt_done left _ ts).congr fun ts' h => ?_
        rw [folds_eq, operatorAt?_congr h, hop]
      | some op =>
        obtain ⟨t, ts, rfl, ht, hl⟩ := operatorAt?_eq_some hop
        cases budget with
        | zero =>
          refine (pinpointsAt_tooDeep _ _).congr fun ts' h => ?_
          rw [folds_eq, operatorAt?_congr h, hop]
          rfl
        | succ budget =>
          have hright : PinpointsAt (fun ts => (chain budget level ts).andThen fun right rest =>
              folds budget level (.binary left op right) rest) (fun w => IsLinks level (t.terminal :: w)) ts := by
            refine (hchain budget rfl level ts).andThen (chain_sound budget level)
              (fun right rest _ => (ih budget (Nat.lt_succ_self _)).2 level _ rest) ?_ ?_
            · rintro w ⟨c, rfl⟩
              exact ⟨[], .cons op hl c .nil, by rw [ht]; rfl⟩
            · rintro w right w' ⟨c, rfl, -⟩ ⟨l, rfl⟩
              exact ⟨.cons op hl c l, by rw [ht]; rfl⟩
          refine hright.cons (fun ts' _ => ?_) fun w hw => hw
          rw [folds_eq, operatorAt?_cons.2 ⟨ht, hl⟩]
          rfl

theorem expression_pinpoints (budget : Nat) (ts : List Token) :
    PinpointsAt (expression budget) (IsChain Operator.levels) ts := by
  rw [expression_eq]
  refine nested_pinpoints (fun smaller _ => ?_) ts
  have hsound := readers_sound smaller
  have hpinpoint := readers_pinpoint smaller
  exact chainWith_pinpoints hsound.1 hpinpoint.1 hsound.2 hpinpoint.2 Operator.levels

/-! ## The first token that cannot be right -/

/-- The reading comes to an end of the input, or is refused for its depth. -/
def Outcome.Reaches (o : Outcome Expr) : Prop :=
  (∃ e rest, o = .done e rest ∧ nextKind rest = .endOfInput) ∨ ∃ rest, o = .refused .tooDeep rest

/-- A sentence in front of an end of the input is read up to there, unless the budget is too small. -/
theorem reaches_of_isSentence {used : List Token} (h : IsSentence used) (budget : Nat) {rest : List Token}
    (hr : nextKind rest = .endOfInput) : (expression budget (used ++ rest)).Reaches := by
  obtain ⟨d, hd⟩ := h
  have htakes := expression_takes d budget hd.symm (stops_of_nextKind_eq_endOfInput hr _)
  rcases Nat.lt_or_ge budget d.depth with hdepth | hdepth
  · exact .inr (htakes.2 hdepth)
  · exact .inl ⟨_, rest, htakes.1 hdepth, hr⟩

end Parser

namespace Grammar

/-- The token cannot come behind the tokens in front of it, which can be completed; if it is an end of the input, they
are no sentence yet. -/
structure FirstWrong (front : List Token) (t : Token) : Prop where
  beginning : IsBeginning front
  wrong : ¬ IsBeginning (front ++ [t])
  incomplete : t.isEnd = true → ¬ IsSentence front

end Grammar

namespace Parser

/-- Tokens that can be completed, but never so that the reading comes to an end of the input with the same token behind
them, have the first wrong token behind them. -/
theorem firstWrong_of_not_reaches {p : Parser} {front fault : List Token} (budget : Nat) (hfront : IsBeginning front)
    (h : ∀ fault' : List Token, fault'.head? = fault.head? → ¬ (expression budget (front ++ fault')).Reaches) :
    FirstWrong front { p with rest := fault }.current := by
  refine ⟨hfront, ?_, ?_⟩
  · rintro ⟨more, hmore⟩
    cases fault with
    | nil =>
      obtain ⟨d, hd⟩ := hmore
      have hend := isEnd_eq_false_of_words (hd.trans (List.append_nil _).symm) (.endOfInput p.stop) (by simp [current])
      cases hend
    | cons t fault =>
      have hreaches : (expression budget ((front ++ [t] ++ more) ++ [])).Reaches :=
        reaches_of_isSentence hmore budget rfl
      exact h (t :: more) rfl (by simpa using hreaches)
  · intro hend hsentence
    refine h fault rfl (reaches_of_isSentence hsentence budget ?_)
    cases fault with
    | nil => rfl
    | cons t fault => exact of_decide_eq_true hend

/-! ## The error of a parsing -/

/-- The tokens that are to be read and the end of the input that closes them. -/
def closed (p : Parser) : List Token := p.rest ++ [.endOfInput p.stop]

/-- What is left at a place of the tokens to be read starts with the token there. -/
theorem closed_getElem? {p : Parser} {front fault : List Token} (h : p.rest = front ++ fault) :
    p.closed[front.length]? = some { p with rest := fault }.current := by
  rw [closed, h]
  cases fault <;> simp [current]

/-- The tokens to be read are the first ones of the list. -/
theorem rest_ofTokens_isPrefix (ts : List Token) (maxDepth : Nat) : (ofTokens ts maxDepth).rest <+: ts := by
  unfold ofTokens
  split
  · exact List.nil_prefix
  · split
    · exact List.dropLast_prefix _
    · exact List.prefix_refl _

theorem take_eq_of_rest_ofTokens {ts : List Token} {maxDepth : Nat} {front fault : List Token}
    (h : (ofTokens ts maxDepth).rest = front ++ fault) : ts.take front.length = front := by
  obtain ⟨more, hmore⟩ := rest_ofTokens_isPrefix ts maxDepth
  rw [← hmore, h, List.append_assoc, List.take_left]

end Parser

/-- The error is about the token: it names the token with its place, or it is a number and the error gives its text. -/
def ParseError.Describes : ParseError → Token → Prop
  | .unexpectedToken found, t => found = t
  | .unclosed _ found, t => found = t
  | .invalidNumber text, t => t.kind = .number ∧ t.text = text
  | .tooDeep _, _ => False

namespace Parser

/-- A refusal is told as an error about the token that it lays the fault to. -/
theorem describes_of_blames {p : Parser} {why : Refusal} (hwhy : why ≠ .tooDeep) {fault rest : List Token}
    (h : why.Blames fault rest) : (error { p with rest } why).Describes { p with rest := fault }.current := by
  cases why with
  | tooDeep => exact absurd rfl hwhy
  | invalidNumber text =>
    obtain ⟨t, rfl, hk, ht⟩ := h
    exact ⟨hk, ht⟩
  | unexpected | unclosed bracket =>
    obtain rfl : fault = rest := h
    rfl

/-- A parser that fails, and not for its depth, has the first wrong token at some place, and its error is about it. -/
theorem exists_firstWrong_of_parse {p : Parser} {err : ParseError} (h : p.parse.1 = .error err)
    (hlimit : ∀ limit, err ≠ .tooDeep limit) : ∃ front fault, p.rest = front ++ fault ∧
      FirstWrong front { p with rest := fault }.current ∧ err.Describes { p with rest := fault }.current := by
  rw [parse_eq_answer] at h
  have hpinpoints := expression_pinpoints p.maxDepth p.rest
  cases hread : expression p.maxDepth p.rest with
  | refused why rest =>
    rw [hread, answer, Except.error.injEq] at h
    have hwhy : why ≠ .tooDeep := by
      rintro rfl
      exact hlimit p.maxDepth h.symm
    obtain ⟨front, fault, hrest, hblames, ⟨more, d, hd⟩, hlocal⟩ := hpinpoints.refused hread hwhy
    refine ⟨front, fault, hrest, firstWrong_of_not_reaches p.maxDepth (isBeginning_of_words hd) fun fault' hf => ?_,
      h ▸ describes_of_blames hwhy hblames⟩
    obtain ⟨rest', hread', -⟩ := hlocal fault' hf
    rw [hread']
    rintro (⟨e, rest, hdone, -⟩ | ⟨rest, hdeep⟩)
    · cases hdone
    · cases hdeep
      exact hwhy rfl
  | done e rest =>
    rw [hread, answer] at h
    split at h
    · cases h
    · rename_i hnext
      obtain ⟨used, hrest, hlocal⟩ := hpinpoints.done hread
      obtain ⟨used', hrest', d, hd, -⟩ := expression_sound _ hread
      obtain rfl : used = used' := List.append_cancel_right (hrest.symm.trans hrest')
      refine ⟨used, rest, hrest, firstWrong_of_not_reaches p.maxDepth ?_ fun fault' hf => ?_, ?_⟩
      · exact isBeginning_of_words (hd.trans (List.append_nil _).symm)
      · rw [hlocal fault' hf]
        rintro (⟨e', rest', hdone, hend⟩ | ⟨rest', hdeep⟩)
        · cases hdone
          exact hnext ((nextKind_congr hf).symm.trans hend)
        · cases hdeep
      · exact Except.error.inj h ▸ rfl

end Parser

/-- **An error points at the first token that cannot be right.** With a limit above the number of tokens, when parsing
fails there is a place, not behind the first end of the input, such that the tokens in front of it can be completed to a
sentence, but not with the token there, and are no sentence if that is the end of the input; and the error is about that
token, and is put into words as such. -/
theorem ofTokens_fails_at_first_wrong_token (ts : List Token) (maxDepth : Nat) (h : ts.length + 1 ≤ maxDepth)
    (err : ParseError) (herr : Expr.ofTokens ts maxDepth = .error err) :
    ∃ i t, (Parser.ofTokens ts maxDepth).closed[i]? = some t ∧ (∀ u ∈ ts.take i, u.isEnd = false) ∧
      FirstWrong (ts.take i) t ∧ err.Describes t ∧ (FormulaError.parse err).Worded err.message := by
  obtain ⟨front, fault, hrest, hwrong, hdescribes⟩ := Parser.exists_firstWrong_of_parse herr fun limit hlimit =>
    Parser.ofTokens_ne_tooDeep h limit (hlimit ▸ herr)
  have htake := Parser.take_eq_of_rest_ofTokens hrest
  refine ⟨front.length, _, Parser.closed_getElem? hrest, ?_, htake.symm ▸ hwrong, hdescribes,
    (FormulaError.parse err).worded_message⟩
  obtain ⟨more, d, hd⟩ := hwrong.beginning
  rw [htake]
  exact isEnd_eq_false_of_words (hd.trans (List.map_append ..))

/-- In `f(a,)` an argument is missing: the closing parenthesis is the first wrong token. -/
theorem ofTokens_fails_at_first_wrong_token_missing_argument :
    let ts := [Token.mk .identifier "f" 0, .mk .leftParen "(" 1, .mk .identifier "a" 2, .mk .comma "," 3,
      .mk .rightParen ")" 4]
    ts.length + 1 ≤ 6 ∧ Expr.ofTokens ts 6 = .error (.unexpectedToken (.mk .rightParen ")" 4)) ∧
      ∃ i t, (Parser.ofTokens ts 6).closed[i]? = some t ∧ (∀ u ∈ ts.take i, u.isEnd = false) ∧
        FirstWrong (ts.take i) t ∧ (ParseError.unexpectedToken (.mk .rightParen ")" 4)).Describes t ∧
        (FormulaError.parse (.unexpectedToken (.mk .rightParen ")" 4))).Worded
          (ParseError.unexpectedToken (.mk .rightParen ")" 4)).message := by
  intro ts
  have hlength : ts.length + 1 ≤ 6 := by decide
  have hfails : Expr.ofTokens ts 6 = .error (.unexpectedToken (.mk .rightParen ")" 4)) := rfl
  exact ⟨hlength, hfails, ofTokens_fails_at_first_wrong_token ts 6 hlength _ hfails⟩

end Formula
