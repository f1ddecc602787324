import Formula.Proofs.Scan.Longest

/-!
# Texts cut into tokens

A scan cuts its text from left to right into white space and longest lexemes in turn, up to the end of the text or to a
character that is neither.

* `Cut` : characters in front of a rest, cut into tokens with their positions.
* `Cut.tokens_eq`, `Cut.steps_eq` : a scan goes over a cut token by token and then on behind it.
* `exists_cut` : every text is cut up to its end or up to a place where a scan is stuck.
* `tokenize_cuts` : the tokens of a text are those of its only cut, and its fault is where that cut is stuck.
-/

namespace Formula

/-! ## Cuts -/

/-- In front of `rest` the characters, the first of which stands at the position, are white space and lexemes in turn:
those of the tokens, each of them the longest where it stands. -/
inductive Cut (rest : List Char) : Nat → List Char → List Token → Prop
  | blank {position : Nat} {cs : List Char} (white : ∀ c ∈ cs, Unicode.isWhiteSpace c = true) : Cut rest position cs []
  | token {position : Nat} {kind : TokenKind} {blank lexeme text used : List Char} {ts : List Token}
    (white : ∀ c ∈ blank, Unicode.isWhiteSpace c = true) (longest : IsLongestLexeme kind text lexeme (used ++ rest))
    (more : Cut rest (position + blank.length + lexeme.length) used ts) :
    Cut rest position (blank ++ (lexeme ++ used)) (⟨kind, String.ofList text, position + blank.length⟩ :: ts)

/-- Neither white space nor a lexeme stands at the front of the text. -/
def Stuck (cs : List Char) : Prop := (∀ c ∈ cs.head?, Unicode.isWhiteSpace c = false) ∧ ¬StartsLexeme cs

section

variable {kind : TokenKind} {text cs rest blank : List Char}

theorem IsLongestLexeme.lexemeAt (h : IsLongestLexeme kind text cs rest) :
    ∃ c more, cs = c :: more ∧ LexemeAt c (more ++ rest) ⟨kind, text, cs.length⟩ := by
  have hlexeme := h.lexeme?_eq
  cases cs with
  | nil => exact absurd rfl h.isLexeme.ne_nil
  | cons c more => exact ⟨c, more, rfl, lexemeAt_of_lexeme? hlexeme⟩

theorem IsLongestLexeme.kind_ne_endOfInput (h : IsLongestLexeme kind text cs rest) : kind ≠ .endOfInput := by
  obtain ⟨c, more, -, hlexeme⟩ := h.lexemeAt
  exact hlexeme.kind_ne_endOfInput

/-! ## One step of a scan -/

namespace Scanner

variable {s s' : Scanner}

/-- Two scans that come to the same place once white space is skipped go on alike. -/
theorem next_congr (h : s.skipWhiteSpace = s'.skipWhiteSpace) : s.next = s'.next := by
  simp only [next, h]

theorem tokens_congr (h : s.next = s'.next) : s.tokens = s'.tokens := by
  rcases hnext : s'.next with ⟨_ | _, s''⟩
  · rw [tokens_of_error hnext, tokens_of_error (h.trans hnext)]
  · rw [tokens_of_ok hnext, tokens_of_ok (h.trans hnext)]

theorem steps_congr (h : s.next = s'.next) : ∀ n, s.steps n = s'.steps n
  | 0 => rfl
  | n + 1 => by rw [steps, steps, h]

theorem skipWhiteSpace_blank_append (white : ∀ c ∈ blank, Unicode.isWhiteSpace c = true) (position : Nat)
    (cs : List Char) :
    (mk position (blank ++ cs)).skipWhiteSpace = (mk (position + blank.length) cs).skipWhiteSpace := by
  simp only [skipWhiteSpace, advance, List.takeWhile_append_of_pos white, List.length_append, List.drop_append,
    Nat.add_assoc]
  simp

theorem skipWhiteSpace_of_not_white (h : ∀ c ∈ cs.head?, Unicode.isWhiteSpace c = false) (position : Nat) :
    (mk position cs).skipWhiteSpace = mk position cs := by
  cases cs with
  | nil => rfl
  | cons c cs => simp [skipWhiteSpace, advance, h c rfl]

theorem tokens_nil (position : Nat) : (mk position []).tokens = .ok [.endOfInput position] := tokens_of_nil rfl

end Scanner

/-- The longest lexeme is taken, with the position of its first character. -/
theorem IsLongestLexeme.next_eq (h : IsLongestLexeme kind text cs rest) (position : Nat) :
    (Scanner.mk position (cs ++ rest)).next =
      (.ok ⟨kind, String.ofList text, position⟩, ⟨position + cs.length, rest⟩) := by
  have hlexeme := h.lexeme?_eq
  obtain ⟨c, more, rfl, hat⟩ := h.lexemeAt
  rw [List.cons_append] at hlexeme ⊢
  have hhead : ∀ d ∈ (c :: (more ++ rest)).head?, Unicode.isWhiteSpace d = false := by simpa using hat.not_white
  have hskip := Scanner.skipWhiteSpace_of_not_white hhead position
  simp only [Scanner.next, hskip, hlexeme]
  simp [Scanner.advance]

/-- A scan that is stuck in front of a character says so. -/
theorem Stuck.next_eq {c : Char} (h : Stuck (c :: cs)) (position : Nat) :
    (Scanner.mk position (c :: cs)).next = (.error ⟨c, position⟩, ⟨position, c :: cs⟩) := by
  have hskip := Scanner.skipWhiteSpace_of_not_white h.1 position
  simp only [Scanner.next, hskip, lexeme?_eq_none_iff.2 h.2]

end

/-! ## A whole scan -/

section

variable {position : Nat} {used rest : List Char} {ts : List Token}

/-- **A scan goes over a cut** token by token, and then on behind it. -/
theorem Cut.steps_eq (h : Cut rest position used ts) (n : Nat) :
    (Scanner.mk position (used ++ rest)).steps (ts.length + n) =
      ts.map .ok ++ (Scanner.mk (position + used.length) rest).steps n := by
  induction h with
  | @blank position cs white =>
    have hskip := Scanner.skipWhiteSpace_blank_append white position rest
    rw [List.length_nil, Nat.zero_add, List.map_nil, List.nil_append,
      Scanner.steps_congr (Scanner.next_congr hskip)]
  | @token position kind blank lexeme text used ts white longest more ih =>
    have hskip := Scanner.skipWhiteSpace_blank_append white position (lexeme ++ (used ++ rest))
    rw [List.append_assoc, List.append_assoc, Scanner.steps_congr (Scanner.next_congr hskip), List.length_cons,
      Nat.add_right_comm, Scanner.steps, longest.next_eq, ih]
    simp [Nat.add_assoc]

/-- The tokens of a text are those of a cut and then those of the rest. -/
theorem Cut.tokens_eq (h : Cut rest position used ts) :
    (Scanner.mk position (used ++ rest)).tokens =
      (Scanner.mk (position + used.length) rest).tokens.map (ts ++ ·) := by
  induction h with
  | @blank position cs white =>
    have hskip := Scanner.skipWhiteSpace_blank_append white position rest
    rw [Scanner.tokens_congr (Scanner.next_congr hskip)]
    cases (Scanner.mk (position + cs.length) rest).tokens <;> rfl
  | @token position kind blank lexeme text used ts white longest more ih =>
    have hskip := Scanner.skipWhiteSpace_blank_append white position (lexeme ++ (used ++ rest))
    have hend : Token.isEnd ⟨kind, String.ofList text, position + blank.length⟩ = false := by
      simpa [Token.isEnd] using longest.kind_ne_endOfInput
    rw [List.append_assoc, List.append_assoc, Scanner.tokens_congr (Scanner.next_congr hskip),
      Scanner.tokens_of_ok (longest.next_eq _), hend, if_neg Bool.false_ne_true, ih, List.length_append,
      List.length_append, ← Nat.add_assoc, ← Nat.add_assoc]
    cases (Scanner.mk (position + blank.length + lexeme.length + used.length) rest).tokens <;> rfl

/-- The lexeme of each token of a cut starts where the token says. -/
theorem Cut.exists_lexeme (h : Cut rest position used ts) : ∀ t ∈ ts, ∃ before lexeme after,
    used ++ rest = before ++ (lexeme ++ after) ∧ position + before.length = t.position ∧
      IsLongestLexeme t.kind t.text.toList lexeme after := by
  induction h with
  | blank _ => simp
  | @token position kind blank lexeme text used ts white longest more ih =>
    intro t ht
    rcases List.mem_cons.1 ht with rfl | ht
    · exact ⟨blank, lexeme, used ++ rest, by simp, rfl, by rwa [String.toList_ofList]⟩
    · obtain ⟨before, lexeme', after, happend, hposition, hlongest⟩ := ih t ht
      refine ⟨blank ++ (lexeme ++ before), lexeme', after, by simp [happend], ?_, hlongest⟩
      rw [← hposition, List.length_append, List.length_append]
      omega

/-- Every text is white space in front of something else. -/
theorem exists_blank (cs : List Char) : ∃ blank rest, cs = blank ++ rest ∧
    (∀ c ∈ blank, Unicode.isWhiteSpace c = true) ∧ ∀ c ∈ rest.head?, Unicode.isWhiteSpace c = false := by
  refine ⟨_, _, (List.takeWhile_append_dropWhile (p := Unicode.isWhiteSpace)).symm,
    List.all_eq_true.1 List.all_takeWhile, fun c hc => ?_⟩
  have hnot := List.head?_dropWhile_not Unicode.isWhiteSpace cs
  rw [Option.mem_def.1 hc] at hnot
  simpa using hnot

/-- **Every text is cut** up to its end or up to a place where a scan is stuck. -/
theorem exists_cut (position : Nat) (cs : List Char) :
    ∃ used ts rest, cs = used ++ rest ∧ Cut rest position used ts ∧ Stuck rest := by
  obtain ⟨blank, after, hcs, hwhite, hhead⟩ := exists_blank cs
  by_cases hstarts : StartsLexeme after
  · obtain ⟨front, more, rfl, hsome⟩ := hstarts
    obtain ⟨kind, text, lexeme, more', happend, hlongest⟩ := exists_isLongestLexeme more hsome
    rw [happend] at hcs
    have hshorter : more'.length < cs.length := by
      have hpos := List.length_pos_iff.2 hlongest.isLexeme.ne_nil
      simp only [hcs, List.length_append]
      omega
    obtain ⟨used, ts, rest, rfl, hcut, hstuck⟩ := exists_cut (position + blank.length + lexeme.length) more'
    exact ⟨_, _, rest, by rw [hcs, List.append_assoc, List.append_assoc], .token hwhite hlongest hcut, hstuck⟩
  · exact ⟨blank, [], after, hcs, .blank hwhite, hhead, hstarts⟩
termination_by cs.length

/-- Where a scan is stuck its text has ended, or the next character is at fault. -/
theorem Stuck.tokens_eq (h : Stuck rest) (position : Nat) : (Scanner.mk position rest).tokens =
    match rest with
    | [] => .ok [.endOfInput position]
    | c :: _ => .error ⟨c, position⟩ := by
  cases rest with
  | nil => exact Scanner.tokens_nil position
  | cons c rest => exact Scanner.tokens_of_error (h.next_eq position)

end

/-! ## The tokens of a formula -/

/-- How the lexeme of a token is written in front of the rest of its text: a string literal between two quotes of a kind
that it does not hold, of which the second may be missing at the end of the text, and every other token as it is. -/
def Token.WrittenAs (t : Token) (lexeme rest : List Char) : Prop :=
  if t.kind = .string then
    ∃ quote, (quote = '"' ∨ quote = '\'') ∧ quote ∉ t.text.toList ∧
      (lexeme = quote :: t.text.toList ++ [quote] ∨ lexeme = quote :: t.text.toList ∧ rest = [])
  else lexeme = t.text.toList

theorem IsLongestLexeme.writtenAs {t : Token} {lexeme rest : List Char}
    (h : IsLongestLexeme t.kind t.text.toList lexeme rest) : t.WrittenAs lexeme rest := by
  unfold Token.WrittenAs
  split
  · rename_i hkind
    rw [hkind] at h
    exact h.closed_or_eq_nil
  · rename_i hkind
    exact h.isLexeme.eq_text hkind

/-- The tokens from a place on are those of a cut of all that follows, with the end of the input behind them. -/
theorem Scanner.tokens_eq_ok_iff_cut {position : Nat} {cs : List Char} {ts : List Token} :
    (mk position cs).tokens = .ok ts ↔
      ∃ front, Cut [] position cs front ∧ ts = front ++ [.endOfInput (position + cs.length)] := by
  constructor
  · intro h
    obtain ⟨used, front, rest, rfl, hcut, hstuck⟩ := exists_cut position cs
    rw [hcut.tokens_eq, hstuck.tokens_eq] at h
    cases rest with
    | nil =>
      cases h
      rw [List.append_nil]
      exact ⟨front, hcut, rfl⟩
    | cons c rest => cases h
  · rintro ⟨front, hcut, rfl⟩
    have htokens := hcut.tokens_eq
    rw [List.append_nil, tokens_nil] at htokens
    exact htokens

/-- **The tokens of a formula** are those of a cut of the whole of it, with the end of the input behind them. -/
theorem tokenize_eq_ok_iff_cut {formula : String} {ts : List Token} : tokenize formula = .ok ts ↔
    ∃ front, Cut [] 0 formula.toList front ∧ ts = front ++ [.endOfInput formula.length] := by
  rw [tokenize, Scanner.ofText, Scanner.tokens_eq_ok_iff_cut, Nat.zero_add, String.length_toList]

/-- A scan of a formula goes over a cut of its front and then on behind it. -/
theorem Cut.tokenize_eq {formula : String} {used rest : List Char} {ts : List Token} (h : Cut rest 0 used ts)
    (hformula : formula.toList = used ++ rest) :
    tokenize formula = (Scanner.mk used.length rest).tokens.map (ts ++ ·) := by
  rw [tokenize, Scanner.ofText, hformula, h.tokens_eq, Nat.zero_add]

/-- **The fault of a formula** is the character where a cut of its front is stuck. -/
theorem tokenize_eq_error_iff_cut {formula : String} {c : Char} {position : Nat} :
    tokenize formula = .error ⟨c, position⟩ ↔
      ∃ used front rest, formula.toList = used ++ c :: rest ∧ used.length = position ∧
        Cut (c :: rest) 0 used front ∧ Unicode.isWhiteSpace c = false ∧ ¬StartsLexeme (c :: rest) := by
  constructor
  · intro h
    obtain ⟨used, front, rest, hformula, hcut, hstuck⟩ := exists_cut 0 formula.toList
    rw [hcut.tokenize_eq hformula, hstuck.tokens_eq] at h
    cases rest with
    | nil => cases h
    | cons d rest =>
      cases h
      exact ⟨used, front, rest, hformula, rfl, hcut, hstuck.1 _ rfl, hstuck.2⟩
  · rintro ⟨used, front, rest, hformula, rfl, hcut, hwhite, hstarts⟩
    have hstuck : Stuck (c :: rest) := ⟨fun d hd => Option.some.inj hd ▸ hwhite, hstarts⟩
    rw [hcut.tokenize_eq hformula, hstuck.tokens_eq]
    rfl

/-- **A formula is cut into its tokens** by longest match. It has tokens when the whole of it is white space and longest
lexemes in turn, and then the end of the input stands behind them; it has a fault when that goes only up to a character
that is no white space and starts no lexeme. In either case the steps of a scan are the tokens of the cut, none of which
is an end of the input, and the lexeme of each is the longest one at the position of the token and is written as the
token says. -/
theorem tokenize_cuts (formula : String) :
    (∀ ts, tokenize formula = .ok ts ↔
      ∃ front, Cut [] 0 formula.toList front ∧ ts = front ++ [.endOfInput formula.length]) ∧
    (∀ c position, tokenize formula = .error ⟨c, position⟩ ↔
      ∃ used front rest, formula.toList = used ++ c :: rest ∧ used.length = position ∧
        Cut (c :: rest) 0 used front ∧ Unicode.isWhiteSpace c = false ∧ ¬StartsLexeme (c :: rest)) ∧
    ∀ used rest front, formula.toList = used ++ rest → Cut rest 0 used front →
      (∀ n, (Scanner.ofText formula).steps (front.length + n) =
        front.map .ok ++ (Scanner.mk used.length rest).steps n) ∧
      ∀ t ∈ front, t.isEnd = false ∧ ∃ before lexeme after, formula.toList = before ++ (lexeme ++ after) ∧
        before.length = t.position ∧ IsLongestLexeme t.kind t.text.toList lexeme after ∧ t.WrittenAs lexeme after := by
  refine ⟨fun ts => tokenize_eq_ok_iff_cut, fun c position => tokenize_eq_error_iff_cut, ?_⟩
  intro used rest front hformula hcut
  refine ⟨fun n => ?_, fun t ht => ?_⟩
  · have hsteps := hcut.steps_eq n
    rwa [Nat.zero_add, ← hformula] at hsteps
  · obtain ⟨before, lexeme, after, happend, hposition, hlongest⟩ := hcut.exists_lexeme t ht
    rw [Nat.zero_add] at hposition
    refine ⟨?_, before, lexeme, after, hformula.trans happend, hposition, hlongest, hlongest.writtenAs⟩
    simpa [Token.isEnd] using hlongest.kind_ne_endOfInput

end Formula
