import Formula.Proofs.Scan.Cuts

/-!
# White space between tokens

White space may be put in wherever a token has ended: no lexeme runs into it, except a string literal that nothing
closes.

* `IsBoundary` : the places that are inside no lexeme; `isBoundary_of_between` tells them from the tokens around.
* `Cut.exists_split` : a cut may be split at such a place.
* `Cut.blank_append` : a cut stays a cut when white space is put in behind it.
* `exists_tokenize_of_isBoundary` : the tokens stay the same but for their positions.
-/

namespace Formula

/-! ## Lexemes in front of white space -/

section

variable {kind kind' : TokenKind} {text text' cs rest blank : List Char} {d : Char}

/-- No lexeme but a string literal holds white space. -/
theorem not_mem_lexeme_of_isWhiteSpace (h : Unicode.isWhiteSpace d = true) :
    isNumberChar d = false ∧ isNameChar d = false ∧ d ∉ ['"', '\'', '=', '&', '|'] := by
  have hnot := Unicode.forall_isWhiteSpace
    (p := fun d => !isNumberChar d && !isNameChar d && !(['"', '\'', '=', '&', '|'].contains d)) (by decide +kernel) h
  simpa [and_assoc] using hnot

/-- At the end of the input every lexeme is the longest. -/
theorem IsLexeme.longest (h : IsLexeme kind text cs) : IsLongestLexeme kind text cs [] :=
  isLongestLexeme_iff.2 ⟨h, by simp⟩

/-- The characters of a lexeme tell the kind and the text of its token. -/
theorem IsLexeme.unique (h : IsLexeme kind text cs) (h' : IsLexeme kind' text' cs) : kind = kind' ∧ text = text' := by
  have htaken := h.longest.lexeme?_eq.symm.trans h'.longest.lexeme?_eq
  cases htaken
  exact ⟨rfl, rfl⟩

/-- A lexeme goes on over white space only if it is a string literal that lacks its closing quote. -/
theorem IsLexeme.exists_unclosed (h : IsLexeme kind text (cs ++ [d])) (hcs : cs ≠ [])
    (hd : Unicode.isWhiteSpace d = true) : ∃ text, cs.length = text.length + 1 ∧ IsLexeme .string text cs := by
  obtain ⟨hnumber, hname, hmarks⟩ := not_mem_lexeme_of_isWhiteSpace hd
  have hmem : d ∈ cs ++ [d] := by simp
  generalize hall : cs ++ [d] = all at h hmem
  cases h with
  | number isNumber =>
    rw [isNumber.forall_mem d hmem] at hnumber
    cases hnumber
  | boolean isTruthWord =>
    rw [isTruthWord.isName.forall_mem d hmem] at hname
    cases hname
  | identifier isName _ =>
    rw [isName.forall_mem d hmem] at hname
    cases hname
  | closed isQuote _ =>
    obtain ⟨-, hquote⟩ := List.append_inj' hall rfl
    obtain rfl := List.singleton_inj.1 hquote
    rcases isQuote with rfl | rfl <;> simp at hmarks
  | @unclosed quote text isQuote not_mem =>
    cases cs with
    | nil => exact absurd rfl hcs
    | cons c cs =>
      obtain ⟨rfl, rfl⟩ := List.cons.inj hall
      exact ⟨cs, rfl, .unclosed isQuote fun hmem => not_mem (List.mem_append_left _ hmem)⟩
  | delimiter _ | single _ =>
    cases cs with
    | nil => exact absurd rfl hcs
    | cons c cs => simp at hall
  | @pair c e mem =>
    have happend : cs ++ [d] = [c] ++ [e] := hall
    obtain ⟨-, he⟩ := List.append_inj' happend rfl
    obtain rfl := List.singleton_inj.1 he
    have hsecond : ∀ pair ∈ operatorPairs, pair.2 ∈ ['"', '\'', '=', '&', '|'] := by decide
    exact absurd (hsecond _ mem) hmarks

/-- A longest lexeme is the longest in front of white space, too, if it is no string literal that lacks its closing
quote. -/
theorem IsLongestLexeme.blank_append (h : IsLongestLexeme kind text cs rest)
    (white : ∀ c ∈ blank, Unicode.isWhiteSpace c = true) (closed : kind = .string → text.length + 2 ≤ cs.length) :
    IsLongestLexeme kind text cs (blank ++ rest) := by
  cases blank with
  | nil => exact h
  | cons d blank =>
    refine isLongestLexeme_iff.2 ⟨h.isLexeme, fun e he => ?_⟩
    obtain rfl := Option.some.inj he
    rintro ⟨kind', text', hlonger⟩
    obtain ⟨text', hlength, hunclosed⟩ := hlonger.exists_unclosed h.isLexeme.ne_nil (white d List.mem_cons_self)
    obtain ⟨rfl, rfl⟩ := h.isLexeme.unique hunclosed
    have hclosed := closed rfl
    omega

end

/-! ## Places between tokens -/

/-- The position behind the lexeme of the token. A string literal has two quotes around its text; one that lacks the
second ends behind the end of the input. -/
def Token.lexemeEnd (t : Token) : Nat := t.position + (t.text.length + if t.kind = .string then 2 else 0)

/-- The position is inside the lexeme of none of the tokens. -/
def IsBoundary (ts : List Token) (position : Nat) : Prop := ∀ t ∈ ts, t.lexemeEnd ≤ position ∨ position ≤ t.position

theorem IsLexeme.length_le {kind : TokenKind} {text cs : List Char} (h : IsLexeme kind text cs) :
    cs.length ≤ text.length + if kind = .string then 2 else 0 := by
  cases h <;> simp

/-- In front of more characters a longest lexeme is as long as its token tells. -/
theorem IsLongestLexeme.length_eq {kind : TokenKind} {text cs rest : List Char} (h : IsLongestLexeme kind text cs rest)
    (hrest : rest ≠ []) : cs.length = text.length + if kind = .string then 2 else 0 := by
  split
  · rename_i hkind
    subst hkind
    obtain ⟨quote, -, -, rfl | ⟨-, hnil⟩⟩ := h.closed_or_eq_nil
    · simp
    · exact absurd hnil hrest
  · rename_i hkind
    rw [h.isLexeme.eq_text hkind, Nat.add_zero]

section

variable {position : Nat} {used rest blank : List Char} {ts : List Token}

/-- **The tokens of a cut** stand one behind another. -/
theorem Cut.pairwise (h : Cut rest position used ts) : ts.Pairwise fun t t' => t.lexemeEnd ≤ t'.position := by
  induction h with
  | blank _ => exact .nil
  | @token position kind blank lexeme text used ts white longest more ih =>
    refine .cons (fun t ht => ?_) ih
    obtain ⟨before, lexeme', after, happend, hposition, hlongest⟩ := more.exists_lexeme t ht
    have hmore : used ++ rest ≠ [] := by
      rw [happend]
      simp [hlongest.isLexeme.ne_nil]
    have hlength := longest.length_eq hmore
    simp only [Token.lexemeEnd, String.length_ofList]
    omega

/-- **A cut may be split** between its tokens: those in front of the place have ended there. -/
theorem Cut.exists_split (h : Cut rest position used ts) : ∀ before after, used = before ++ after →
    IsBoundary ts (position + before.length) → ∃ front, Cut (after ++ rest) position before front ∧
      ∀ t ∈ front, t.lexemeEnd ≤ position + before.length := by
  induction h with
  | blank white =>
    rintro before after rfl -
    exact ⟨[], .blank (List.forall_mem_append.1 white).1, by simp⟩
  | @token position kind blank lexeme text used ts white longest more ih =>
    intro before after happend hboundary
    obtain ⟨hfirst, hmore⟩ := List.forall_mem_cons.1 hboundary
    rcases hfirst with hend | hstart
    · have hlength : (blank ++ lexeme).length ≤ before.length := by
        have hlexeme := longest.isLexeme.length_le
        simp only [Token.lexemeEnd, String.length_ofList] at hend
        rw [List.length_append]
        omega
      have hprefix : blank ++ lexeme <+: before ++ after := ⟨used, by rw [← happend, List.append_assoc]⟩
      obtain ⟨before, rfl⟩ := List.prefix_of_prefix_length_le hprefix (List.prefix_append ..) hlength
      have hused : used = before ++ after := by simpa using happend
      have hposition : position + (blank ++ lexeme ++ before).length =
          position + blank.length + lexeme.length + before.length := by
        simp only [List.length_append]
        omega
      rw [hposition] at hmore hend ⊢
      obtain ⟨front, hcut, hfront⟩ := ih before after hused hmore
      rw [hused, List.append_assoc] at longest
      refine ⟨_ :: front, ?_, List.forall_mem_cons.2 ⟨hend, hfront⟩⟩
      rw [List.append_assoc]
      exact .token white longest hcut
    · have hlength : before.length ≤ blank.length := Nat.le_of_add_le_add_left hstart
      have hprefix : blank <+: before ++ after := ⟨lexeme ++ used, happend⟩
      obtain ⟨gap, rfl⟩ := List.prefix_of_prefix_length_le (List.prefix_append ..) hprefix hlength
      exact ⟨[], .blank (List.forall_mem_append.1 white).1, by simp⟩

/-- **White space behind a cut** does not change it, when all its lexemes have ended there: no string literal is left
open. -/
theorem Cut.blank_append (h : Cut rest position used ts) (white : ∀ c ∈ blank, Unicode.isWhiteSpace c = true)
    (ended : ∀ t ∈ ts, t.lexemeEnd ≤ position + used.length) : Cut (blank ++ rest) position used ts := by
  induction h with
  | blank hused => exact .blank hused
  | @token position kind before lexeme text used ts hbefore longest more ih =>
    have hlength : position + (before ++ (lexeme ++ used)).length =
        position + before.length + lexeme.length + used.length := by
      simp only [List.length_append]
      omega
    rw [hlength] at ended
    obtain ⟨hfirst, hmore⟩ := List.forall_mem_cons.1 ended
    refine .token hbefore ?_ (ih hmore)
    cases used with
    | cons c used => exact longest.congr rfl
    | nil =>
      refine longest.blank_append white fun hkind => ?_
      simp only [Token.lexemeEnd, String.length_ofList, List.length_nil, if_pos hkind] at hfirst
      omega

/-- A cut may be made at any other position, with the tokens moved there. -/
theorem Cut.moved (h : Cut rest position used ts) (other : Nat) :
    ∃ ts', Cut rest other used ts' ∧ ts'.map Token.unplaced = ts.map Token.unplaced := by
  induction h generalizing other with
  | blank white => exact ⟨[], .blank white, rfl⟩
  | @token position kind blank lexeme text used ts white longest more ih =>
    obtain ⟨ts', hcut, hsame⟩ := ih (other + blank.length + lexeme.length)
    refine ⟨⟨kind, String.ofList text, other + blank.length⟩ :: ts', .token white longest hcut, ?_⟩
    rw [List.map_cons, List.map_cons, hsame]
    rfl

end

/-- The tokens of a formula are in the order of their positions. -/
theorem pairwise_position_of_tokenize {formula : String} {ts : List Token} (h : tokenize formula = .ok ts) :
    ts.Pairwise fun t t' => t.position ≤ t'.position := by
  obtain ⟨front, hcut, rfl⟩ := tokenize_eq_ok_iff_cut.1 h
  refine List.pairwise_append.2 ⟨hcut.pairwise.imp (Nat.le_trans (Nat.le_add_right ..)), List.pairwise_singleton .., ?_⟩
  intro t ht stop hstop
  obtain ⟨before, lexeme, after, hformula, hposition, -⟩ := hcut.exists_lexeme t ht
  rw [List.append_nil] at hformula
  rw [List.mem_singleton.1 hstop, ← hposition, Nat.zero_add]
  have hlength := congrArg List.length hformula
  rw [String.length_toList, List.length_append] at hlength
  exact hlength ▸ Nat.le_add_right ..

/-- **Between two tokens**, where the one has ended and the other has not begun, no lexeme is. In front of the first
token there is no other, and behind a string literal that lacks its closing quote there is no such place. -/
theorem isBoundary_of_between {formula : String} {front more : List Token} {t : Token} {position : Nat}
    (hts : tokenize formula = .ok (front ++ t :: more)) (hended : ∀ last ∈ front.getLast?, last.lexemeEnd ≤ position)
    (hstart : position ≤ t.position) : IsBoundary (front ++ t :: more) position := by
  have hsorted := (List.pairwise_append.1 (pairwise_position_of_tokenize hts)).2.1
  obtain ⟨all, hcut, hall⟩ := tokenize_eq_ok_iff_cut.1 hts
  have hprefix : front <+: all := by
    refine List.prefix_of_prefix_length_le ⟨_, hall⟩ (List.prefix_append ..) ?_
    have hlength := congrArg List.length hall
    simp only [List.length_append, List.length_cons, List.length_nil] at hlength
    omega
  have happart := hcut.pairwise.sublist hprefix.sublist
  refine List.forall_mem_append.2 ⟨fun t' ht' => .inl ?_, List.forall_mem_cons.2 ⟨.inr hstart, fun t' ht' => .inr ?_⟩⟩
  · rcases List.eq_nil_or_concat front with rfl | ⟨init, last, rfl⟩
    · cases ht'
    · rw [List.concat_eq_append] at ht' happart hended
      have hlast := hended last (by simp)
      rcases List.mem_append.1 ht' with hinit | hsingle
      · have hle : t'.lexemeEnd ≤ last.position := (List.pairwise_append.1 happart).2.2 t' hinit last (by simp)
        exact Nat.le_trans hle (Nat.le_trans (Nat.le_add_right ..) hlast)
      · rwa [List.mem_singleton.1 hsingle]
  · exact Nat.le_trans hstart (List.rel_of_pairwise_cons hsorted ht')

/-! ## White space put into a formula -/

/-- The tokens from a place on do not depend on the place, nor on white space put in front of it, but for their
positions. -/
theorem Scanner.exists_tokens_blank_append {position : Nat} {blank cs : List Char} {ts : List Token}
    (white : ∀ c ∈ blank, Unicode.isWhiteSpace c = true) (h : (mk position cs).tokens = .ok ts) :
    ∃ ts', (mk position (blank ++ cs)).tokens = .ok ts' ∧ ts'.map Token.unplaced = ts.map Token.unplaced := by
  obtain ⟨front, hcut, rfl⟩ := tokens_eq_ok_iff_cut.1 h
  obtain ⟨front', hmoved, hsame⟩ := hcut.moved (position + blank.length)
  rw [tokens_congr (next_congr (skipWhiteSpace_blank_append white position cs))]
  refine ⟨_, tokens_eq_ok_iff_cut.2 ⟨front', hmoved, rfl⟩, ?_⟩
  rw [List.map_append, List.map_append, hsame]
  rfl

/-- **White space between tokens** leaves them as they are but for their positions. -/
theorem exists_tokenize_of_isBoundary {before blank after : String} {ts : List Token}
    (hts : tokenize (before ++ after) = .ok ts) (hboundary : IsBoundary ts before.length)
    (white : ∀ c ∈ blank.toList, Unicode.isWhiteSpace c = true) :
    ∃ ts', tokenize (before ++ blank ++ after) = .ok ts' ∧ ts'.map Token.unplaced = ts.map Token.unplaced := by
  obtain ⟨all, hall, rfl⟩ := tokenize_eq_ok_iff_cut.1 hts
  have hplace : before.length = 0 + before.toList.length := by rw [Nat.zero_add, String.length_toList]
  rw [hplace] at hboundary
  obtain ⟨front, hfront, hended⟩ := hall.exists_split before.toList after.toList (String.toList_append ..)
    fun t ht => hboundary t (List.mem_append_left _ ht)
  rw [List.append_nil] at hfront
  have hspaced := hfront.blank_append white hended
  rw [hfront.tokenize_eq (String.toList_append ..)] at hts
  rw [hspaced.tokenize_eq (by simp)]
  cases hmore : (Scanner.mk before.toList.length after.toList).tokens with
  | error e =>
    rw [hmore] at hts
    cases hts
  | ok more =>
    obtain ⟨more', hmore', hsame⟩ := Scanner.exists_tokens_blank_append white hmore
    rw [hmore] at hts
    rw [hmore']
    refine ⟨front ++ more', rfl, ?_⟩
    rw [← Except.ok.inj hts, List.map_append, List.map_append, hsame]

end Formula
