import Formula.Proofs.Scan.Words
import Mathlib.Data.List.TakeWhile

/-!
# Longest lexemes

The lexemes are listed here without a scan, and the scan turns out to take the longest of them at the front of a text.
Whether a lexeme is the longest shows in the next character alone: of every lexeme that goes on behind some characters,
these and the next one are a lexeme already.

* `IsLexeme` : the lexemes, each with the kind and the text of its token.
* `IsLongestLexeme` : a lexeme at the front of a text that has no longer one there.
* `isLongestLexeme_iff` : a lexeme is the longest when the next character makes no lexeme of it.
* `lexeme?_eq_some_iff`, `lexeme?_eq_none_iff` : the scan takes the longest lexeme, if there is any.
-/

namespace Formula

/-! ## The lexemes -/

/-- The words for truth values. -/
def IsTruthWord (cs : List Char) : Prop := cs = ['t', 'r', 'u', 'e'] ∨ cs = ['f', 'a', 'l', 's', 'e']

instance (cs : List Char) : Decidable (IsTruthWord cs) := inferInstanceAs (Decidable (_ ∨ _))

/-- The characters are a lexeme, of a token with this kind and this text. A string literal may lack its closing
quote. -/
inductive IsLexeme : TokenKind → List Char → List Char → Prop
  | number {cs : List Char} (isNumber : IsNumber cs) : IsLexeme .number cs cs
  | boolean {cs : List Char} (isTruthWord : IsTruthWord cs) : IsLexeme .boolean cs cs
  | identifier {cs : List Char} (isName : IsName cs) (not_truthWord : ¬IsTruthWord cs) : IsLexeme .identifier cs cs
  | closed {quote : Char} {text : List Char} (isQuote : quote = '"' ∨ quote = '\'') (not_mem : quote ∉ text) :
    IsLexeme .string text (quote :: text ++ [quote])
  | unclosed {quote : Char} {text : List Char} (isQuote : quote = '"' ∨ quote = '\'') (not_mem : quote ∉ text) :
    IsLexeme .string text (quote :: text)
  | delimiter {c : Char} {kind : TokenKind} (mem : (c, kind) ∈ delimiters) : IsLexeme kind [c] [c]
  | pair {c d : Char} (mem : (c, d) ∈ operatorPairs) : IsLexeme .operator [c, d] [c, d]
  | single {c : Char} (mem : c ∈ operatorChars) : IsLexeme .operator [c] [c]

/-- The characters are a lexeme of some token. -/
def IsSomeLexeme (cs : List Char) : Prop := ∃ kind text, IsLexeme kind text cs

/-- A lexeme stands at the front of the text. -/
def StartsLexeme (cs : List Char) : Prop := ∃ front rest, cs = front ++ rest ∧ IsSomeLexeme front

/-- In front of the rest the characters are a lexeme, and no longer one stands there. -/
structure IsLongestLexeme (kind : TokenKind) (text cs rest : List Char) : Prop where
  isLexeme : IsLexeme kind text cs
  longest : ∀ front more, cs ++ rest = front ++ more → IsSomeLexeme front → front.length ≤ cs.length

section

variable {kind : TokenKind} {text cs : List Char}

theorem IsLexeme.some (h : IsLexeme kind text cs) : IsSomeLexeme cs := ⟨kind, text, h⟩

theorem IsLexeme.ne_nil (h : IsLexeme kind text cs) : cs ≠ [] := by
  rintro rfl
  cases h with
  | number isNumber => exact isNumber
  | boolean isTruthWord => simp [IsTruthWord] at isTruthWord
  | identifier isName _ => exact isName

theorem IsTruthWord.isName (h : IsTruthWord cs) : IsName cs := by
  rcases h with rfl | rfl <;> exact isName_of_all (by decide +kernel) (by decide +kernel)

/-- A name is an identifier or a truth value. -/
theorem IsName.isSomeLexeme (h : IsName cs) : IsSomeLexeme cs := by
  by_cases htruth : IsTruthWord cs
  · exact (IsLexeme.boolean htruth).some
  · exact (IsLexeme.identifier h htruth).some

/-- A string literal that lacks its closing quote goes on over every character. -/
theorem isSomeLexeme_unclosed_snoc {quote : Char} (hquote : quote = '"' ∨ quote = '\'') (h : quote ∉ text) (d : Char) :
    IsSomeLexeme (quote :: text ++ [d]) := by
  by_cases hd : d = quote
  · rw [hd]
    exact (IsLexeme.closed hquote h).some
  · have hmem : quote ∉ text ++ [d] := by
      rw [List.mem_append, List.mem_singleton]
      exact fun hor => hor.elim h (Ne.symm hd)
    exact (IsLexeme.unclosed hquote hmem).some

end

/-! ## One character more -/

section

variable {kind : TokenKind} {text cs front rest more : List Char} {c d : Char}

theorem IsNumber.of_append (h : IsNumber (c :: front ++ more)) : IsNumber (c :: front) :=
  ⟨h.1, fun e he => h.2 e (List.mem_append_left _ he)⟩

theorem IsName.of_append (h : IsName (c :: front ++ more)) : IsName (c :: front) :=
  ⟨h.1, fun e he => h.2 e (List.mem_append_left _ he)⟩

theorem IsNumber.snoc (h : IsNumber cs) (hd : isNumberChar d = true) : IsNumber (cs ++ [d]) := by
  cases cs with
  | nil => exact h.elim
  | cons c cs => exact ⟨h.1, List.forall_mem_append.2 ⟨h.2, by simpa using hd⟩⟩

theorem IsName.snoc (h : IsName cs) (hd : isNameChar d = true) : IsName (cs ++ [d]) := by
  cases cs with
  | nil => exact h.elim
  | cons c cs => exact ⟨h.1, List.forall_mem_append.2 ⟨h.2, by simpa using hd⟩⟩

/-- **Lexemes grow by one character at a time**: where a lexeme goes on behind some characters, these and the next one
are a lexeme. -/
theorem IsLexeme.isSomeLexeme_snoc (h : IsLexeme kind text (c :: front ++ d :: more)) :
    IsSomeLexeme (c :: front ++ [d]) := by
  have happend : c :: front ++ d :: more = c :: (front ++ [d]) ++ more := by simp
  generalize hcs : c :: front ++ d :: more = cs at h
  cases h with
  | number isNumber =>
    rw [← hcs, happend] at isNumber
    exact (IsLexeme.number isNumber.of_append).some
  | boolean isTruthWord =>
    have hname := isTruthWord.isName
    rw [← hcs, happend] at hname
    exact hname.of_append.isSomeLexeme
  | identifier isName _ =>
    rw [← hcs, happend] at isName
    exact isName.of_append.isSomeLexeme
  | @closed quote text isQuote not_mem =>
    rcases List.eq_nil_or_concat more with rfl | ⟨more, last, rfl⟩
    · rw [hcs]
      exact (IsLexeme.closed isQuote not_mem).some
    · rw [List.concat_eq_append, ← List.cons_append, ← List.append_assoc] at hcs
      obtain ⟨hcs, -⟩ := List.append_inj' hcs rfl
      obtain ⟨rfl, rfl⟩ := List.cons.inj hcs
      exact isSomeLexeme_unclosed_snoc isQuote (fun hmem => not_mem (List.mem_append_left _ hmem)) d
  | unclosed isQuote not_mem =>
    obtain ⟨rfl, rfl⟩ := List.cons.inj hcs
    exact isSomeLexeme_unclosed_snoc isQuote (fun hmem => not_mem (List.mem_append_left _ hmem)) d
  | delimiter mem => simp at hcs
  | @pair c' d' mem =>
    obtain ⟨rfl, hd⟩ := List.cons.inj hcs
    cases front with
    | nil =>
      obtain ⟨rfl, -⟩ := List.cons.inj hd
      exact (IsLexeme.pair mem).some
    | cons e front => simp at hd
  | single mem => simp at hcs

/-- **A lexeme is the longest** when the next character makes no lexeme of it. -/
theorem isLongestLexeme_iff : IsLongestLexeme kind text cs rest ↔
    IsLexeme kind text cs ∧ ∀ d ∈ rest.head?, ¬IsSomeLexeme (cs ++ [d]) := by
  constructor
  · rintro ⟨hlexeme, hlongest⟩
    refine ⟨hlexeme, fun d hd hsome => ?_⟩
    obtain ⟨more, rfl⟩ := List.head?_eq_some_iff.1 hd
    have hlength := hlongest (cs ++ [d]) more (by simp) hsome
    rw [List.length_append, List.length_singleton] at hlength
    omega
  · rintro ⟨hlexeme, hnext⟩
    refine ⟨hlexeme, fun front more happend hsome => ?_⟩
    rcases List.append_eq_append_iff.1 happend with ⟨gap, rfl, rfl⟩ | ⟨gap, rfl, -⟩
    · cases gap with
      | nil => simp
      | cons d gap =>
        obtain ⟨kind', text', hlonger⟩ := hsome
        cases cs with
        | nil => exact absurd rfl hlexeme.ne_nil
        | cons c cs => exact absurd hlonger.isSomeLexeme_snoc (hnext d rfl)
    · simp

/-- Only the next character tells whether a lexeme is the longest. -/
theorem IsLongestLexeme.congr (h : IsLongestLexeme kind text cs rest) (hhead : more.head? = rest.head?) :
    IsLongestLexeme kind text cs more := by
  rw [isLongestLexeme_iff] at h ⊢
  rwa [hhead]

/-- A string literal that lacks its closing quote is a longest lexeme at the end of the input only. -/
theorem IsLongestLexeme.closed_or_eq_nil (h : IsLongestLexeme .string text cs rest) :
    ∃ quote, (quote = '"' ∨ quote = '\'') ∧ quote ∉ text ∧
      (cs = quote :: text ++ [quote] ∨ cs = quote :: text ∧ rest = []) := by
  obtain ⟨hlexeme, hnext⟩ := isLongestLexeme_iff.1 h
  generalize hkind : TokenKind.string = kind at hlexeme
  cases hlexeme with
  | closed isQuote not_mem => exact ⟨_, isQuote, not_mem, .inl rfl⟩
  | unclosed isQuote not_mem =>
    refine ⟨_, isQuote, not_mem, .inr ⟨rfl, ?_⟩⟩
    cases rest with
    | nil => rfl
    | cons d rest => exact absurd (isSomeLexeme_unclosed_snoc isQuote not_mem d) (hnext d rfl)
  | delimiter mem =>
    subst hkind
    simp [delimiters] at mem
  | _ => cases hkind

/-- Of every other lexeme the characters are the text. -/
theorem IsLexeme.eq_text (h : IsLexeme kind text cs) (hkind : kind ≠ .string) : cs = text := by
  cases h with
  | closed _ _ | unclosed _ _ => exact absurd rfl hkind
  | _ => rfl

end

/-! ## The lexeme that a scan takes -/

section

variable {kind : TokenKind} {text cs rest : List Char} {l : Lexeme}

theorem word_eq (cs : List Char) :
    Lexeme.word cs = .plain (if IsTruthWord cs then .boolean else .identifier) cs := rfl

theorem lexeme?_eq_operator? {c : Char} (h : c ∈ operatorChars ∨ ∃ d, (c, d) ∈ operatorPairs) (rest : List Char) :
    lexeme? (c :: rest) = Lexeme.operator? (c :: rest) := by
  have hmem : c ∈ operatorChars ++ operatorPairs.map Prod.fst := by
    rw [List.mem_append, List.mem_map]
    exact h.imp_right fun ⟨d, hd⟩ => ⟨(c, d), hd, rfl⟩
  have hall : (operatorChars ++ operatorPairs.map Prod.fst).all (fun c =>
      !c.isDigit && !isNameStart c && !(['"', '\'', '(', ')', ','].contains c)) = true := by decide +kernel
  have hnot := List.all_eq_true.1 hall c hmem
  simp only [Bool.and_eq_true, Bool.not_eq_true', List.contains_eq_mem, decide_eq_false_iff_not, List.mem_cons,
    List.not_mem_nil, not_or] at hnot
  obtain ⟨⟨hdigit, hname⟩, hdouble, hsingle, hleft, hright, hcomma, -⟩ := hnot
  simp [lexeme?, hdigit, hname, hdouble, hsingle, hleft, hright, hcomma]

/-- The longest lexeme is taken. -/
theorem IsLongestLexeme.lexeme?_eq (h : IsLongestLexeme kind text cs rest) :
    lexeme? (cs ++ rest) = some ⟨kind, text, cs.length⟩ := by
  obtain ⟨hlexeme, hnext⟩ := isLongestLexeme_iff.1 h
  cases hlexeme with
  | number isNumber =>
    refine lexeme?_number isNumber fun d hd => Bool.eq_false_iff.2 fun hchar => hnext d hd ?_
    exact (IsLexeme.number (isNumber.snoc hchar)).some
  | boolean isTruthWord =>
    have hstop : ∀ d ∈ rest.head?, isNameChar d = false := fun d hd => Bool.eq_false_iff.2 fun hchar =>
      hnext d hd (isTruthWord.isName.snoc hchar).isSomeLexeme
    rw [lexeme?_name isTruthWord.isName hstop, word_eq, if_pos isTruthWord, Lexeme.plain]
  | identifier isName not_truthWord =>
    have hstop : ∀ d ∈ rest.head?, isNameChar d = false := fun d hd => Bool.eq_false_iff.2 fun hchar =>
      hnext d hd (isName.snoc hchar).isSomeLexeme
    rw [lexeme?_name isName hstop, word_eq, if_neg not_truthWord, Lexeme.plain]
  | @closed quote text isQuote not_mem =>
    rw [List.append_assoc, List.cons_append, lexeme?_quote isQuote, List.singleton_append, quoted_of_closed not_mem]
    simp
  | @unclosed quote text isQuote not_mem =>
    cases rest with
    | nil =>
      have htake : text.takeWhile (· ≠ quote) = text :=
        List.takeWhile_eq_self_iff.2 fun c hc => by simpa using ne_of_mem_of_not_mem hc not_mem
      rw [List.append_nil, lexeme?_quote isQuote, Lexeme.quoted, htake, if_neg (Nat.lt_irrefl _), List.length_cons]
    | cons d rest => exact absurd (isSomeLexeme_unclosed_snoc isQuote not_mem d) (hnext d rfl)
  | delimiter mem =>
    simp only [delimiters, List.mem_cons, Prod.mk.injEq, List.not_mem_nil, or_false] at mem
    rcases mem with ⟨rfl, rfl⟩ | ⟨rfl, rfl⟩ | ⟨rfl, rfl⟩ <;> rfl
  | @pair c d mem =>
    rw [List.cons_append, lexeme?_eq_operator? (.inr ⟨d, mem⟩), List.cons_append, Lexeme.operator?, if_pos mem]
    rfl
  | @single c mem =>
    rw [List.cons_append, lexeme?_eq_operator? (.inl mem), List.nil_append]
    cases rest with
    | nil =>
      rw [Lexeme.operator?, if_pos mem]
      rfl
    | cons d rest =>
      have hpair : (c, d) ∉ operatorPairs := fun hmem => hnext d rfl (IsLexeme.pair hmem).some
      rw [Lexeme.operator?, if_neg hpair, if_pos mem]
      rfl

/-- Behind a lexeme at the front of a text there is a longest one. -/
theorem exists_isLongestLexeme : ∀ {cs : List Char} (rest : List Char), IsSomeLexeme cs →
    ∃ kind text front more, cs ++ rest = front ++ more ∧ IsLongestLexeme kind text front more
  | cs, [], ⟨kind, text, h⟩ => ⟨kind, text, cs, [], rfl, isLongestLexeme_iff.2 ⟨h, by simp⟩⟩
  | cs, d :: rest, ⟨kind, text, h⟩ => by
    by_cases hsome : IsSomeLexeme (cs ++ [d])
    · have hlonger := exists_isLongestLexeme rest hsome
      rwa [List.append_assoc, List.singleton_append] at hlonger
    · refine ⟨kind, text, cs, d :: rest, rfl, isLongestLexeme_iff.2 ⟨h, fun e he => ?_⟩⟩
      rwa [← Option.some.inj he]

theorem startsLexeme_of_operator? (h : Lexeme.operator? cs = some l) : StartsLexeme cs := by
  unfold Lexeme.operator? at h
  split at h
  · cases h
  · rename_i c
    split at h
    · exact ⟨[c], [], rfl, (IsLexeme.single ‹_›).some⟩
    · cases h
  · rename_i c d rest
    split at h
    · exact ⟨[c, d], rest, rfl, (IsLexeme.pair ‹_›).some⟩
    · split at h
      · exact ⟨[c], d :: rest, rfl, (IsLexeme.single ‹_›).some⟩
      · cases h

/-- Where a scan takes something a lexeme stands. -/
theorem startsLexeme_of_lexeme? (h : lexeme? cs = some l) : StartsLexeme cs := by
  cases cs with
  | nil => cases h
  | cons c rest =>
    cases lexemeAt_of_lexeme? h with
    | number digit =>
      have hnumber : IsNumber [c] := ⟨digit, by simp⟩
      exact ⟨[c], rest, rfl, (IsLexeme.number hnumber).some⟩
    | word start => exact ⟨[c], rest, rfl, IsName.isSomeLexeme ⟨start, by simp⟩⟩
    | quoted quote => exact ⟨[c], rest, rfl, (IsLexeme.unclosed quote (by simp)).some⟩
    | delimiter mem => exact ⟨[c], rest, rfl, (IsLexeme.delimiter mem).some⟩
    | pair mem =>
      rw [lexeme?_eq_operator? (.inr ⟨_, mem⟩)] at h
      exact startsLexeme_of_operator? h
    | single mem => exact ⟨[c], rest, rfl, (IsLexeme.single mem).some⟩

/-- **A scan takes the longest lexeme** at the front of a text. -/
theorem lexeme?_eq_some_iff : lexeme? cs = some l ↔
    ∃ front rest, cs = front ++ rest ∧ IsLongestLexeme l.kind l.text front rest ∧ front.length = l.width := by
  constructor
  · intro h
    obtain ⟨front, rest, rfl, hsome⟩ := startsLexeme_of_lexeme? h
    obtain ⟨kind, text, front', rest', happend, hlongest⟩ := exists_isLongestLexeme rest hsome
    rw [happend, hlongest.lexeme?_eq] at h
    cases h
    exact ⟨front', rest', happend, hlongest, rfl⟩
  · rintro ⟨front, rest, rfl, hlongest, hwidth⟩
    rw [hlongest.lexeme?_eq, hwidth]

/-- **A scan is stuck** where no lexeme stands. -/
theorem lexeme?_eq_none_iff : lexeme? cs = none ↔ ¬StartsLexeme cs := by
  constructor
  · rintro h ⟨front, rest, rfl, hsome⟩
    obtain ⟨kind, text, front', rest', happend, hlongest⟩ := exists_isLongestLexeme rest hsome
    rw [happend, hlongest.lexeme?_eq] at h
    cases h
  · intro h
    cases hl : lexeme? cs with
    | none => rfl
    | some l => exact absurd (startsLexeme_of_lexeme? hl) h

end

end Formula
