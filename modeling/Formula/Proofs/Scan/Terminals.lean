import Formula.Proofs.Grammar
import Formula.Proofs.Unicode.WhiteSpace
import Formula.Scan

/-!
# The terminals of a text

What the grammar sees of a text does not depend on positions, so scanning is restated as a function of characters alone,
with one equation for each thing that may stand at the front.

* `LexemeAt` : what the lexeme at the front of a text may be.
* `terminals?` : the terminals of a text, if it has no unknown character.
* `terminals?_cons_of_isWhiteSpace`, `terminals?_cons` : what comes of the front of a text.
-/

namespace Formula

open Grammar

/-! ## Lexemes by their first character -/

/-- The delimiters with the kinds of their tokens. -/
def delimiters : List (Char × TokenKind) := [('(', .leftParen), (')', .rightParen), (',', .comma)]

/-- The lexemes that a character may open in front of the rest of a text. -/
inductive LexemeAt (c : Char) (rest : List Char) : Lexeme → Prop
  | number (digit : c.isDigit = true) : LexemeAt c rest (.plain .number ((c :: rest).takeWhile isNumberChar))
  | word (start : isNameStart c = true) : LexemeAt c rest (.word ((c :: rest).takeWhile isNameChar))
  | quoted (quote : c = '"' ∨ c = '\'') : LexemeAt c rest (.quoted c rest)
  | delimiter {kind : TokenKind} (mem : (c, kind) ∈ delimiters) : LexemeAt c rest (.plain kind [c])
  | pair {d : Char} (mem : (c, d) ∈ operatorPairs) : LexemeAt c rest (.plain .operator [c, d])
  | single (mem : c ∈ operatorChars) : LexemeAt c rest (.plain .operator [c])

theorem lexemeAt_of_operator? {c : Char} {rest : List Char} {l : Lexeme} (h : Lexeme.operator? (c :: rest) = some l) :
    LexemeAt c rest l := by
  cases rest with
  | nil =>
    rw [Lexeme.operator?] at h
    split at h
    · cases h
      exact .single ‹_›
    · cases h
  | cons d rest =>
    rw [Lexeme.operator?] at h
    split at h
    · cases h
      exact .pair ‹_›
    · split at h
      · cases h
        exact .single ‹_›
      · cases h

theorem lexemeAt_of_lexeme? {c : Char} {rest : List Char} {l : Lexeme} (h : lexeme? (c :: rest) = some l) :
    LexemeAt c rest l := by
  simp only [lexeme?] at h
  split at h
  · cases h
    exact .number ‹_›
  · split at h
    · cases h
      exact .word ‹_›
    · split at h
      · cases h
        exact .quoted ‹_›
      · split at h
        · rename_i hc
          cases h
          exact .delimiter (by simp [hc, delimiters])
        · split at h
          · rename_i hc
            cases h
            exact .delimiter (by simp [hc, delimiters])
          · split at h
            · rename_i hc
              cases h
              exact .delimiter (by simp [hc, delimiters])
            · exact lexemeAt_of_operator? h

/-- No lexeme stands for the end of the input. -/
theorem LexemeAt.kind_ne_endOfInput {c : Char} {rest : List Char} {l : Lexeme} (h : LexemeAt c rest l) :
    l.kind ≠ .endOfInput := by
  cases h with
  | word _ =>
    rw [Lexeme.word]
    split <;> simp [Lexeme.plain]
  | delimiter mem =>
    simp only [delimiters, List.mem_cons, Prod.mk.injEq, List.not_mem_nil, or_false] at mem
    rcases mem with ⟨-, rfl⟩ | ⟨-, rfl⟩ | ⟨-, rfl⟩ <;> simp [Lexeme.plain]
  | _ => simp [Lexeme.plain, Lexeme.quoted]

/-- Whether a lexeme may open with the character. -/
def opensLexeme (c : Char) : Bool :=
  c.isDigit || isNameStart c || c ∈ ['"', '\''] || c ∈ delimiters.map Prod.fst || c ∈ operatorPairs.map Prod.fst ||
    c ∈ operatorChars

theorem LexemeAt.opens {c : Char} {rest : List Char} {l : Lexeme} (h : LexemeAt c rest l) : opensLexeme c = true := by
  simp only [opensLexeme, Bool.or_eq_true, decide_eq_true_eq]
  cases h with
  | number digit => simp [digit]
  | word start => simp [start]
  | quoted quote => simp [quote]
  | delimiter mem => exact .inl (.inl (.inr (List.mem_map_of_mem mem)))
  | pair mem => exact .inl (.inr (List.mem_map_of_mem mem))
  | single mem => exact .inr mem

theorem lexeme?_eq_none {c : Char} (h : opensLexeme c = false) (rest : List Char) : lexeme? (c :: rest) = none := by
  cases hl : lexeme? (c :: rest) with
  | none => rfl
  | some l =>
    rw [(lexemeAt_of_lexeme? hl).opens] at h
    cases h

/-- No lexeme opens with white space. -/
theorem opensLexeme_of_isWhiteSpace {c : Char} (h : Unicode.isWhiteSpace c = true) : opensLexeme c = false := by
  have hnot := Unicode.forall_isWhiteSpace (p := fun c => !opensLexeme c) (by decide +kernel) h
  simpa using hnot

theorem LexemeAt.not_white {c : Char} {rest : List Char} {l : Lexeme} (h : LexemeAt c rest l) :
    Unicode.isWhiteSpace c = false := by
  cases hc : Unicode.isWhiteSpace c with
  | false => rfl
  | true =>
    have hopens := h.opens
    rw [opensLexeme_of_isWhiteSpace hc] at hopens
    cases hopens

/-! ## Scanning without positions -/

/-- The terminal that the lexeme is an occurrence of. -/
def Lexeme.terminal (l : Lexeme) : Terminal := Token.terminal ⟨l.kind, String.ofList l.text, 0⟩

/-- The terminals from here on, the last of them the end of the input. -/
def Scanner.terminals? (s : Scanner) : Option (List Terminal) :=
  s.tokens.toOption.map fun ts => ts.map Token.terminal

/-- The terminals of a text. -/
def terminals? (cs : List Char) : Option (List Terminal) := Scanner.terminals? ⟨0, cs⟩

namespace Scanner

theorem tokens_of_error {s s' : Scanner} {e : UnknownCharacter} (h : s.next = (.error e, s')) :
    s.tokens = .error e := by
  rw [tokens]
  split
  · rename_i he
    rw [h] at he
    cases he
    rfl
  · rename_i he
    rw [h] at he
    cases he

theorem tokens_of_ok {s s' : Scanner} {t : Token} (h : s.next = (.ok t, s')) :
    s.tokens = if t.isEnd then .ok [t] else s'.tokens.map (t :: ·) := by
  rw [tokens]
  split
  · rename_i he
    rw [h] at he
    cases he
  · rename_i he
    rw [h] at he
    cases he
    split
    · rfl
    · cases s'.tokens <;> rfl

/-- At the end of the input. -/
theorem tokens_of_nil {s : Scanner} (h : s.skipWhiteSpace.rest = []) :
    s.tokens = .ok [.endOfInput s.skipWhiteSpace.position] := by
  have hnext : s.next = (.ok (.endOfInput s.skipWhiteSpace.position), s.skipWhiteSpace) := by
    simp only [next, h]
  rw [tokens_of_ok hnext]
  rfl

theorem terminals?_of_nil {s : Scanner} (h : s.skipWhiteSpace.rest = []) : s.terminals? = some [.endOfInput] := by
  rw [terminals?, tokens_of_nil h]
  rfl

/-- In front of a lexeme or of an unknown character. -/
theorem terminals?_of_cons {s : Scanner} {c : Char} {cs : List Char} (h : s.skipWhiteSpace.rest = c :: cs) :
    s.terminals? = (lexeme? (c :: cs)).bind fun l =>
      (s.skipWhiteSpace.advance l.width).terminals?.map (l.terminal :: ·) := by
  rw [terminals?]
  cases hl : lexeme? (c :: cs) with
  | none =>
    have hnext : s.next = (.error ⟨c, s.skipWhiteSpace.position⟩, s.skipWhiteSpace) := by
      simp only [next, h, hl]
    rw [tokens_of_error hnext]
    rfl
  | some l =>
    have hnext : s.next =
        (.ok ⟨l.kind, String.ofList l.text, s.skipWhiteSpace.position⟩, s.skipWhiteSpace.advance l.width) := by
      simp only [next, h, hl]
    have hend : Token.isEnd ⟨l.kind, String.ofList l.text, s.skipWhiteSpace.position⟩ = false := by
      simpa [Token.isEnd] using (lexemeAt_of_lexeme? hl).kind_ne_endOfInput
    rw [tokens_of_ok hnext, hend, Option.bind_some, terminals?]
    cases (s.skipWhiteSpace.advance l.width).tokens <;> rfl

/-- Skipping drops the white space at the front. -/
theorem rest_skipWhiteSpace (s : Scanner) : s.skipWhiteSpace.rest = s.rest.dropWhile Unicode.isWhiteSpace := by
  rw [skipWhiteSpace, advance]
  exact (congrArg (List.drop _) List.takeWhile_append_dropWhile.symm).trans List.drop_left

theorem length_rest_skipWhiteSpace_le (s : Scanner) : s.skipWhiteSpace.rest.length ≤ s.rest.length := by
  rw [rest_skipWhiteSpace]
  exact (List.dropWhile_sublist _).length_le

/-- Positions do not matter. -/
theorem terminals?_congr : ∀ {s s' : Scanner}, s.rest = s'.rest → s.terminals? = s'.terminals?
  | s, s', h => by
    have hskip : s.skipWhiteSpace.rest = s'.skipWhiteSpace.rest := by
      rw [rest_skipWhiteSpace, rest_skipWhiteSpace, h]
    cases hrest : s'.skipWhiteSpace.rest with
    | nil => rw [terminals?_of_nil hrest, terminals?_of_nil (hskip.trans hrest)]
    | cons c cs =>
      rw [terminals?_of_cons hrest, terminals?_of_cons (hskip.trans hrest)]
      cases hl : lexeme? (c :: cs) with
      | none => rfl
      | some l =>
        have hadvance : (s.skipWhiteSpace.advance l.width).rest = (s'.skipWhiteSpace.advance l.width).rest := by
          simp only [advance, hskip]
        have hlength : (s.skipWhiteSpace.advance l.width).rest.length < s.rest.length := by
          have hpos := lexeme?_width_pos hl
          have hle := length_rest_skipWhiteSpace_le s
          rw [hskip, hrest, List.length_cons] at hle
          rw [advance, hskip, hrest, List.length_drop, List.length_cons]
          omega
        rw [Option.bind_some, Option.bind_some, terminals?_congr hadvance]
termination_by s => s.rest.length

end Scanner

/-! ## What comes of the front of a text -/

theorem terminals?_nil : terminals? [] = some [.endOfInput] := Scanner.terminals?_of_nil rfl

theorem terminals?_cons_of_isWhiteSpace {c : Char} (h : Unicode.isWhiteSpace c = true) (cs : List Char) :
    terminals? (c :: cs) = terminals? cs := by
  have hskip : (Scanner.skipWhiteSpace ⟨0, c :: cs⟩).rest = (Scanner.skipWhiteSpace ⟨0, cs⟩).rest := by
    rw [Scanner.rest_skipWhiteSpace, Scanner.rest_skipWhiteSpace, List.dropWhile_cons_of_pos h]
  rw [terminals?, terminals?]
  cases hrest : (Scanner.skipWhiteSpace ⟨0, cs⟩).rest with
  | nil => rw [Scanner.terminals?_of_nil hrest, Scanner.terminals?_of_nil (hskip.trans hrest)]
  | cons d ds =>
    rw [Scanner.terminals?_of_cons hrest, Scanner.terminals?_of_cons (hskip.trans hrest)]
    have hadvance (width : Nat) : ((Scanner.skipWhiteSpace ⟨0, c :: cs⟩).advance width).rest =
        ((Scanner.skipWhiteSpace ⟨0, cs⟩).advance width).rest := by
      simp only [Scanner.advance, hskip]
    simp only [Scanner.terminals?_congr (hadvance _)]

theorem skipWhiteSpace_rest_of_not_white {c : Char} (h : Unicode.isWhiteSpace c = false) (position : Nat)
    (rest : List Char) : (Scanner.skipWhiteSpace ⟨position, c :: rest⟩).rest = c :: rest := by
  rw [Scanner.rest_skipWhiteSpace, List.dropWhile_cons_of_neg (by simp [h])]

/-- The lexeme at the front, and then what comes of the text behind it. -/
theorem terminals?_cons {c : Char} (h : Unicode.isWhiteSpace c = false) (cs : List Char) :
    terminals? (c :: cs) = (lexeme? (c :: cs)).bind fun l =>
      (terminals? ((c :: cs).drop l.width)).map (l.terminal :: ·) := by
  have hskip := skipWhiteSpace_rest_of_not_white h 0 cs
  have hmore (width : Nat) : ((Scanner.skipWhiteSpace ⟨0, c :: cs⟩).advance width).terminals? =
      terminals? ((c :: cs).drop width) := by
    refine Scanner.terminals?_congr ?_
    rw [Scanner.advance, hskip]
  rw [terminals?, Scanner.terminals?_of_cons hskip]
  simp only [hmore]

theorem terminals?_of_lexeme? {cs : List Char} {l : Lexeme} (h : lexeme? cs = some l) :
    terminals? cs = (terminals? (cs.drop l.width)).map (l.terminal :: ·) := by
  cases cs with
  | nil => cases h
  | cons c cs => rw [terminals?_cons (lexemeAt_of_lexeme? h).not_white, h, Option.bind_some]

theorem terminals?_eq_none {c : Char} (hwhite : Unicode.isWhiteSpace c = false) (hopens : opensLexeme c = false)
    (cs : List Char) : terminals? (c :: cs) = none := by
  rw [terminals?_cons hwhite, lexeme?_eq_none hopens, Option.bind_none]

end Formula
