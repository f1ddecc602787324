import Formula.Proofs.Binary64.Numeral
import Formula.Proofs.Scan.Terminals
import Formula.Proofs.Spans

/-!
# Words and what they scan to

* `Delimited` : texts that no word in front of them runs into.
* `terminals?_number_append`, `terminals?_name_append`, `terminals?_quoted_append`, `terminals?_operator_append` : a
  word in front of such a text is scanned as a whole.
* `terminals?_dotted_append` : a name with the combining dot in it is not scanned at all.
* `terminals?_induction` : induction over what is scanned.
* `Terminal.Lexical`, `lexical_of_terminals?` : what is known of the texts of scanned words.
-/

namespace Formula

open Grammar

/-! ## Words in front of a delimiter -/

/-- The characters in front of which every word ends. -/
def wordEnds : List Char := [' ', '(', ')', ',']

/-- The text is empty or opens with a blank or a delimiter. -/
def Delimited (rest : List Char) : Prop := ∀ c ∈ rest.head?, c ∈ wordEnds

theorem delimited_nil : Delimited [] := by
  simp [Delimited]

theorem delimited_cons {c : Char} (h : wordEnds.contains c = true) (rest : List Char) : Delimited (c :: rest) := by
  simpa [Delimited] using h

/-- A class of characters to which no delimiter belongs ends in front of such a text. -/
theorem Delimited.head_eq_false {p : Char → Bool} (hp : (wordEnds.all fun c => !p c) = true) {rest : List Char}
    (hrest : Delimited rest) : ∀ c ∈ rest.head?, p c = false := by
  intro c hc
  simpa using List.all_eq_true.1 hp c (hrest c hc)

/-- A digit and then digits and points. -/
def IsNumber : List Char → Prop
  | [] => False
  | c :: cs => c.isDigit = true ∧ ∀ d ∈ cs, isNumberChar d = true

/-- A name as a whole. -/
def IsName : List Char → Prop
  | [] => False
  | c :: cs => isNameStart c = true ∧ ∀ d ∈ cs, isNameChar d = true

theorem isName_of_all {c : Char} {cs : List Char} (hc : isNameStart c = true) (hcs : cs.all isNameChar = true) :
    IsName (c :: cs) := ⟨hc, List.all_eq_true.1 hcs⟩

theorem IsNumber.forall_mem {cs : List Char} (h : IsNumber cs) : ∀ c ∈ cs, isNumberChar c = true := by
  cases cs with
  | nil => simp
  | cons c cs => simpa [Scanner.isNumberChar_of_isDigit h.1] using h.2

theorem IsName.forall_mem {cs : List Char} (h : IsName cs) : ∀ c ∈ cs, isNameChar c = true := by
  cases cs with
  | nil => simp
  | cons c cs => simpa [Scanner.isNameChar_of_isNameStart h.1] using h.2

theorem isDigit_eq_false_of_isNameStart {c : Char} (h : isNameStart c = true) : c.isDigit = false := by
  cases hc : c.isDigit with
  | false => rfl
  | true =>
    have hnot := Binary64.forall_isDigit (p := fun c => !isNameStart c) (by decide +kernel) hc
    simp [h] at hnot

theorem terminals?_of_plain {kind : TokenKind} {cs rest : List Char}
    (h : lexeme? (cs ++ rest) = some (.plain kind cs)) :
    terminals? (cs ++ rest) = (terminals? rest).map ((Lexeme.plain kind cs).terminal :: ·) := by
  rw [terminals?_of_lexeme? h]
  simp [Lexeme.plain]

/-- A number that does not go on is taken as a whole. -/
theorem lexeme?_number {cs rest : List Char} (hcs : IsNumber cs) (hrest : ∀ c ∈ rest.head?, isNumberChar c = false) :
    lexeme? (cs ++ rest) = some (.plain .number cs) := by
  have htake := takeWhile_span hcs.forall_mem hrest
  cases cs with
  | nil => exact hcs.elim
  | cons c cs =>
    rw [List.cons_append] at htake ⊢
    simp only [lexeme?, hcs.1, if_true, htake]

theorem terminals?_number_append {cs rest : List Char} (hcs : IsNumber cs) (hrest : Delimited rest) :
    terminals? (cs ++ rest) = (terminals? rest).map (.number (String.ofList cs) :: ·) :=
  terminals?_of_plain (lexeme?_number hcs (hrest.head_eq_false (by decide)))

/-- The terminal that a name is scanned to: the two words for truth values are none. -/
def nameTerminal (name : String) : Terminal :=
  if name = "true" ∨ name = "false" then .boolean name else .identifier name

theorem word_terminal (cs : List Char) : (Lexeme.word cs).terminal = nameTerminal (String.ofList cs) := by
  have htrue : String.ofList cs = "true" ↔ cs = ['t', 'r', 'u', 'e'] := by
    rw [← String.toList_inj]
    simp
  have hfalse : String.ofList cs = "false" ↔ cs = ['f', 'a', 'l', 's', 'e'] := by
    rw [← String.toList_inj]
    simp
  simp only [nameTerminal, Lexeme.word, htrue, hfalse]
  split <;> rfl

/-- A name that does not go on is taken as a whole. -/
theorem lexeme?_name {cs rest : List Char} (hcs : IsName cs) (hrest : ∀ c ∈ rest.head?, isNameChar c = false) :
    lexeme? (cs ++ rest) = some (.word cs) := by
  have htake := takeWhile_span hcs.forall_mem hrest
  cases cs with
  | nil => exact hcs.elim
  | cons c cs =>
    rw [List.cons_append] at htake ⊢
    simp [lexeme?, isDigit_eq_false_of_isNameStart hcs.1, hcs.1, htake]

theorem terminals?_name {cs rest : List Char} (hcs : IsName cs) (hrest : ∀ c ∈ rest.head?, isNameChar c = false) :
    terminals? (cs ++ rest) = (terminals? rest).map (nameTerminal (String.ofList cs) :: ·) := by
  rw [terminals?_of_lexeme? (lexeme?_name hcs hrest), word_terminal]
  simp [Lexeme.word, Lexeme.plain]

theorem terminals?_name_append {cs rest : List Char} (hcs : IsName cs) (hrest : Delimited rest) :
    terminals? (cs ++ rest) = (terminals? rest).map (nameTerminal (String.ofList cs) :: ·) :=
  terminals?_name hcs (hrest.head_eq_false (by decide +kernel))

/-- A combining dot ends a name and opens nothing. -/
theorem terminals?_dotted_append {cs rest : List Char} (hcs : IsName cs) :
    terminals? (cs ++ Unicode.combiningDot :: rest) = none := by
  have hname : isNameChar Unicode.combiningDot = false := by decide +kernel
  have hrest : terminals? (Unicode.combiningDot :: rest) = none :=
    terminals?_eq_none (by decide +kernel) (by decide +kernel) rest
  rw [terminals?_name hcs (by simp [hname]), hrest]
  rfl

/-- A quote opens a string literal, whatever follows. -/
theorem lexeme?_quote {quote : Char} (hquote : quote = '"' ∨ quote = '\'') (rest : List Char) :
    lexeme? (quote :: rest) = some (.quoted quote rest) := by
  have hstart : quote.isDigit = false ∧ isNameStart quote = false := by
    rcases hquote with rfl | rfl <;> decide +kernel
  simp [lexeme?, hstart, hquote]

theorem quoted_of_closed {quote : Char} {cs : List Char} (hcs : quote ∉ cs) (rest : List Char) :
    Lexeme.quoted quote (cs ++ quote :: rest) = ⟨.string, cs, cs.length + 2⟩ := by
  have htake : (cs ++ quote :: rest).takeWhile (· ≠ quote) = cs := by
    refine takeWhile_span (fun c hc => ?_) (by simp)
    simpa using ne_of_mem_of_not_mem hc hcs
  rw [Lexeme.quoted, htake]
  simp

theorem terminals?_quoted_append {quote : Char} {cs : List Char} (hquote : quote = '"' ∨ quote = '\'')
    (hcs : quote ∉ cs) (rest : List Char) :
    terminals? (quote :: cs ++ quote :: rest) = (terminals? rest).map (.string (String.ofList cs) :: ·) := by
  rw [List.cons_append, terminals?_of_lexeme? (lexeme?_quote hquote _), quoted_of_closed hcs]
  simp [Lexeme.terminal, Token.terminal]

@[simp] theorem terminals?_cons_leftParen (rest : List Char) :
    terminals? ('(' :: rest) = (terminals? rest).map (.leftParen :: ·) :=
  terminals?_of_lexeme? (l := .plain .leftParen ['(']) rfl

@[simp] theorem terminals?_cons_rightParen (rest : List Char) :
    terminals? (')' :: rest) = (terminals? rest).map (.rightParen :: ·) :=
  terminals?_of_lexeme? (l := .plain .rightParen [')']) rfl

@[simp] theorem terminals?_cons_comma (rest : List Char) :
    terminals? (',' :: rest) = (terminals? rest).map (.comma :: ·) :=
  terminals?_of_lexeme? (l := .plain .comma [',']) rfl

@[simp] theorem terminals?_cons_blank (rest : List Char) : terminals? (' ' :: rest) = terminals? rest :=
  terminals?_cons_of_isWhiteSpace (by decide) rest

/-- An operator in front of a blank, which would not lengthen it. -/
theorem terminals?_operator_append (op : Operator) (rest : List Char) :
    terminals? (op.symbol.toList ++ ' ' :: rest) = (terminals? rest).map (.operator op.symbol :: ·) := by
  have hlexeme : lexeme? (op.symbol.toList ++ ' ' :: rest) = some (.plain .operator op.symbol.toList) := by
    cases op <;> rfl
  rw [terminals?_of_plain hlexeme, terminals?_cons_blank]
  simp [Lexeme.plain, Lexeme.terminal, Token.terminal]

/-! ## Scanned words -/

/-- What is known of the text of a scanned word. -/
def Terminal.Lexical : Terminal → Prop
  | number text => IsNumber text.toList
  | string text => '"' ∉ text.toList ∨ '\'' ∉ text.toList
  | boolean text => text = "true" ∨ text = "false"
  | identifier text => IsName text.toList ∧ text ≠ "true" ∧ text ≠ "false"
  | _ => True

theorem lexical_nameTerminal {cs : List Char} (h : IsName cs) : (nameTerminal (String.ofList cs)).Lexical := by
  unfold nameTerminal
  split
  · assumption
  · rename_i hne
    refine ⟨by simpa using h, ?_⟩
    exact not_or.1 hne

theorem isName_takeWhile {c : Char} (h : isNameStart c = true) (rest : List Char) :
    IsName ((c :: rest).takeWhile isNameChar) := by
  rw [List.takeWhile_cons_of_pos (Scanner.isNameChar_of_isNameStart h)]
  exact ⟨h, fun d hd => List.all_eq_true.1 List.all_takeWhile d hd⟩

theorem LexemeAt.lexical {c : Char} {rest : List Char} {l : Lexeme} (h : LexemeAt c rest l) : l.terminal.Lexical := by
  cases h with
  | number digit =>
    show IsNumber (String.ofList _).toList
    rw [String.toList_ofList, List.takeWhile_cons_of_pos (Scanner.isNumberChar_of_isDigit digit)]
    exact ⟨digit, fun d hd => List.all_eq_true.1 List.all_takeWhile d hd⟩
  | word start =>
    rw [word_terminal]
    exact lexical_nameTerminal (isName_takeWhile start rest)
  | quoted quote =>
    show '"' ∉ (String.ofList _).toList ∨ '\'' ∉ (String.ofList _).toList
    have hnot : c ∉ rest.takeWhile (· ≠ c) := fun hc => by simpa using List.all_eq_true.1 List.all_takeWhile c hc
    rw [String.toList_ofList]
    rcases quote with rfl | rfl
    · exact .inl hnot
    · exact .inr hnot
  | delimiter mem =>
    simp only [delimiters, List.mem_cons, Prod.mk.injEq, List.not_mem_nil, or_false] at mem
    rcases mem with ⟨-, rfl⟩ | ⟨-, rfl⟩ | ⟨-, rfl⟩ <;> trivial
  | pair _ => trivial
  | single _ => trivial

/-- What holds of the end of the input alone, and of a lexeme and what follows when it holds of that, holds of the
terminals of every text. -/
theorem terminals?_induction {motive : List Terminal → Prop} (done : motive [.endOfInput])
    (step : ∀ {c : Char} {rest : List Char} {l : Lexeme} {ws : List Terminal}, LexemeAt c rest l → motive ws →
      motive (l.terminal :: ws)) :
    ∀ {cs : List Char} {ws : List Terminal}, terminals? cs = some ws → motive ws
  | [], ws, h => by
    rw [terminals?_nil] at h
    cases h
    exact done
  | c :: cs, ws, h => by
    cases hwhite : Unicode.isWhiteSpace c with
    | true =>
      rw [terminals?_cons_of_isWhiteSpace hwhite] at h
      exact terminals?_induction done step h
    | false =>
      rw [terminals?_cons hwhite] at h
      obtain ⟨l, hl, h⟩ := Option.bind_eq_some_iff.1 h
      obtain ⟨more, hmore, rfl⟩ := Option.map_eq_some_iff.1 h
      have hpos := Scanner.lexeme?_width_pos hl
      exact step (lexemeAt_of_lexeme? hl) (terminals?_induction done step hmore)
termination_by cs => cs.length

/-- **The texts of scanned words** are words of their kind. -/
theorem lexical_of_terminals? {cs : List Char} {ws : List Terminal} (h : terminals? cs = some ws) :
    ∀ w ∈ ws, w.Lexical := by
  refine terminals?_induction (motive := fun ws => ∀ w ∈ ws, w.Lexical) ?_ ?_ h
  · simp [Terminal.Lexical]
  · intro c rest l ws hl ih w hw
    rcases List.mem_cons.1 hw with rfl | hw
    · exact hl.lexical
    · exact ih w hw

/-- The end of the input stands at the end and nowhere else. -/
theorem exists_eq_append_endOfInput {cs : List Char} {ws : List Terminal} (h : terminals? cs = some ws) :
    ∃ front, ws = front ++ [.endOfInput] ∧ .endOfInput ∉ front := by
  refine terminals?_induction (motive := fun ws => ∃ front, ws = front ++ [.endOfInput] ∧ .endOfInput ∉ front) ?_ ?_ h
  · exact ⟨[], rfl, List.not_mem_nil⟩
  · rintro c rest l _ hl ⟨front, rfl, hfront⟩
    refine ⟨l.terminal :: front, rfl, ?_⟩
    intro hmem
    rcases List.mem_cons.1 hmem with hend | hmem
    · exact hl.kind_ne_endOfInput (Token.kind_of_terminal hend.symm)
    · exact hfront hmem

end Formula
