import Formula.Sql

/-!
# Reading quoted text

In quoted text a closing quote is written twice, so a reader that takes a doubled closing quote for one and a single one
for the end finds the text again, whatever characters it has and whatever follows that does not open with a closing
quote.

* `readQuoted` : the reader.
* `readQuoted_doubled` : it reads back what is written.
* `quoted_append_inj` : hence quoted text tells what is quoted.
* `readToken`, `readToken_eq_some_iff` : the reader with the opening quote, which reads nothing but quoted text.
* `quoted_text_reads_back` : the literals and the column names of SQL text are read back.
-/

namespace Formula.Sql

/-- Reads quoted text from behind its opening quote: the text, and what follows the closing quote. -/
def readQuoted (closing : Char) : List Char → Option (List Char × List Char)
  | [] => none
  | [c] => if c = closing then some ([], []) else none
  | c :: d :: rest =>
    if c = closing then
      if d = closing then (readQuoted closing rest).map fun read => (c :: read.1, read.2) else some ([], d :: rest)
    else (readQuoted closing (d :: rest)).map fun read => (c :: read.1, read.2)

variable {closing : Char} {cs cs' rest rest' : List Char}

/-- A closing quote that no second one follows ends the text. -/
theorem readQuoted_closing (h : rest.head? ≠ some closing) :
    readQuoted closing (closing :: rest) = some ([], rest) := by
  cases rest with
  | nil => simp [readQuoted]
  | cons d rest =>
    have hd : d ≠ closing := by simpa using h
    simp [readQuoted, hd]

/-- Any other character stands for itself. -/
theorem readQuoted_cons {c : Char} (h : c ≠ closing) (rest : List Char) :
    readQuoted closing (c :: rest) = (readQuoted closing rest).map fun read => (c :: read.1, read.2) := by
  cases rest with
  | nil => simp [readQuoted, h]
  | cons d rest => simp [readQuoted, h]

/-- **Quoted text reads back**, and its reading ends where the text ends. -/
theorem readQuoted_doubled (cs : List Char) (h : rest.head? ≠ some closing) :
    readQuoted closing (doubled closing cs ++ closing :: rest) = some (cs, rest) := by
  induction cs with
  | nil => exact readQuoted_closing h
  | cons c cs ih =>
    rw [doubled]
    split
    · rename_i hc
      subst hc
      simp [readQuoted, ih]
    · rename_i hc
      rw [List.cons_append, readQuoted_cons hc, ih]
      rfl

/-- Quoted text in front of anything but another closing quote tells what is quoted. -/
theorem quoted_append_inj {opening : Char} (hrest : rest.head? ≠ some closing) (hrest' : rest'.head? ≠ some closing)
    (h : quoted opening closing cs ++ rest = quoted opening closing cs' ++ rest') : cs = cs' ∧ rest = rest' := by
  simp only [quoted, List.cons_append, List.append_assoc, List.nil_append, List.cons.injEq, true_and] at h
  have hread := congrArg (readQuoted closing) h
  rw [readQuoted_doubled cs hrest, readQuoted_doubled cs' hrest', Option.some_inj] at hread
  exact Prod.mk.inj hread

/-! ## Quoted tokens -/

/-- What is read is a text as it is written between quotes, and no closing quote follows. -/
theorem eq_doubled_of_readQuoted {input : List Char} (h : readQuoted closing input = some (cs, rest)) :
    input = doubled closing cs ++ closing :: rest ∧ rest.head? ≠ some closing := by
  fun_induction readQuoted closing input generalizing cs with
  | case1 => cases h
  | case2 =>
    cases h
    exact ⟨rfl, by simp⟩
  | case3 => cases h
  | case4 input ih =>
    obtain ⟨read, hread, heq⟩ := Option.map_eq_some_iff.1 h
    obtain ⟨rfl, rfl⟩ := Prod.mk.inj heq
    obtain ⟨rfl, hrest⟩ := ih hread
    exact ⟨by simp [doubled], hrest⟩
  | case5 d _ hd =>
    cases h
    exact ⟨rfl, by simpa using hd⟩
  | case6 c _ _ hc ih =>
    obtain ⟨read, hread, heq⟩ := Option.map_eq_some_iff.1 h
    obtain ⟨rfl, rfl⟩ := Prod.mk.inj heq
    obtain ⟨htext, hrest⟩ := ih hread
    exact ⟨by simp [doubled, hc, htext], hrest⟩

/-- Reads a quoted token: the text between its quotes, and what follows it. -/
def readToken (opening closing : Char) : List Char → Option (List Char × List Char)
  | [] => none
  | c :: rest => if c = opening then readQuoted closing rest else none

/-- **A quoted token is read** just where quoted text stands, and nothing more of the closing quote behind it. -/
theorem readToken_eq_some_iff {opening : Char} {input : List Char} : readToken opening closing input = some (cs, rest) ↔
    input = quoted opening closing cs ++ rest ∧ rest.head? ≠ some closing := by
  constructor
  · intro h
    cases input with
    | nil => cases h
    | cons c input =>
      rw [readToken] at h
      split at h
      · rename_i hc
        obtain ⟨rfl, hrest⟩ := eq_doubled_of_readQuoted h
        exact ⟨by simp [quoted, hc], hrest⟩
      · cases h
  · rintro ⟨rfl, hrest⟩
    simp [quoted, readToken, readQuoted_doubled cs hrest]

theorem readToken_quoted_iff {opening : Char} :
    readToken opening closing (quoted opening closing cs ++ rest) = some (cs, rest) ↔ rest.head? ≠ some closing := by
  rw [readToken_eq_some_iff, and_iff_right rfl]

/-- **Quoted SQL text cannot be broken out of**: a text literal, and a column name in the dialects that quote it, is
read back as the very text, up to the place where it ends and no further, in front of all that does not open with the
closing quote; a closing quote there would be taken for the second half of a doubled one. -/
theorem quoted_text_reads_back (s rest : String) :
    (readToken '\'' '\'' ((Value.string s).toSql ++ rest).toList = some (s.toList, rest.toList) ↔
      rest.toList.head? ≠ some '\'') ∧
    (readToken '[' ']' (Dialect.sqlServer.quote s ++ rest).toList = some (s.toList, rest.toList) ↔
      rest.toList.head? ≠ some ']') ∧
    (readToken '"' '"' (Dialect.postgres.quote s ++ rest).toList = some (s.toList, rest.toList) ↔
      rest.toList.head? ≠ some '"') := by
  simp only [Value.toSql, Dialect.quote, literal, identifier, String.toList_append, String.toList_ofList,
    readToken_quoted_iff, and_self]

/-- A text made of quotes alone, in front of a parenthesis. -/
example : readToken '\'' '\'' ((Value.string "''").toSql ++ ")").toList = some (['\'', '\''], [')']) := by
  decide +kernel

end Formula.Sql
