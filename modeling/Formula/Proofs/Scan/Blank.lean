import Formula.Proofs.Scan.Terminals

/-!
# Blank texts

Trimming a text and scanning it agree on what white space is.

* `tokenize_eq_endOfInput_iff` : a text is blank when the end of the input is its only token.
-/

namespace Formula

/-- **Scanning** finds nothing but the end of the input in a blank text only. -/
theorem Scanner.tokens_eq_endOfInput_iff {s : Scanner} :
    (∃ position, s.tokens = .ok [.endOfInput position]) ↔ Unicode.isBlank s.rest = true := by
  rw [← Unicode.dropWhile_eq_nil_iff, ← rest_skipWhiteSpace]
  constructor
  · rintro ⟨position, htokens⟩
    cases hrest : s.skipWhiteSpace.rest with
    | nil => rfl
    | cons c cs =>
      have hterminals : s.terminals? = some [.endOfInput] := by
        rw [terminals?, htokens]
        rfl
      rw [terminals?_of_cons hrest] at hterminals
      obtain ⟨l, hl, hmore⟩ := Option.bind_eq_some_iff.1 hterminals
      obtain ⟨ws, -, hcons⟩ := Option.map_eq_some_iff.1 hmore
      exact absurd (Token.kind_of_terminal (List.cons.inj hcons).1) (lexemeAt_of_lexeme? hl).kind_ne_endOfInput
  · intro hrest
    exact ⟨_, tokens_of_nil hrest⟩

theorem tokenize_eq_endOfInput_iff {formula : String} :
    (∃ position, tokenize formula = .ok [.endOfInput position]) ↔ Unicode.isBlank formula.toList = true :=
  Scanner.tokens_eq_endOfInput_iff

end Formula
