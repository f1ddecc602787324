import Formula.Token
import Formula.Unicode.Alphabetic
import Formula.Unicode.WhiteSpace

/-!
# Scanning

A formula is cut into tokens from left to right. White space is skipped, then the longest lexeme at the front is taken;
a character that starts no lexeme stops the scan where it stands.

* `lexeme?` : the longest lexeme at the front of a text.
* `Scanner.next` : one step of a scan.
* `Scanner.tokens`, `tokenize` : the tokens of a whole text, the last of them the end of the input.
-/

namespace Formula

/-- The only fault of a scan: no lexeme starts with this character. -/
structure UnknownCharacter where
  char : Char
  position : Nat
  deriving DecidableEq, Repr

def UnknownCharacter.message (e : UnknownCharacter) : String :=
  "Unknown character '" ++ e.char.toString ++ "' at position " ++ toString e.position

/-! ## Lexemes -/

/-- A token's kind and text, and how many characters its lexeme takes. -/
structure Lexeme where
  kind : TokenKind
  text : List Char
  width : Nat
  deriving DecidableEq, Repr

/-- A number goes on over digits and points; whether it denotes anything is for the parser to say. -/
def isNumberChar (c : Char) : Bool := c.isDigit || c = '.'

def isNameStart (c : Char) : Bool := Unicode.isAlphabetic c || c = '_'

/-- A name goes on over letters, numbers, underscores and points. -/
def isNameChar (c : Char) : Bool := Unicode.isAlphanumeric c || c = '_' || c = '.'

/-- The operators of two characters, which win over those of one. -/
def operatorPairs : List (Char × Char) :=
  [('=', '='), ('!', '='), ('<', '='), ('>', '='), ('&', '&'), ('|', '|')]

def operatorChars : List Char := ['+', '-', '*', '/', '%', '<', '>', '!']

namespace Lexeme

/-- The lexeme that takes exactly the characters of its text. -/
def plain (kind : TokenKind) (text : List Char) : Lexeme := ⟨kind, text, text.length⟩

/-- A name, or one of the two words for truth values. -/
def word (text : List Char) : Lexeme :=
  plain (if text = ['t', 'r', 'u', 'e'] ∨ text = ['f', 'a', 'l', 's', 'e'] then .boolean else .identifier) text

/-- A string literal after its opening quote: it runs to the next such quote, or to the end of the input. -/
def quoted (quote : Char) (rest : List Char) : Lexeme :=
  let text := rest.takeWhile (· ≠ quote)
  ⟨.string, text, if text.length < rest.length then text.length + 2 else text.length + 1⟩

/-- The longest operator at the front. -/
def operator? : List Char → Option Lexeme
  | [] => none
  | [c] => if c ∈ operatorChars then some (plain .operator [c]) else none
  | c :: d :: _ =>
    if (c, d) ∈ operatorPairs then some (plain .operator [c, d])
    else if c ∈ operatorChars then some (plain .operator [c])
    else none

end Lexeme

/-- The longest lexeme at the front of a text, which is not empty and starts with no white space. -/
def lexeme? (cs : List Char) : Option Lexeme :=
  match cs with
  | [] => none
  | c :: rest =>
    if c.isDigit then some (.plain .number (cs.takeWhile isNumberChar))
    else if isNameStart c then some (.word (cs.takeWhile isNameChar))
    else if c = '"' ∨ c = '\'' then some (.quoted c rest)
    else if c = '(' then some (.plain .leftParen [c])
    else if c = ')' then some (.plain .rightParen [c])
    else if c = ',' then some (.plain .comma [c])
    else Lexeme.operator? cs

/-! ## Scanners -/

/-- A place in a formula: the characters still to be read and the position of the first of them. -/
structure Scanner where
  position : Nat
  rest : List Char
  deriving DecidableEq, Repr

namespace Scanner

/-- The scanner at the start of a formula. -/
def ofText (formula : String) : Scanner := ⟨0, formula.toList⟩

/-- The scanner some characters further on. -/
def advance (s : Scanner) (width : Nat) : Scanner := ⟨s.position + width, s.rest.drop width⟩

def skipWhiteSpace (s : Scanner) : Scanner := s.advance (s.rest.takeWhile Unicode.isWhiteSpace).length

/-- The next token, and the scanner after it. White space in front is skipped whatever follows it, but an unknown
character is not, so asking again gives the same answer. -/
def next (s : Scanner) : Except UnknownCharacter Token × Scanner :=
  let s := s.skipWhiteSpace
  match s.rest with
  | [] => (.ok (.endOfInput s.position), s)
  | c :: _ =>
    match lexeme? s.rest with
    | some l => (.ok ⟨l.kind, String.ofList l.text, s.position⟩, s.advance l.width)
    | none => (.error ⟨c, s.position⟩, s)

/-- The answers of the given number of steps. -/
def steps : Nat → Scanner → List (Except UnknownCharacter Token)
  | 0, _ => []
  | n + 1, s => s.next.1 :: steps n s.next.2

/-! Every token but the last takes at least one character, so a scan ends. -/

theorem takeWhile_length_pos {p : Char → Bool} {c : Char} {rest : List Char} (h : p c = true) :
    0 < ((c :: rest).takeWhile p).length := by
  simp [h]

theorem isNumberChar_of_isDigit {c : Char} (h : c.isDigit = true) : isNumberChar c = true := by
  simp [isNumberChar, h]

theorem isNameChar_of_isNameStart {c : Char} (h : isNameStart c = true) : isNameChar c = true := by
  simp only [isNameStart, Bool.or_eq_true] at h
  rcases h with h | h <;> simp [isNameChar, Unicode.isAlphanumeric, h]

theorem operator?_width_pos {cs : List Char} {l : Lexeme} (h : Lexeme.operator? cs = some l) : 0 < l.width := by
  unfold Lexeme.operator? at h
  split at h
  · cases h
  · split at h
    · cases h; exact Nat.one_pos
    · cases h
  · split at h
    · cases h; exact Nat.two_pos
    · split at h
      · cases h; exact Nat.one_pos
      · cases h

/-- A lexeme is never empty. -/
theorem lexeme?_width_pos {cs : List Char} {l : Lexeme} (h : lexeme? cs = some l) : 0 < l.width := by
  unfold lexeme? at h
  split at h
  · cases h
  · rename_i c rest
    split at h
    · rename_i hd
      cases h
      exact takeWhile_length_pos (isNumberChar_of_isDigit hd)
    · split at h
      · rename_i hs
        cases h
        exact takeWhile_length_pos (isNameChar_of_isNameStart hs)
      · split at h
        · cases h
          simp only [Lexeme.quoted]
          split <;> omega
        · split at h
          · cases h; exact Nat.one_pos
          · split at h
            · cases h; exact Nat.one_pos
            · split at h
              · cases h; exact Nat.one_pos
              · exact operator?_width_pos h

theorem rest_length_next_lt {s s' : Scanner} {t : Token} (h : s.next = (.ok t, s')) (ht : t.isEnd = false) :
    s'.rest.length < s.rest.length := by
  unfold next at h
  simp only at h
  split at h
  · cases h
    simp [Token.isEnd, Token.endOfInput] at ht
  · rename_i c tail hc
    split at h
    · rename_i l hl
      cases h
      have hpos := lexeme?_width_pos hl
      have hskip : s.skipWhiteSpace.rest.length ≤ s.rest.length := by
        simp only [skipWhiteSpace, advance, List.length_drop]
        omega
      have hne : 0 < s.skipWhiteSpace.rest.length := by rw [hc]; exact Nat.succ_pos _
      simp only [advance, List.length_drop] at hne hskip ⊢
      omega
    · cases h

/-- All tokens from here on, the last of them the end of the input. -/
def tokens (s : Scanner) : Except UnknownCharacter (List Token) :=
  match h : s.next with
  | (.error e, _) => .error e
  | (.ok t, s') =>
    if ht : t.isEnd then .ok [t]
    else
      have : s'.rest.length < s.rest.length := rest_length_next_lt h (by simpa using ht)
      match tokens s' with
      | .error e => .error e
      | .ok ts => .ok (t :: ts)
termination_by s.rest.length

end Scanner

/-- The tokens of a formula. -/
def tokenize (formula : String) : Except UnknownCharacter (List Token) := (Scanner.ofText formula).tokens

end Formula
