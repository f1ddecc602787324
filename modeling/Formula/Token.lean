/-!
# Tokens

The words of a formula, each with its kind, its text and the position of its first character. The text of a string
literal is what stands between the quotes.
-/

namespace Formula

/-- The kinds of token. -/
inductive TokenKind
  | number
  | string
  | boolean
  | identifier
  | operator
  | leftParen
  | rightParen
  | comma
  | endOfInput
  deriving DecidableEq, Repr

/-- A word of a formula; positions count characters from zero. -/
structure Token where
  kind : TokenKind
  text : String
  position : Nat
  deriving DecidableEq, Repr

namespace Token

/-- The token that stands for the end of the input. -/
def endOfInput (position : Nat) : Token := ⟨.endOfInput, "", position⟩

def isEnd (t : Token) : Bool := t.kind = .endOfInput

/-- Whether the token is an operator with one of the given symbols. -/
def isOperator (t : Token) (symbols : List String) : Bool :=
  t.kind = .operator && symbols.contains t.text

/-- How a message names the token. -/
def describe (t : Token) : String :=
  match t.kind with
  | .endOfInput => "end of input"
  | .string => "'" ++ t.text ++ "'"
  | _ => t.text

/-- The token without its place in a text. -/
def unplaced (t : Token) : Token := { t with position := 0 }

/-- The position after the last character of the token's text. -/
def textEnd (t : Token) : Nat := t.position + t.text.length

end Token
end Formula
