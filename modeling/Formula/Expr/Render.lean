import Formula.Expr

/-!
# Rendering

The text of an expression as a formula, with parentheses around every binary node, so that no precedence is appealed
to. A text goes between single quotes unless it holds one; one that holds both kinds of quote has no formula of its own
and is written all the same.
-/

namespace Formula

/-- A text between quotes that it does not hold, if there are any. -/
def quotedText (s : String) : List Char :=
  let quote := if '\'' ∈ s.toList then '"' else '\''
  quote :: s.toList ++ [quote]

/-- The characters of a literal in a formula. -/
def Value.literalChars : Value → List Char
  | .string s => quotedText s
  | v => v.text.toList

namespace Expr

mutual

/-- The characters of the expression, followed by more. -/
def renderOnto : Expr → List Char → List Char
  | literal v, rest => v.literalChars ++ rest
  | field f, rest => f.key.toList ++ rest
  | binary l op r, rest =>
    '(' :: renderOnto l (' ' :: (op.symbol.toList ++ ' ' :: renderOnto r (')' :: rest)))
  | call name args, rest => name.toList ++ '(' :: renderArgsOnto args (')' :: rest)

/-- The characters of an argument list, separated by commas and followed by more. -/
def renderArgsOnto : List Expr → List Char → List Char
  | [], rest => rest
  | [e], rest => renderOnto e rest
  | e :: es, rest => renderOnto e (',' :: ' ' :: renderArgsOnto es rest)

end

/-- The text of the expression as a formula. -/
def render (e : Expr) : String := String.ofList (e.renderOnto [])

end Expr
end Formula
