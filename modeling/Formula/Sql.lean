import Formula.Expr

/-!
# SQL

The SQL text of an expression. Every binary node has its own parentheses, and quoted text doubles the closing quote, so
that the text does not depend on the precedence of the target. Names of functions are passed on without a check.
-/

namespace Formula

/-- The ways to quote the name of a column. -/
inductive Dialect
  | sqlServer
  | postgres
  | generic
  deriving DecidableEq, Repr

namespace Sql

/-- A text in which the given character is written twice wherever it stands. -/
def doubled (quote : Char) : List Char → List Char
  | [] => []
  | c :: rest => if c = quote then c :: c :: doubled quote rest else c :: doubled quote rest

/-- A text between an opening and a closing quote, the latter doubled inside. -/
def quoted (opening closing : Char) (cs : List Char) : List Char :=
  opening :: (doubled closing cs ++ [closing])

/-- The name of a column: brackets, double quotes, or the bare name. -/
def identifier : Dialect → List Char → List Char
  | .sqlServer, cs => quoted '[' ']' cs
  | .postgres, cs => quoted '"' '"' cs
  | .generic, cs => cs

/-- A literal: truth values are one and zero, and a number that is not finite has no literal and becomes null. -/
def literal : Value → List Char
  | .null => ['N', 'U', 'L', 'L']
  | .boolean b => if b then ['1'] else ['0']
  | .number x => if x.isFinite then x.chars else ['N', 'U', 'L', 'L']
  | .string s => quoted '\'' '\'' s.toList

end Sql

/-- A name quoted for the dialect. -/
def Dialect.quote (d : Dialect) (name : String) : String := String.ofList (Sql.identifier d name.toList)

/-- The SQL text of a value. -/
def Value.toSql (v : Value) : String := String.ofList (Sql.literal v)

namespace Expr

mutual

/-- The characters of the expression in SQL, followed by more. A global field is a column like any other. -/
def sqlOnto (d : Dialect) : Expr → List Char → List Char
  | literal v, rest => Sql.literal v ++ rest
  | field f, rest => Sql.identifier d f.name.toList ++ rest
  | binary l op r, rest =>
    '(' :: sqlOnto d l (' ' :: (op.sqlSymbol.toList ++ ' ' :: sqlOnto d r (')' :: rest)))
  | call name args, rest => Unicode.upperCase name.toList ++ '(' :: sqlArgsOnto d args (')' :: rest)

/-- The characters of an argument list in SQL, separated by commas and followed by more. -/
def sqlArgsOnto (d : Dialect) : List Expr → List Char → List Char
  | [], rest => rest
  | [e], rest => sqlOnto d e rest
  | e :: es, rest => sqlOnto d e (',' :: ' ' :: sqlArgsOnto d es rest)

end

/-- The SQL text of the expression. -/
def toSql (d : Dialect) (e : Expr) : String := String.ofList (e.sqlOnto d [])

end Expr
end Formula
