import Formula.Context

/-!
# Writing JSON

Scalar values as JSON texts, and contexts as JSON objects. A number is written by its shortest decimal, of two equally
near ones the even one: positionally and with at least one decimal when its exponent lies between -5 and 15, and else as
a power of ten.
-/

namespace Formula.Json

/-! ## Strings -/

/-- A digit of a base up to sixteen, letters in lower case. -/
def hexDigit (n : Nat) : Char := Nat.digitChar n

/-- The characters that stand for one character of a string. -/
def escapeChar (c : Char) : List Char :=
  if c = '"' then ['\\', '"']
  else if c = '\\' then ['\\', '\\']
  else if c = '\n' then ['\\', 'n']
  else if c = '\r' then ['\\', 'r']
  else if c = '\t' then ['\\', 't']
  else if c.toNat = 0x08 then ['\\', 'b']
  else if c.toNat = 0x0C then ['\\', 'f']
  else if c.toNat < 0x20 then ['\\', 'u', '0', '0', hexDigit (c.toNat / 16), hexDigit (c.toNat % 16)]
  else [c]

/-- A string in double quotes. -/
def stringChars (cs : List Char) : List Char := '"' :: (cs.flatMap escapeChar ++ ['"'])

/-! ## Numbers -/

/-- The least and the greatest decimal exponent that are written without an exponent. -/
def positionalExponents : Int × Int := (-5, 15)

/-- A decimal by its first digit, the others behind a point, and the exponent of the first one with its sign. -/
def scientific (digits : List Char) (exponent : Int) : List Char :=
  let mantissa :=
    match digits with
    | [] => []
    | [d] => [d]
    | d :: rest => d :: '.' :: rest
  let sign := if exponent < 0 then '-' else '+'
  mantissa ++ 'e' :: sign :: Nat.toDigits 10 exponent.natAbs

/-- A decimal that is not zero. -/
def decimalChars (d : Binary64.Decimal) : List Char :=
  let digits := Nat.toDigits 10 d.coefficient
  let exponent : Int := (digits.length : Int) - 1 + d.place - Binary64.places
  if positionalExponents.1 ≤ exponent ∧ exponent ≤ positionalExponents.2 then
    let cs := Binary64.positional d
    if '.' ∈ cs then cs else cs ++ ['.', '0']
  else scientific (Binary64.dropTrailingZeros digits) exponent

/-- A number; one that is not finite is `null`. -/
def numberChars : Binary64 → List Char
  | .finite negative k =>
    Binary64.withSign negative
      (if k.val = 0 then ['0', '.', '0'] else decimalChars (Binary64.shortest .toEven k))
  | _ => ['n', 'u', 'l', 'l']

end Json

/-- The characters of the value as a JSON text. -/
def Value.jsonChars : Value → List Char
  | .null => ['n', 'u', 'l', 'l']
  | .boolean b => if b then ['t', 'r', 'u', 'e'] else ['f', 'a', 'l', 's', 'e']
  | .number x => Json.numberChars x
  | .string s => Json.stringChars s.toList

/-- The value as a JSON text. -/
def Value.toJson (v : Value) : String := String.ofList v.jsonChars

/-! ## Objects -/

/-- A member of an object. -/
def Json.memberChars (entry : String × Value) : List Char := stringChars entry.1.toList ++ ':' :: entry.2.jsonChars

/-- Members with commas between them. -/
def Json.membersChars : List (String × Value) → List Char
  | [] => []
  | [entry] => memberChars entry
  | entry :: rest => memberChars entry ++ ',' :: membersChars rest

/-- The context as a JSON object, with its entries in their order. -/
def Context.toJson (c : Context) : String := String.ofList ('{' :: (Json.membersChars c.entries ++ ['}']))

end Formula
