import Formula.Binary64.Nearest

/-!
# Reading numerals

The text of a number: an optional sign, then either one of the words `inf`, `infinity` and `nan` in any letter case, or
digits with at most one point and at least one digit on one side of it, and an optional exponent. The double it denotes
is the nearest one to its exact value.

* `Binary64.ofDecimal` : the double nearest to a decimal fraction.
* `Binary64.ofNumeral?` : the double denoted by a text.
-/

namespace Formula.Binary64

/-- Beyond this power of ten every non-zero multiple is infinite; below its inverse every small one is zero. -/
def exponentBound : Nat := 400

/-- The double nearest to `digits * 10 ^ exponent`. The first two tests keep the powers of ten within reach: the number
is surely infinite at the one, and at the other, as `digits < 2 ^ (log2 digits + 1)`, surely zero. -/
def ofDecimal (negative : Bool) (digits : Nat) (exponent : Int) : Binary64 :=
  if digits ≠ 0 ∧ (exponentBound : Int) < exponent then infinite negative
  else if digits = 0 ∨ exponent < -((digits.log2 + exponentBound : Nat) : Int) then zero negative
  else if 0 ≤ exponent then ofWhole negative (digits * 10 ^ exponent.toNat)
  else round negative (digits * unitsPerOne) (10 ^ (-exponent).toNat)

/-- Whether a minus sign opens the text, and what follows the sign. -/
def splitSign : List Char → Bool × List Char
  | '-' :: rest => (true, rest)
  | '+' :: rest => (false, rest)
  | rest => (false, rest)

/-- The digits after a decimal point, if one comes next, and what follows them. -/
def splitFraction : List Char → List Char × List Char
  | '.' :: rest => (rest.takeWhile Char.isDigit, rest.dropWhile Char.isDigit)
  | rest => ([], rest)

/-- The whole number that the text is, if it is digits alone. -/
def digitsOnly? (cs : List Char) : Option Nat :=
  if cs ≠ [] ∧ cs.all Char.isDigit then some (Nat.ofDigitChars 10 cs 0) else none

/-- The exponent that the text is: none at all counts as zero. -/
def exponent? : List Char → Option Int
  | [] => some 0
  | c :: rest =>
    if c = 'e' ∨ c = 'E' then
      let (negative, digits) := splitSign rest
      (digitsOnly? digits).map fun n => signed negative n
    else none

/-- The double denoted by digits with an optional point and exponent. -/
def ofDigits? (negative : Bool) (cs : List Char) : Option Binary64 :=
  let whole := cs.takeWhile Char.isDigit
  let (fraction, rest) := splitFraction (cs.dropWhile Char.isDigit)
  if whole = [] ∧ fraction = [] then none
  else (exponent? rest).map fun exponent =>
    ofDecimal negative (Nat.ofDigitChars 10 (whole ++ fraction) 0) (exponent - fraction.length)

/-- The double denoted by a numeral, or none when the text is no numeral. -/
def ofNumeral? (cs : List Char) : Option Binary64 :=
  let (negative, body) := splitSign cs
  let word := String.ofList (body.map Char.toLower)
  if word = "inf" ∨ word = "infinity" then some (infinite negative)
  else if word = "nan" then some nan
  else ofDigits? negative body

end Formula.Binary64
