import Formula.Binary64.Shortest

/-!
# The text of a double

A number is written by its shortest decimal without an exponent, however long that gets, and without a point when it is
whole.
-/

namespace Formula.Binary64

/-- The digits of a number, filled up with leading zeros to at least the given width. -/
def paddedDigits (width n : Nat) : List Char :=
  let digits := Nat.toDigits 10 n
  List.replicate (width - digits.length) '0' ++ digits

/-- The text without the zeros at its end. -/
def dropTrailingZeros (cs : List Char) : List Char :=
  (cs.reverse.dropWhile (· == '0')).reverse

/-- A decimal written out, with a digit in front of the point and none but zeros left out behind it. -/
def positional (d : Decimal) : List Char :=
  if places ≤ d.place then Nat.toDigits 10 d.coefficient ++ List.replicate (d.place - places) '0'
  else
    let decimals := places - d.place
    let digits := paddedDigits (decimals + 1) d.coefficient
    let whole := digits.take (digits.length - decimals)
    match dropTrailingZeros (digits.drop (digits.length - decimals)) with
    | [] => whole
    | fraction => whole ++ '.' :: fraction

/-- A sign in front of the text of a magnitude. -/
def withSign (negative : Bool) (cs : List Char) : List Char := if negative then '-' :: cs else cs

/-- The characters of a number's text; of two shortest decimals equally near the greater is written. -/
def chars : Binary64 → List Char
  | nan => ['N', 'a', 'N']
  | infinite negative => withSign negative ['i', 'n', 'f']
  | finite negative k => withSign negative (positional (shortest .upward k))

/-- The text of a number. -/
def text (x : Binary64) : String := String.ofList x.chars

end Formula.Binary64
