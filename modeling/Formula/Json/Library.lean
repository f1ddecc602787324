import Formula.Binary64.Arithmetic
import Formula.Binary64.Numeral

/-!
# What a library of JSON decides

The grammar of JSON tells neither which double a number is read as nor how a fault is put into words. Both are left to
the library that reads it.

* `Json.Library` : what a library decides.
* `Json.Numeral.nearest` : the double that a number is read as if nothing is lost on the way.
* `Json.Numeral.scaled?` : its digits, as many as 64 bits hold, scaled by a power of ten, with a rounding at each step.
* `Json.Library.scaling` : the library that scales.
-/

namespace Formula.Json

/-- What is wrong with a text: it ends too early, it is no JSON, or it is JSON of the wrong shape. -/
inductive Fault
  | truncated
  | malformed
  | unsuitable
  deriving DecidableEq, Repr

/-- A number as it is written: its sign, the digits before and behind the point, and the power of ten. -/
structure Numeral where
  negative : Bool
  whole : List Char
  fraction : List Char
  exponent : Int
  deriving DecidableEq, Repr

/-- What a library decides: the double that a number is read as, none if it is out of range, and what it says of a fault
in a text. -/
structure Library where
  number? : Numeral → Option Binary64
  complaint : Fault → String → String

namespace Numeral

/-- The double nearest to the number. -/
def nearest (n : Numeral) : Binary64 :=
  Binary64.ofDecimal n.negative (Nat.ofDigitChars 10 (n.whole ++ n.fraction) 0) (n.exponent - n.fraction.length)

/-- What the gathered digits have to stay below. -/
def gatherBound : Nat := 2 ^ 64

/-- Puts digits behind a number as long as it stays below the bound, and counts those that are left over. -/
def gather : Nat → List Char → Nat × Nat
  | n, [] => (n, 0)
  | n, c :: cs =>
    let next := 10 * n + (c.toNat - '0'.toNat)
    if next < gatherBound then gather next cs else (n, (c :: cs).length)

/-- The greatest power of ten that a double can be. -/
def greatestPower : Nat := 308

def powerOfTen (n : Nat) : Binary64 := Binary64.ofNat (10 ^ n)

/-- A number times a power of ten, unless it is out of range. -/
def grow? (x : Binary64) (n : Nat) : Option Binary64 :=
  if n ≤ greatestPower then
    let y := x.mul (powerOfTen n)
    if y.isFinite then some y else none
  else if x.isZero then some x
  else none

/-- A number divided by the greatest power of ten as often as given, unless it is zero before. -/
def shrinkSteps (x : Binary64) : Nat → Binary64
  | 0 => x
  | steps + 1 => if x.isZero then x else shrinkSteps (x.div (powerOfTen greatestPower)) steps

/-- A number divided by a power of ten, in steps if no double is that power. -/
def shrink (x : Binary64) (n : Nat) : Binary64 :=
  let steps := (n - 1) / greatestPower
  (shrinkSteps x steps).div (powerOfTen (n - steps * greatestPower))

/-- A number times a power of ten of either sign. -/
def scale? (x : Binary64) (exponent : Int) : Option Binary64 :=
  if 0 ≤ exponent then grow? x exponent.natAbs else some (shrink x exponent.natAbs)

/-- The number by its first digits, as many as can be gathered, scaled by a power of ten. Digits behind the point go on
being gathered even if some before it are left over. -/
def scaled? (n : Numeral) : Option Binary64 :=
  let (whole, skipped) := gather 0 n.whole
  let (gathered, dropped) := gather whole n.fraction
  let exponent := n.exponent + skipped - (n.fraction.length - dropped : Nat)
  (scale? (Binary64.ofNat gathered) exponent).map fun x => if n.negative then x.neg else x

end Numeral

def Fault.text : Fault → String
  | truncated => "the text ends too early"
  | malformed => "the text is malformed"
  | unsuitable => "the text is no object of scalars"

/-- The library that scales numbers, and complains alike of all texts with the same fault. -/
def Library.scaling : Library where
  number? := Numeral.scaled?
  complaint fault _ := fault.text

end Formula.Json
