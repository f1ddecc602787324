import Formula.Binary64.Arithmetic
import Formula.Value

/-!
# Built-in functions

Every function takes any list of values and gives a value. Arguments that are no numbers are passed over by the
aggregates, and turn the functions of one number into null.
-/

namespace Formula

/-- The built-in functions. -/
inductive Builtin
  | round
  | abs
  | ceil
  | floor
  | min
  | max
  | sum
  | avg
  | count
  deriving DecidableEq, Repr

namespace Builtin

def name : Builtin → String
  | round => "round"
  | abs => "abs"
  | ceil => "ceil"
  | floor => "floor"
  | min => "min"
  | max => "max"
  | sum => "sum"
  | avg => "avg"
  | count => "count"

def all : List Builtin := [round, abs, ceil, floor, min, max, sum, avg, count]

/-- The names of the built-in functions. -/
def names : List String := ["round", "abs", "ceil", "floor", "min", "max", "sum", "avg", "count"]

/-- Whether a name, which is in lower case, is that of a built-in function. -/
def isKnown (name : String) : Bool := names.contains name

/-- The function that a call of a name, which is in lower case, goes to. -/
def ofName? : String → Option Builtin
  | "round" => some round
  | "abs" => some abs
  | "ceil" => some ceil
  | "floor" => some floor
  | "min" => some min
  | "max" => some max
  | "sum" => some sum
  | "avg" => some avg
  | "count" => some count
  | _ => none

/-! ## Rounding -/

/-- The greatest number of decimals that `round` keeps. -/
def maxDigits : Nat := 15

/-- The number of decimals that an argument asks for: its nearest whole number, brought between zero and `maxDigits`. -/
def digits : Binary64 → Nat
  | .nan => 0
  | .infinite negative => if negative then 0 else maxDigits
  | .finite negative k =>
    if negative then 0
    else Nat.min maxDigits
      (Binary64.evenWhole (Binary64.units k / Binary64.unitsPerOne) (Binary64.units k % Binary64.unitsPerOne))

/-- The number rounded to the given number of decimals, ties going to the even one; a number too large to be scaled is
left alone. -/
def roundTo (decimals : Nat) (x : Binary64) : Binary64 :=
  if decimals = 0 then x.roundEven
  else
    let scale := Binary64.ofNat (10 ^ decimals)
    let scaled := x.mul scale
    if scaled.isFinite then scaled.roundEven.div scale else x

/-! ## Aggregates -/

/-- The readings of those arguments that have one. -/
def numbers (args : List Value) : List Binary64 := args.filterMap Value.toNumber?

/-- The sum from left to right. It starts from negative zero, which every number absorbs. -/
def total (xs : List Binary64) : Binary64 := xs.foldl Binary64.add (.zero true)

/-- The list folded from the left, starting from its first number. -/
def reduce? (f : Binary64 → Binary64 → Binary64) : List Binary64 → Option Binary64
  | [] => none
  | x :: xs => some (xs.foldl f x)

def average? (xs : List Binary64) : Option Binary64 :=
  if xs = [] then none else some ((total xs).div (.ofNat xs.length))

/-! ## Application -/

/-- A number, or null where there is none. -/
def numberOrNull : Option Binary64 → Value
  | none => .null
  | some x => .number x

/-- The reading of the first argument. -/
def firstNumber? (args : List Value) : Option Binary64 := args.head?.bind Value.toNumber?

/-- The reading of the second argument. -/
def secondNumber? (args : List Value) : Option Binary64 := firstNumber? args.tail

/-- The value of the function at its arguments. -/
def apply (f : Builtin) (args : List Value) : Value :=
  match f with
  | round =>
    let decimals := (secondNumber? args).elim 0 digits
    numberOrNull ((firstNumber? args).map (roundTo decimals))
  | abs => numberOrNull ((firstNumber? args).map Binary64.abs)
  | ceil => numberOrNull ((firstNumber? args).map Binary64.ceil)
  | floor => numberOrNull ((firstNumber? args).map Binary64.floor)
  | min => numberOrNull (reduce? Binary64.min (numbers args))
  | max => numberOrNull (reduce? Binary64.max (numbers args))
  | sum => .number (total (numbers args))
  | avg => numberOrNull (average? (numbers args))
  | count => .number (.ofNat (args.countP fun v => !v.isNull))

end Builtin
end Formula
