import Formula.Binary64.Numeral
import Formula.Binary64.Positional
import Formula.Unicode.WhiteSpace

/-!
# Values

What a formula computes and a field holds: null, a truth value, a number or a text. Every value has a truthiness, and
all but null and texts that are no numerals have a reading as a number.
-/

namespace Formula

/-- A scalar value. -/
inductive Value
  | null
  | boolean (b : Bool)
  | number (x : Binary64)
  | string (s : String)
  deriving DecidableEq

namespace Value

def isNull : Value → Bool
  | null => true
  | _ => false

/-- The reading of the value as a number: truth values count as one and zero, and a text is read as a numeral once the
white space around it is gone. -/
def toNumber? : Value → Option Binary64
  | null => none
  | boolean b => some (if b then .ofNat 1 else .zero false)
  | number x => some x
  | string s => Binary64.ofNumeral? (Unicode.trim s.toList)

/-- Whether the logical operators take the value for true. -/
def isTruthy : Value → Bool
  | null => false
  | boolean b => b
  | number x => !x.isZero && !x.isNaN
  | string s => !s.isEmpty

/-- Equality as formulas see it: values of different kinds differ, and numbers are compared numerically. -/
def same : Value → Value → Bool
  | null, null => true
  | boolean a, boolean b => a == b
  | number x, number y => x.same y
  | string s, string t => s == t
  | _, _ => false

/-- The text of the value, a string standing for itself. -/
def text : Value → String
  | null => "null"
  | boolean b => if b then "true" else "false"
  | number x => x.text
  | string s => s

/-- The value of an optional one: nothing is null. -/
def ofOption : Option Value → Value
  | none => null
  | some v => v

end Value
end Formula
