/-!
# Double-precision numbers

The numbers of the IEEE 754 format binary64. The finite magnitudes are ranked upward from zero: rank `k` is the
magnitude of `units k` times `2 ^ -1074`, and infinity is what would come after the last of them.

* `Binary64.ofRank` : the number of a sign and a rank, infinite when the rank is too high.
* `Binary64.key?` : where a number lies on the line, in multiples of `2 ^ -1074`; a NaN lies nowhere.
* `Binary64.same`, `Binary64.less`, `Binary64.atMost` : the comparisons, all false of a NaN.
-/

-- Powers of whole numbers are read in one way, whatever else a module imports.
attribute [instance (20000), default_instance (20000)] instPowNat

namespace Formula

/-- How many finite magnitudes there are: 2047 exponents with `2 ^ 52` significands each. -/
abbrev Binary64.rankCount : Nat := 2047 * 2 ^ 52

/-- A double-precision number. -/
inductive Binary64
  | nan
  | infinite (negative : Bool)
  | finite (negative : Bool) (rank : Fin Binary64.rankCount)
  deriving DecidableEq

namespace Binary64

/-- The magnitude of rank `k` as a multiple of `2 ^ -1074`. -/
def units (k : Nat) : Nat :=
  if k < 2 ^ 52 then k else (2 ^ 52 + k % 2 ^ 52) * 2 ^ (k / 2 ^ 52 - 1)

/-- The number one as a multiple of `2 ^ -1074`. -/
def unitsPerOne : Nat := 2 ^ 1074

/-- The number with the given sign and rank; beyond the last rank it is infinite. -/
def ofRank (negative : Bool) (k : Nat) : Binary64 :=
  if h : k < rankCount then finite negative ⟨k, h⟩ else infinite negative

/-- Zero with a sign. -/
def zero (negative : Bool) : Binary64 := finite negative ⟨0, by decide⟩

def isNaN : Binary64 → Bool
  | nan => true
  | _ => false

def isFinite : Binary64 → Bool
  | finite _ _ => true
  | _ => false

/-- Whether the number is a zero of either sign. -/
def isZero : Binary64 → Bool
  | finite _ k => k.val = 0
  | _ => false

/-- A magnitude with a sign, as a multiple of `2 ^ -1074`. -/
def signed (negative : Bool) (units : Nat) : Int := if negative then -units else units

/-- The place of a number on the line as a multiple of `2 ^ -1074`, an infinity taken as the magnitude after the last
finite one. -/
def key? : Binary64 → Option Int
  | nan => none
  | infinite negative => some (signed negative (units rankCount))
  | finite negative k => some (signed negative (units k))

/-- A relation of places, false of a NaN. -/
def related (r : Int → Int → Bool) (x y : Binary64) : Bool :=
  match x.key?, y.key? with
  | some i, some j => r i j
  | _, _ => false

/-- Numeric equality: the two zeros are the same, and a NaN is not even the same as itself. -/
def same : Binary64 → Binary64 → Bool := related (· == ·)

def less : Binary64 → Binary64 → Bool := related (decide <| · < ·)

def atMost : Binary64 → Binary64 → Bool := related (decide <| · ≤ ·)

/-- The number without its sign. -/
def abs : Binary64 → Binary64
  | nan => nan
  | infinite _ => infinite false
  | finite _ k => finite false k

/-- The smaller number; a NaN gives way to the other. -/
def min (x y : Binary64) : Binary64 :=
  if x.isNaN then y else if y.isNaN then x else if y.less x then y else x

/-- The greater number; a NaN gives way to the other. -/
def max (x y : Binary64) : Binary64 :=
  if x.isNaN then y else if y.isNaN then x else if x.less y then y else x

end Binary64
end Formula
