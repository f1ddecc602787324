import Formula.Binary64.Basic

/-!
# Rounding to the nearest double

A non-negative fraction of units of `2 ^ -1074` goes to the nearest magnitude, and halfway between two of them to the
one of even rank. All other modules round through `nearest` alone.
-/

namespace Formula.Binary64

/-- The rank of the greatest magnitude of at most `q` units, the exponent being unbounded. -/
def rankBelow (q : Nat) : Nat :=
  if q < 2 ^ 53 then q
  else (q.log2 - 52) * 2 ^ 52 + q / 2 ^ (q.log2 - 52)

/-- The rank nearest to `num / den` units, ties going to the even rank. -/
def nearest (num den : Nat) : Nat :=
  let k := rankBelow (num / den)
  let midpoint := den * (units k + units (k + 1))
  if 2 * num < midpoint then k
  else if midpoint < 2 * num then k + 1
  else if k % 2 = 0 then k else k + 1

/-- The double nearest to `num / den` units with the given sign; it is infinite beyond the last finite magnitude. -/
def round (negative : Bool) (num den : Nat) : Binary64 := ofRank negative (nearest num den)

/-- The whole number `n` with the given sign, rounded. -/
def ofWhole (negative : Bool) (n : Nat) : Binary64 := round negative (n * unitsPerOne) 1

def ofNat (n : Nat) : Binary64 := ofWhole false n

def ofInt (i : Int) : Binary64 := ofWhole (decide (i < 0)) i.natAbs

end Formula.Binary64
