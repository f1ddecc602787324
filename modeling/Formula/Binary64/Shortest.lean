import Formula.Binary64.Nearest

/-!
# The shortest decimal of a double

Every finite magnitude is a multiple of `10 ^ -1074`, since `2 ^ -1074 = 5 ^ 1074 * 10 ^ -1074`. Of the decimals that
read back as the same magnitude `shortest` takes one with the fewest digits, and the nearest of those. The decimals with
the same last place form a grid, and only the two neighbours of the exact magnitude on a grid need to be looked at.
-/

namespace Formula.Binary64

/-- The number of decimal places that write every double exactly. -/
def places : Nat := 1074

/-- The least positive double as a multiple of `10 ^ -1074`. -/
def leastDecimal : Nat := 5 ^ 1074

/-- The exact magnitude of rank `k` as a multiple of `10 ^ -1074`. -/
def exactDecimal (k : Nat) : Nat := units k * leastDecimal

/-- The decimal `coefficient * 10 ^ place`, as a multiple of `10 ^ -1074`. -/
structure Decimal where
  coefficient : Nat
  place : Nat
  deriving DecidableEq, Repr

/-- The multiple of `10 ^ -1074` that a decimal is. -/
def Decimal.amount (d : Decimal) : Nat := d.coefficient * 10 ^ d.place

/-- Whether the decimal reads back as the magnitude of rank `k`. -/
def readsBack (k : Nat) (d : Decimal) : Bool := nearest d.amount leastDecimal == k

/-- Which of two decimals to take when the magnitude lies halfway between them. -/
inductive Tie
  | upward
  | toEven
  deriving DecidableEq, Repr

/-- Of the decimals with coefficients `c` and `c + 1` at a place the one nearer to the exact amount between them. -/
def nearer (tie : Tie) (c place exact : Nat) : Decimal :=
  let middle := (2 * c + 1) * 10 ^ place
  if 2 * exact < middle then ⟨c, place⟩
  else if middle < 2 * exact then ⟨c + 1, place⟩
  else if tie = .toEven ∧ c % 2 = 0 then ⟨c, place⟩
  else ⟨c + 1, place⟩

/-- The shortest decimal with its last digit at the given place or below. At place zero stands the exact magnitude. -/
def shortestFrom (tie : Tie) (k : Nat) : (place : Nat) → Decimal
  | 0 => ⟨exactDecimal k, 0⟩
  | m + 1 =>
    let c := exactDecimal k / 10 ^ (m + 1)
    if readsBack k ⟨c, m + 1⟩ then
      if readsBack k ⟨c + 1, m + 1⟩ then nearer tie c (m + 1) (exactDecimal k) else ⟨c, m + 1⟩
    else if readsBack k ⟨c + 1, m + 1⟩ then ⟨c + 1, m + 1⟩
    else shortestFrom tie k m

/-- The place of the first digit of a number, among the places up to a bound. -/
def firstPlace (n : Nat) : (bound : Nat) → Nat
  | 0 => 0
  | m + 1 => if 10 ^ (m + 1) ≤ n then m + 1 else firstPlace n m

/-- The shortest decimal that reads back as the magnitude of rank `k`. The search starts at the first digit of the exact
magnitude, whose place is below its number of bits times 0.31. -/
def shortest (tie : Tie) (k : Nat) : Decimal :=
  let exact := exactDecimal k
  shortestFrom tie k (firstPlace exact ((exact.log2 + 1) * 31 / 100))

end Formula.Binary64
