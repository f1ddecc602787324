import Formula.Binary64.Nearest

/-!
# Arithmetic on doubles

Each operation takes the exact result for its operands and rounds it once. The sign of a zero result is that of IEEE
754: a product or quotient has the sign of its factors, a sum of opposite numbers is positive, a remainder has the sign
of the dividend, and a number rounded to a whole one keeps its sign.
-/

namespace Formula.Binary64

/-- The double nearest to a signed number of units; a zero has the sign given for it. -/
def roundSigned (zeroNegative : Bool) (units : Int) : Binary64 :=
  if units = 0 then zero zeroNegative else round (decide (units < 0)) units.natAbs 1

def add : Binary64 → Binary64 → Binary64
  | nan, _ => nan
  | _, nan => nan
  | infinite a, infinite b => if a = b then infinite a else nan
  | infinite a, finite _ _ => infinite a
  | finite _ _, infinite b => infinite b
  | finite a j, finite b k => roundSigned (a && b) (signed a (units j) + signed b (units k))

def neg : Binary64 → Binary64
  | nan => nan
  | infinite a => infinite !a
  | finite a k => finite (!a) k

def sub (x y : Binary64) : Binary64 := add x y.neg

def mul : Binary64 → Binary64 → Binary64
  | nan, _ => nan
  | _, nan => nan
  | infinite a, infinite b => infinite (a != b)
  | infinite a, finite b k => if k.val = 0 then nan else infinite (a != b)
  | finite a j, infinite b => if j.val = 0 then nan else infinite (a != b)
  | finite a j, finite b k => round (a != b) (units j * units k) unitsPerOne

def div : Binary64 → Binary64 → Binary64
  | nan, _ => nan
  | _, nan => nan
  | infinite _, infinite _ => nan
  | infinite a, finite b _ => infinite (a != b)
  | finite a _, infinite b => zero (a != b)
  | finite a j, finite b k =>
    if k.val = 0 then (if j.val = 0 then nan else infinite (a != b))
    else round (a != b) (units j * unitsPerOne) (units k)

/-- The remainder of the division truncated toward zero. -/
def rem : Binary64 → Binary64 → Binary64
  | nan, _ => nan
  | _, nan => nan
  | infinite _, _ => nan
  | finite a j, infinite _ => finite a j
  | finite a j, finite _ k => if k.val = 0 then nan else round a (units j % units k) 1

/-! ## Whole numbers -/

/-- Replaces a finite number by a whole one of the same sign, whose magnitude is chosen from the sign, the whole part of
the magnitude and the fraction left over in units. -/
def toWhole (choose : (negative : Bool) → (whole fraction : Nat) → Nat) : Binary64 → Binary64
  | finite a k => ofWhole a (choose a (units k / unitsPerOne) (units k % unitsPerOne))
  | x => x

/-- The least whole number that is not below. -/
def ceil : Binary64 → Binary64 :=
  toWhole fun negative whole fraction => if negative ∨ fraction = 0 then whole else whole + 1

/-- The greatest whole number that is not above. -/
def floor : Binary64 → Binary64 :=
  toWhole fun negative whole fraction => if negative = false ∨ fraction = 0 then whole else whole + 1

/-- Of the two whole numbers next to a magnitude the nearer, and halfway between them the even one. -/
def evenWhole (whole fraction : Nat) : Nat :=
  if 2 * fraction < unitsPerOne then whole
  else if unitsPerOne < 2 * fraction then whole + 1
  else if whole % 2 = 0 then whole else whole + 1

/-- The nearest whole number, ties going to the even one. -/
def roundEven : Binary64 → Binary64 := toWhole fun _ => evenWhole

end Formula.Binary64
