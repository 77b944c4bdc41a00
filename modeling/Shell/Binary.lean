/-!
Binary numbers with 53 digits: differences and decimals are rounded to the nearest one, and of two
equally near ones to the one whose last digit is zero. Every such number is a multiple of one
smallest step, so a number is kept as a count of steps.
-/

namespace Shell

/-- A binary number. -/
inductive Binary
  /-- A count of smallest steps. -/
  | finite (steps : Int)
  /-- Beyond all counts. -/
  | infinite (negative : Bool)
  /-- The difference of two numbers beyond all counts on the same side. -/
  | undefined
deriving DecidableEq, Repr

namespace Binary

/-- Digits that a number keeps. -/
def precision : Nat := 53

/-- Smallest steps in one unit. -/
def stepsPerUnit : Nat := Nat.pow 2 1074

/-- From here on counts are too large: two to the power of 1024 units. -/
def stepLimit : Nat := Nat.pow 2 1024 * stepsPerUnit

/-- The nearest whole number to a quotient, of two equally near ones the even one. -/
def roundQuotient (dividend divisor : Nat) : Nat :=
  let quotient := dividend / divisor
  let rest := dividend % divisor
  if 2 * rest < divisor ∨ (2 * rest = divisor ∧ quotient % 2 = 0) then quotient else quotient + 1

/-- The nearest whole number to a quotient among those with at most 53 digits before their final
zeros. -/
def roundDigits (dividend divisor : Nat) : Nat :=
  let unit := Nat.pow 2 (Nat.log2 (dividend / divisor) + 1 - precision)
  roundQuotient dividend (divisor * unit) * unit

/-- The nearest binary number to a quotient of steps. -/
def ofSteps (steps : Int) (divisor : Nat) : Binary :=
  let size := roundDigits steps.natAbs divisor
  if size < stepLimit then finite (if steps < 0 then -(size : Int) else size)
  else infinite (decide (steps < 0))

/-- The nearest binary number to a whole number. -/
def ofInt (n : Int) : Binary := ofSteps (n * stepsPerUnit) 1

/-- The nearest binary number to `mantissa * 10 ^ exponent`. -/
def ofDecimal (mantissa exponent : Int) : Binary :=
  ofSteps (mantissa * stepsPerUnit * Nat.pow 10 exponent.toNat) (Nat.pow 10 (-exponent).toNat)

/-- The nearest binary number to a difference. -/
def sub : Binary → Binary → Binary
  | finite a, finite b => ofSteps (a - b) 1
  | finite _, infinite negative => infinite !negative
  | infinite negative, finite _ => infinite negative
  | infinite a, infinite b => if a = b then undefined else infinite a
  | undefined, _ | _, undefined => undefined

end Binary

end Shell
