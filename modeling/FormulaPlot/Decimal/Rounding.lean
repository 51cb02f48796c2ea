/-!
Rounding of exact quotients to a decimal grid. A half goes to the even neighbour.
-/

namespace FormulaPlot.Decimal

set_option autoImplicit false

def roundQuotient (numerator denominator : Nat) : Nat :=
  let quotient := numerator / denominator
  let twice := 2 * (numerator % denominator)
  if twice < denominator then quotient
  else if denominator < twice then quotient + 1
  else quotient + quotient % 2

/-- The magnitude counted in units of `10 ^ (-places)`. -/
def units (magnitude : Rat) : Int → Nat
  | .ofNat places => roundQuotient (magnitude.num.natAbs * Nat.pow 10 places) magnitude.den
  | .negSucc places => roundQuotient magnitude.num.natAbs (magnitude.den * Nat.pow 10 (places + 1))

/-- The same count without rounding up. -/
def wholeUnits (magnitude : Rat) : Int → Nat
  | .ofNat places => magnitude.num.natAbs * Nat.pow 10 places / magnitude.den
  | .negSucc places => magnitude.num.natAbs / (magnitude.den * Nat.pow 10 (places + 1))

def powerOfTen : Int → Rat
  | .ofNat exponent => ((Nat.pow 10 exponent : Nat) : Rat)
  | .negSucc exponent => mkRat 1 (Nat.pow 10 (exponent + 1))

def digitCount (number : Nat) : Nat := (Nat.toDigits 10 number).length

/-- The greatest power of ten not above a positive magnitude. -/
def leadingExponent (magnitude : Rat) : Int :=
  let estimate : Int := (digitCount magnitude.num.natAbs : Int) - digitCount magnitude.den
  if wholeUnits magnitude (-estimate) = 0 then estimate - 1 else estimate

end FormulaPlot.Decimal
