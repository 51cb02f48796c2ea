import FormulaPlot.Decimal.Rounding

/-!
Doubles as exact rationals: the reading of a double, and the double nearest to a rational.
-/

namespace FormulaPlot

open FormulaPlot.Decimal

set_option autoImplicit false

/-- A number with a sign of its own, so that the two zeros stay apart. -/
inductive Extended where
  | finite (negative : Bool) (magnitude : Rat)
  | infinite (negative : Bool)
  | notANumber
  deriving DecidableEq

namespace Extended

def ofRat (value : Rat) : Extended := .finite (decide (value < 0)) value.abs

def negate : Extended → Extended
  | finite negative magnitude => finite (!negative) magnitude
  | infinite negative => infinite (!negative)
  | notANumber => notANumber

def toRat? : Extended → Option Rat
  | finite negative magnitude => some (if negative then -magnitude else magnitude)
  | _ => none

end Extended

namespace Binary64

def exponentBias : Nat := 1075

/-- Significand and exponent fields, with the hidden bit made visible. -/
def read (value : Float) : Extended :=
  let bits := value.toBits.toNat
  let negative := decide (Nat.pow 2 63 ≤ bits)
  let field : Nat := bits / Nat.pow 2 52 % Nat.pow 2 11
  let fraction : Nat := bits % Nat.pow 2 52
  if field = 2047 then if fraction = 0 then .infinite negative else .notANumber
  else if field = 0 then .finite negative (mkRat fraction (Nat.pow 2 (exponentBias - 1)))
  else
    let significand : Nat := fraction + Nat.pow 2 52
    if exponentBias ≤ field then
      .finite negative ((significand * Nat.pow 2 (field - exponentBias) : Nat) : Rat)
    else .finite negative (mkRat significand (Nat.pow 2 (exponentBias - field)))

def infinityBits : Nat := 2047 * Nat.pow 2 52

/-- A quotient is cut to a significand of 53 bits, or fewer below the normal range. The carry
of the rounding runs on into the exponent field. -/
def ofQuotient (negative : Bool) (numerator denominator : Nat) : Float :=
  let sign := if negative then Nat.pow 2 63 else 0
  if numerator = 0 then Float.ofBits (UInt64.ofNat sign)
  else
    let least : Int := 1 - exponentBias
    let guess : Int := max least ((numerator.log2 : Int) - denominator.log2 - 53)
    let scaled (exponent : Int) : Nat × Nat :=
      match exponent with
      | .ofNat shift => (numerator, denominator * Nat.pow 2 shift)
      | .negSucc shift => (numerator * Nat.pow 2 (shift + 1), denominator)
    let (top, bottom) := scaled guess
    let exponent := if Nat.pow 2 53 ≤ top / bottom then guess + 1 else guess
    let (top, bottom) := scaled exponent
    let magnitude := (exponent - least).toNat * Nat.pow 2 52 + roundQuotient top bottom
    Float.ofBits (UInt64.ofNat (sign + min magnitude infinityBits))

def ofRat (value : Rat) : Float :=
  ofQuotient (decide (value < 0)) value.num.natAbs value.den

def ofInt (value : Int) : Float := ofQuotient (decide (value < 0)) value.natAbs 1

/-- Whole numbers beyond the finite doubles have no nearest one. -/
def ofInt? (value : Int) : Option Float :=
  let rounded := ofInt value
  if rounded.isFinite then some rounded else none

def positiveInfinity : Float := Float.ofBits (UInt64.ofNat infinityBits)

def notANumber : Float := Float.ofBits (UInt64.ofNat (infinityBits + Nat.pow 2 51))

def isNegative (value : Float) : Bool := decide (Nat.pow 2 63 ≤ value.toBits.toNat)

def isZero (value : Float) : Bool := value == 0.0

def copySign (magnitude sign : Float) : Float :=
  if isNegative magnitude == isNegative sign then magnitude else -magnitude

/-- The nearest multiple of `10 ^ (-places)`. The sign stays, also on a zero. -/
def roundPlaces (places : Nat) (value : Float) : Float :=
  match read value with
  | .finite negative magnitude => ofQuotient negative (units magnitude places) (Nat.pow 10 places)
  | _ => value

end Binary64

end FormulaPlot
