import FormulaPlot.Decimal.Numeral
import FormulaPlot.Numeric.Binary64
import FormulaPlot.Numeric.Fault

/-!
Scalars that geometry is computed in. Doubles run; exact rationals obey the same definitions, so
that what holds without rounding can be stated of the same code.
-/

namespace FormulaPlot

open FormulaPlot.Decimal

set_option autoImplicit false

class Scalar (α : Type) extends Add α, Sub α, Mul α, Div α, Neg α, OfScientific α, LT α, LE α where
  decidableLT : DecidableLT α
  decidableLE : DecidableLE α
  isFinite : α → Bool
  abs : α → α
  read : α → Extended
  ofInt : Int → α
  ofNumeral : Numeral → α
  roundPlaces : Nat → α → α

instance Scalar.instDecidableLT {α : Type} [Scalar α] : DecidableLT α := Scalar.decidableLT

instance Scalar.instDecidableLE {α : Type} [Scalar α] : DecidableLE α := Scalar.decidableLE

instance : Scalar Float where
  decidableLT := inferInstance
  decidableLE := inferInstance
  isFinite := Float.isFinite
  abs := Float.abs
  read := Binary64.read
  ofInt := Binary64.ofInt
  ofNumeral := Numeral.toFloat
  roundPlaces := Binary64.roundPlaces

def roundRat (places : Nat) (value : Rat) : Rat :=
  let rounded := mkRat (units value.abs places) (Nat.pow 10 places)
  if value < 0 then -rounded else rounded

instance : Scalar Rat where
  decidableLT := inferInstance
  decidableLE := inferInstance
  isFinite _ := true
  abs := Rat.abs
  read := Extended.ofRat
  ofInt value := value
  ofNumeral := Numeral.value
  roundPlaces := roundRat

namespace Scalar

variable {α : Type} [Scalar α]

@[inline] def zero : α := 0.0

@[inline] def isZero (value : α) : Bool := decide (value ≤ zero) && decide (zero ≤ value)

/-- The first argument stands unless the second is properly smaller. -/
@[inline] def minimum (first second : α) : α := if second < first then second else first

/-- The first argument stands unless the second is properly greater. -/
@[inline] def maximum (first second : α) : α := if first < second then second else first

@[inline] def divide (numerator denominator : α) : Except Fault α :=
  if isZero denominator then .error .divisionByZero else .ok (numerator / denominator)

def toWhole (round : Rat → Int) (value : α) : Except Fault Int :=
  match read value with
  | .finite negative magnitude => .ok (round (if negative then -magnitude else magnitude))
  | .infinite _ => .error .infinityToWhole
  | .notANumber => .error .notANumberToWhole

def floor (value : α) : Except Fault Int := toWhole Rat.floor value

def ceil (value : α) : Except Fault Int := toWhole Rat.ceil value

@[inline] def ofNat (value : Nat) : α := ofInt value

end Scalar

end FormulaPlot
