/-!
The reasons for which a numeric operation has no result, each with the sentence it is
reported by.
-/

namespace FormulaPlot

set_option autoImplicit false

inductive Fault where
  | divisionByZero
  | wholeDivisionByZero
  | complexDivisionByZero
  | moduloByZero
  | outsideDomain
  | outOfRange
  | powerOutOfRange
  | zeroToNegativePower
  | zeroToComplexPower
  | complexPowerOutOfRange
  | absoluteValueTooLarge
  | notANumberToWhole
  | infinityToWhole
  | wholeTooLarge
  | infinityWithoutExponent
  /-- A loop that never ends, and so never says anything. -/
  | endless
  deriving DecidableEq, Repr

def Fault.message : Fault → String
  | divisionByZero => "float division by zero"
  | wholeDivisionByZero => "division by zero"
  | complexDivisionByZero => "complex division by zero"
  | moduloByZero => "float modulo"
  | outsideDomain => "math domain error"
  | outOfRange => "math range error"
  | powerOutOfRange => "(34, 'Numerical result out of range')"
  | zeroToNegativePower => "0.0 cannot be raised to a negative power"
  | zeroToComplexPower => "0.0 to a negative or complex power"
  | complexPowerOutOfRange => "complex exponentiation"
  | absoluteValueTooLarge => "absolute value too large"
  | notANumberToWhole => "cannot convert float NaN to integer"
  | infinityToWhole => "cannot convert float infinity to integer"
  | wholeTooLarge => "int too large to convert to float"
  | infinityWithoutExponent => "not enough values to unpack (expected 2, got 1)"
  | endless => ""

end FormulaPlot
