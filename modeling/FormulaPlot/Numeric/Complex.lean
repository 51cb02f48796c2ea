import FormulaPlot.Numeric.Binary64
import FormulaPlot.Numeric.Fault

/-!
Arithmetic of complex numbers over doubles.
-/

namespace FormulaPlot

open FormulaPlot.Binary64

set_option autoImplicit false

structure Complex where
  re : Float
  im : Float

namespace Complex

def ofReal (value : Float) : Complex := ⟨value, 0.0⟩

def one : Complex := ⟨1.0, 0.0⟩

def add (left right : Complex) : Complex := ⟨left.re + right.re, left.im + right.im⟩

def sub (left right : Complex) : Complex := ⟨left.re - right.re, left.im - right.im⟩

def neg (value : Complex) : Complex := ⟨-value.re, -value.im⟩

def mul (left right : Complex) : Complex :=
  ⟨left.re * right.re - left.im * right.im, left.re * right.im + left.im * right.re⟩

/-- The divisor is scaled by its larger component first, which keeps squares out of the way. -/
def div (left right : Complex) : Except Fault Complex :=
  let reSize := right.re.abs
  let imSize := right.im.abs
  if imSize ≤ reSize then
    if isZero reSize then .error .complexDivisionByZero
    else
      let ratio := right.im / right.re
      let scale := right.re + right.im * ratio
      .ok ⟨(left.re + left.im * ratio) / scale, (left.im - left.re * ratio) / scale⟩
  else if reSize ≤ imSize then
    let ratio := right.re / right.im
    let scale := right.re * ratio + right.im
    .ok ⟨(left.re * ratio + left.im) / scale, (left.im * ratio - left.re) / scale⟩
  else .ok ⟨notANumber, notANumber⟩

def isFinite (value : Complex) : Bool := value.re.isFinite && value.im.isFinite

def hasInfinity (value : Complex) : Bool := value.re.isInf || value.im.isInf

/-- A square root of a sum of squares, corrected by the error of the squares. The first argument
is the larger one. -/
def correctedHypotenuse (larger smaller : Float) : Float :=
  let guess := (larger * larger + smaller * smaller).sqrt
  let error :=
    if guess ≤ 2.0 * smaller then
      let delta := guess - smaller
      larger * (2.0 * delta - larger) + (delta - 2.0 * (larger - smaller)) * delta
    else
      let delta := guess - larger
      2.0 * delta * (larger - 2.0 * smaller) + ((4.0 * delta - smaller) * smaller + delta * delta)
  guess - error / (2.0 * guess)

/-- Magnitudes near the ends of the range are scaled; a leg too small to matter is only added. -/
def hypotenuse (first second : Float) : Float :=
  if first.isInf || second.isInf then positiveInfinity
  else if first.isNaN || second.isNaN then notANumber
  else
    let larger := if first.abs < second.abs then second.abs else first.abs
    let smaller := if first.abs < second.abs then first.abs else second.abs
    let negligible := smaller ≤ larger * Float.scaleB 1.0 (-54)
    if Float.scaleB 1.0 511 < larger then
      if negligible then larger + smaller
      else
        let scale := Float.scaleB 1.0 (-600)
        correctedHypotenuse (larger * scale) (smaller * scale) / scale
    else if smaller < Float.scaleB 1.0 (-459) then
      if smaller / Float.scaleB 1.0 (-54) ≤ larger then larger + smaller
      else
        let scale := Float.scaleB 1.0 (-600)
        correctedHypotenuse (larger / scale) (smaller / scale) * scale
    else if negligible then larger + smaller
    else correctedHypotenuse larger smaller

def abs (value : Complex) : Except Fault Float :=
  let size := hypotenuse value.re value.im
  if value.isFinite && !size.isFinite then .error .absoluteValueTooLarge else .ok size

end Complex

end FormulaPlot
