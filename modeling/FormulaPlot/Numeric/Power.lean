import FormulaPlot.Numeric.Complex
import FormulaPlot.Numeric.ComplexFunction

/-!
Powers and remainders. A real power of a negative base leaves the real line unless the exponent is
whole.
-/

namespace FormulaPlot

open FormulaPlot.Binary64

set_option autoImplicit false

namespace Complex

/-- Repeated squaring over the binary digits of the exponent, lowest first. -/
def powNatFrom : (left : Nat) → Complex → Complex → Nat → Complex
  | 0, result, _, _ => result
  | left + 1, result, square, exponent =>
      if exponent = 0 then result
      else
        powNatFrom left (if exponent % 2 = 1 then mul result square else result)
          (mul square square) (exponent / 2)

def powNat (base : Complex) (exponent : Nat) : Complex := powNatFrom exponent one base exponent

def powWhole (base : Complex) (exponent : Int) : Except Fault Complex :=
  if 0 < exponent then .ok (powNat base exponent.toNat)
  else
    match div one (powNat base exponent.natAbs) with
    | .ok result => .ok result
    | .error _ => .error .zeroToComplexPower

/-- Modulus and angle of the base are scaled by the exponent. -/
def powPolar (base exponent : Complex) : Except Fault Complex :=
  if isZero exponent.re && isZero exponent.im then .ok one
  else if isZero base.re && isZero base.im then
    if !isZero exponent.im || exponent.re < 0.0 then .error .zeroToComplexPower
    else .ok ⟨0.0, 0.0⟩
  else
    let modulus := hypotenuse base.re base.im
    let angle := Float.atan2 base.im base.re
    let size := Float.pow modulus exponent.re
    let phase := angle * exponent.re
    let turned := !isZero exponent.im
    let size := if turned then size / (angle * exponent.im).exp else size
    let phase := if turned then phase + exponent.im * modulus.log else phase
    if phase.isInf then .error .zeroToComplexPower
    else .ok ⟨size * phase.cos, size * phase.sin⟩

/-- Whole exponents up to this size are multiplied out. -/
def greatestMultiplied : Float := 100.0

def pow (base exponent : Complex) : Except Fault Complex := do
  let result ←
    if isZero exponent.im && exponent.re == exponent.re.floor &&
        exponent.re.abs ≤ greatestMultiplied then
      powWhole base exponent.re.toInt64.toInt
    else powPolar base exponent
  if result.hasInfinity then .error .complexPowerOutOfRange else .ok result

end Complex

/-- The remainder with the sign of the first argument, exact for finite doubles. -/
def truncatedRemainder (left right : Float) : Float :=
  match read left, read right with
  | .finite negative dividend, .finite _ divisor =>
      if divisor = 0 then notANumber
      else
        let rest := dividend - divisor * ((dividend / divisor).floor : Rat)
        ofQuotient negative rest.num.natAbs rest.den
  | .finite _ _, .infinite _ => left
  | _, _ => notANumber

/-- The remainder with the sign of the divisor. -/
def modulo (left right : Float) : Except Fault Float :=
  if isZero right then .error .moduloByZero
  else
    let rest := truncatedRemainder left right
    if isZero rest then .ok (copySign 0.0 right)
    else if (right < 0.0) != (rest < 0.0) then .ok (rest + right)
    else .ok rest

def isOddWhole (value : Float) : Bool :=
  match read value with
  | .finite _ magnitude => magnitude.den == 1 && magnitude.num.natAbs % 2 == 1
  | _ => false

inductive RealPower where
  | real (value : Float)
  | leavesTheLine
  | failed (fault : Fault)

def powInfiniteExponent (base exponent : Float) : Float :=
  let size := base.abs
  if size == 1.0 then 1.0
  else if decide (0.0 < exponent) == decide (1.0 < size) then exponent.abs
  else 0.0

def powInfiniteBase (base exponent : Float) : Float :=
  let odd := isOddWhole exponent
  if 0.0 < exponent then if odd then base else base.abs
  else if odd then copySign 0.0 base
  else 0.0

def powZeroBase (base exponent : Float) : RealPower :=
  if exponent < 0.0 then .failed .zeroToNegativePower
  else .real (if isOddWhole exponent then base else 0.0)

def powFinite (base exponent : Float) : RealPower :=
  if base < 0.0 && exponent != exponent.floor then .leavesTheLine
  else
    let negated := base < 0.0 && isOddWhole exponent
    let size := base.abs
    let power := if size == 1.0 then 1.0 else Float.pow size exponent
    if power.isInf then .failed .powerOutOfRange
    else .real (if negated then -power else power)

def realPower (base exponent : Float) : RealPower :=
  if isZero exponent then .real 1.0
  else if base.isNaN then .real base
  else if exponent.isNaN then .real (if base == 1.0 then 1.0 else exponent)
  else if exponent.isInf then .real (powInfiniteExponent base exponent)
  else if base.isInf then .real (powInfiniteBase base exponent)
  else if isZero base then powZeroBase base exponent
  else powFinite base exponent

end FormulaPlot
