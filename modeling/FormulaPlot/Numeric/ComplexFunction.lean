import FormulaPlot.Numeric.Complex

/-!
Elementary functions in the complex plane. Each is the principal branch; on a cut the sign of the
zero imaginary part picks the side. Limits at infinity are given for every direction in which they
exist.
-/

namespace FormulaPlot.Complex

open FormulaPlot.Binary64

set_option autoImplicit false

def pi : Float := 3.141592653589793

def euler : Float := 2.718281828459045

def lnTwo : Float := 0.6931471805599453

def lnTen : Float := 2.302585092994046

/-- A quarter of the greatest double. Sums of two smaller squares' roots stay finite. -/
def large : Float := 4.49423283715579e+307

def sqrtLarge : Float := large.sqrt

def logLarge : Float := large.log

def leastNormal : Float := 2.2250738585072014e-308

def sqrtLeastNormal : Float := leastNormal.sqrt

def signed (size sign : Float) : Float := copySign size sign

/-- The natural logarithm of two in two parts. Multiples of the first one by exponents are exact. -/
def lnTwoParts : Float × Float := (6.93147180369123816490e-01, 1.90821492927058770002e-10)

/-- A polynomial in the square of `fraction / (2 + fraction)` for the logarithm of one and a
fraction. -/
def logSeries (square : Float) : Float :=
  let fourth := square * square
  let eighth := fourth * fourth
  square * 6.666666666666735130e-01 +
    fourth * (3.999999999940941908e-01 + square * 2.857142874366239149e-01) +
    eighth * (2.222219843214978396e-01 + square * 1.818357216161805012e-01) +
    eighth * fourth * (1.531383769920937332e-01 + square * 1.479819860511658591e-01)

/-- The logarithm of one and a fraction times a power of two, a small correction added. Of a tiny
fraction the first terms are enough. -/
def logOfParts (tiny : Bool) (exponent fraction correction : Float) : Float :=
  let half := 0.5 * fraction * fraction
  let shift := exponent * lnTwoParts.2 + correction
  let remainder :=
    if tiny then half * (1.0 - 0.66666666666666666 * fraction) - shift
    else
      let quotient := fraction / (2.0 + fraction)
      half - (quotient * (half + logSeries (quotient * quotient)) + shift)
  exponent * lnTwoParts.1 - (remainder - fraction)

/-- The sum of one and an argument that is not small is taken apart, and what it has lost by rounding
is the correction. -/
def logOfSum (value : Float) : Float :=
  let exact := Float.scaleB 1.0 53 ≤ value
  let sum := if exact then value else 1.0 + value
  let lost :=
    if exact then 0.0 else if 2.0 ≤ sum then 1.0 - (sum - value) else value - (sum - 1.0)
  let (half, exponent) := sum.frExp
  let doubled := 2.0 * half < 1.4142131805419922
  let fraction := (if doubled then 2.0 * half else half) - 1.0
  let tiny := -3.0 * Float.scaleB 1.0 (-21) ≤ fraction && fraction < Float.scaleB 1.0 (-20)
  logOfParts tiny (Float.ofInt (if doubled then exponent - 1 else exponent)) fraction (lost / sum)

/-- The logarithm of one more than the argument, without losing a small argument. -/
def logOnePlus (value : Float) : Float :=
  if value == -1.0 then -positiveInfinity
  else if value < -1.0 then notANumber
  else if value.abs < Float.scaleB 1.0 (-54) then value
  else if value.abs < Float.scaleB 1.0 (-29) then value - value * value * 0.5
  else if -0.2928934097290039 < value && value < 0.4142136573791504 then
    logOfParts false 0.0 value 0.0
  else if value.isFinite then logOfSum value
  else value

def timesI (value : Complex) : Complex := ⟨-value.im, value.re⟩

def timesMinusI (value : Complex) : Complex := ⟨value.im, -value.re⟩

def unknown : Complex := ⟨notANumber, notANumber⟩

def sqrtAtLimits (value : Complex) : Complex :=
  if value.im.isInf then ⟨positiveInfinity, value.im⟩
  else if value.re.isInf then
    if isNegative value.re then
      if value.im.isNaN then ⟨notANumber, positiveInfinity⟩
      else ⟨0.0, signed positiveInfinity value.im⟩
    else if value.im.isNaN then ⟨positiveInfinity, notANumber⟩
    else ⟨positiveInfinity, signed 0.0 value.im⟩
  else unknown

def sqrt (value : Complex) : Complex :=
  if !value.isFinite then sqrtAtLimits value
  else if isZero value.re && isZero value.im then ⟨0.0, value.im⟩
  else
    let reSize := value.re.abs
    let imSize := value.im.abs
    let root :=
      if reSize < leastNormal && imSize < leastNormal then
        let raised := Float.scaleB reSize 53
        Float.scaleB (raised + hypotenuse raised (Float.scaleB imSize 53)).sqrt (-27)
      else
        let lowered := reSize / 8.0
        2.0 * (lowered + hypotenuse lowered (imSize / 8.0)).sqrt
    let other := imSize / (2.0 * root)
    if 0.0 ≤ value.re then ⟨root, signed other value.im⟩ else ⟨other, signed root value.im⟩

def logSize (reSize imSize : Float) : Except Fault Float :=
  if large < reSize || large < imSize then
    .ok ((hypotenuse (reSize / 2.0) (imSize / 2.0)).log + lnTwo)
  else if reSize < leastNormal && imSize < leastNormal then
    if isZero reSize && isZero imSize then .error .outsideDomain
    else
      .ok ((hypotenuse (Float.scaleB reSize 53) (Float.scaleB imSize 53)).log - 53.0 * lnTwo)
  else
    let size := hypotenuse reSize imSize
    if 0.71 ≤ size && size ≤ 1.73 then
      let larger := if imSize < reSize then reSize else imSize
      let smaller := if imSize < reSize then imSize else reSize
      .ok (logOnePlus ((larger - 1.0) * (larger + 1.0) + smaller * smaller) / 2.0)
    else .ok size.log

def log (value : Complex) : Except Fault Complex :=
  let angle := Float.atan2 value.im value.re
  if value.hasInfinity then .ok ⟨positiveInfinity, angle⟩
  else if !value.isFinite then .ok unknown
  else (logSize value.re.abs value.im.abs).map fun size => ⟨size, angle⟩

def log10 (value : Complex) : Except Fault Complex :=
  (log value).map fun natural => ⟨natural.re / lnTen, natural.im / lnTen⟩

def inRange (value : Complex) : Except Fault Complex :=
  if value.hasInfinity then .error .outOfRange else .ok value

def expAtLimits (value : Complex) : Except Fault Complex :=
  if value.re.isNaN then .ok ⟨notANumber, if isZero value.im then value.im else notANumber⟩
  else if value.re.isInf && isNegative value.re then
    if !value.im.isFinite then .ok ⟨0.0, 0.0⟩
    else .ok ⟨signed 0.0 value.im.cos, signed 0.0 value.im.sin⟩
  else if value.im.isInf then .error .outsideDomain
  else if !value.re.isInf then .ok unknown
  else if value.im.isNaN then .ok ⟨positiveInfinity, notANumber⟩
  else if isZero value.im then .ok ⟨positiveInfinity, value.im⟩
  else .ok ⟨signed positiveInfinity value.im.cos, signed positiveInfinity value.im.sin⟩

def exp (value : Complex) : Except Fault Complex :=
  if !value.isFinite then expAtLimits value
  else if logLarge < value.re then
    let size := (value.re - 1.0).exp
    inRange ⟨size * value.im.cos * euler, size * value.im.sin * euler⟩
  else
    let size := value.re.exp
    inRange ⟨size * value.im.cos, size * value.im.sin⟩

def sinhAtLimits (value : Complex) : Except Fault Complex :=
  if value.re.isNaN then .ok ⟨notANumber, if isZero value.im then value.im else notANumber⟩
  else if value.im.isInf then .error .outsideDomain
  else if value.re.isInf then
    if value.im.isNaN then .ok ⟨positiveInfinity, notANumber⟩
    else if isZero value.im then .ok value
    else
      let even := signed positiveInfinity value.im.cos
      .ok ⟨if isNegative value.re then -even else even, signed positiveInfinity value.im.sin⟩
  else if isZero value.re then .ok ⟨0.0, notANumber⟩
  else .ok unknown

def sinh (value : Complex) : Except Fault Complex :=
  if !value.isFinite then sinhAtLimits value
  else if logLarge < value.re.abs then
    let nearer := value.re - signed 1.0 value.re
    inRange ⟨value.im.cos * nearer.sinh * euler, value.im.sin * nearer.cosh * euler⟩
  else inRange ⟨value.im.cos * value.re.sinh, value.im.sin * value.re.cosh⟩

def coshAtLimits (value : Complex) : Except Fault Complex :=
  if value.re.isNaN then .ok ⟨notANumber, if isZero value.im then 0.0 else notANumber⟩
  else if value.im.isInf then .error .outsideDomain
  else if value.re.isInf then
    if value.im.isNaN then .ok ⟨positiveInfinity, notANumber⟩
    else
      let size := if isZero value.im then 0.0 else positiveInfinity
      let odd := signed size (if isZero value.im then value.im else value.im.sin)
      let even := if isZero value.im then positiveInfinity else signed positiveInfinity value.im.cos
      .ok ⟨even, if isNegative value.re then -odd else odd⟩
  else if isZero value.re then .ok ⟨notANumber, 0.0⟩
  else .ok unknown

def cosh (value : Complex) : Except Fault Complex :=
  if !value.isFinite then coshAtLimits value
  else if logLarge < value.re.abs then
    let nearer := value.re - signed 1.0 value.re
    inRange ⟨value.im.cos * nearer.cosh * euler, value.im.sin * nearer.sinh * euler⟩
  else inRange ⟨value.im.cos * value.re.cosh, value.im.sin * value.re.sinh⟩

def tanhAtLimits (value : Complex) : Except Fault Complex :=
  if value.re.isInf then
    let limit := signed 1.0 value.re
    if !value.im.isFinite then .ok ⟨limit, 0.0⟩
    else if isZero value.im then .ok ⟨limit, value.im⟩
    else .ok ⟨limit, signed 0.0 (2.0 * value.im.sin * value.im.cos)⟩
  else if value.re.isNaN then
    .ok ⟨notANumber, if isZero value.im then value.im else notANumber⟩
  else if value.im.isInf then .error .outsideDomain
  else .ok unknown

def tanh (value : Complex) : Except Fault Complex :=
  if !value.isFinite then tanhAtLimits value
  else if logLarge < value.re.abs then
    .ok ⟨signed 1.0 value.re,
      4.0 * value.im.sin * value.im.cos * (-2.0 * value.re.abs).exp⟩
  else
    let hyperbolic := value.re.tanh
    let circular := value.im.tan
    let inverse := 1.0 / value.re.cosh
    let product := hyperbolic * circular
    let scale := 1.0 + product * product
    .ok ⟨hyperbolic * (1.0 + circular * circular) / scale, circular / scale * inverse * inverse⟩

def sin (value : Complex) : Except Fault Complex := (sinh value.timesI).map timesMinusI

def cos (value : Complex) : Except Fault Complex := cosh value.timesI

def tan (value : Complex) : Except Fault Complex := (tanh value.timesI).map timesMinusI

def isLarge (value : Complex) : Bool := large < value.re.abs || large < value.im.abs

def logHalves (value : Complex) : Float :=
  (hypotenuse (value.re / 2.0) (value.im / 2.0)).log + lnTwo * 2.0

def asinh (value : Complex) : Complex :=
  if value.hasInfinity then
    if value.re.isNaN then ⟨positiveInfinity, notANumber⟩
    else ⟨signed positiveInfinity value.re, Float.atan2 value.im value.re.abs⟩
  else if !value.isFinite then ⟨notANumber, if isZero value.im then value.im else notANumber⟩
  else if value.isLarge then ⟨signed value.logHalves value.re, Float.atan2 value.im value.re.abs⟩
  else
    let above := sqrt ⟨1.0 + value.im, -value.re⟩
    let below := sqrt ⟨1.0 - value.im, value.re⟩
    ⟨(above.re * below.im - below.re * above.im).asinh,
      Float.atan2 value.im (above.re * below.re - above.im * below.im)⟩

def acos (value : Complex) : Complex :=
  if value.hasInfinity then
    ⟨Float.atan2 value.im.abs value.re,
      if value.im.isNaN then positiveInfinity else signed positiveInfinity (-value.im)⟩
  else if !value.isFinite then ⟨if isZero value.re then pi / 2.0 else notANumber, notANumber⟩
  else if value.isLarge then
    ⟨Float.atan2 value.im.abs value.re, signed value.logHalves (-value.im)⟩
  else
    let left := sqrt ⟨1.0 - value.re, -value.im⟩
    let right := sqrt ⟨1.0 + value.re, value.im⟩
    ⟨2.0 * Float.atan2 left.re right.re, (right.re * left.im - right.im * left.re).asinh⟩

/-- On the right half plane; the other half is its reflection. -/
def atanhRight (value : Complex) : Except Fault Complex :=
  let imSize := value.im.abs
  if sqrtLarge < value.re || sqrtLarge < imSize then
    let size := hypotenuse (value.re / 2.0) (value.im / 2.0)
    .ok ⟨value.re / 4.0 / size / size, -signed (pi / 2.0) (-value.im)⟩
  else if value.re == 1.0 && imSize < sqrtLeastNormal then
    if isZero imSize then .error .outsideDomain
    else
      .ok ⟨-(imSize.sqrt / (hypotenuse imSize 2.0).sqrt).log,
        signed (Float.atan2 2.0 (-imSize) / 2.0) value.im⟩
  else
    let gap := 1.0 - value.re
    .ok ⟨logOnePlus (4.0 * value.re / (gap * gap + imSize * imSize)) / 4.0,
      -Float.atan2 (-2.0 * value.im) (gap * (1.0 + value.re) - imSize * imSize) / 2.0⟩

def atanh (value : Complex) : Except Fault Complex :=
  if value.hasInfinity then
    .ok ⟨if value.re.isNaN then 0.0 else signed 0.0 value.re,
      if value.im.isNaN then notANumber else signed (pi / 2.0) value.im⟩
  else if !value.isFinite then .ok ⟨if isZero value.re then value.re else notANumber, notANumber⟩
  else if isNegative value.re then (atanhRight value.neg).map neg
  else atanhRight value

def asin (value : Complex) : Complex := (asinh value.timesI).timesMinusI

def atan (value : Complex) : Except Fault Complex := (atanh value.timesI).map timesMinusI

end FormulaPlot.Complex
