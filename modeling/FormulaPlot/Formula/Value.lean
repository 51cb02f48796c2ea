import FormulaPlot.Decimal.Shortest
import FormulaPlot.Formula.Safety
import FormulaPlot.Numeric.Power

/-!
Values that formulas take on the way: real as long as possible, complex where a function leaves the
real line. A complex operand makes the other one complex.
-/

namespace FormulaPlot

open FormulaPlot.Binary64

set_option autoImplicit false

inductive Value where
  | real (value : Float)
  | complex (value : Complex)

namespace Value

def toComplex : Value → Complex
  | real value => .ofReal value
  | complex value => value

/-- Imaginary parts below this are taken for rounding noise. -/
def tolerance : Float := 1e-10

/-- The finite real number that a value stands for, if it stands for one. -/
def toFinite? : Value → Option Float
  | real value => if value.isFinite then some value else none
  | complex value =>
      if value.im.abs < tolerance && value.re.isFinite then some value.re else none

/-- A complex number without a positive zero in front; the imaginary part carries its sign. -/
def complexText (write : Extended → String) (value : Complex) : String :=
  let imaginary := write (read value.im) ++ "j"
  if isZero value.re && !isNegative value.re then imaginary
  else
    let plus := if imaginary.startsWith "-" then "" else "+"
    "(" ++ write (read value.re) ++ plus ++ imaginary ++ ")"

def text (write : Extended → String) : Value → String
  | real value => write (read value)
  | complex value => complexText write value

end Value

inductive EvaluationFault where
  | arithmetic (fault : Fault)
  | complexModulo
  | undefinedSymbol (name : String)
  | undefinedFunction (name : String)
  | wrongArity (name : String) (count : Nat)
  | unsupportedSign (operator : TokenKind)
  | unsupportedOperator (operator : TokenKind)
  | missingBinding (name : String)
  | notReal (value : Value)

namespace EvaluationFault

def message (write : Extended → String) : EvaluationFault → String
  | arithmetic fault => fault.message
  | complexModulo => "Modulo is undefined for complex values"
  | undefinedSymbol name => "Undefined symbol: " ++ name
  | undefinedFunction name => "Undefined function: " ++ name
  | wrongArity name count =>
      "Wrong number of arguments for " ++ name ++ ": " ++ toString count
  | unsupportedSign operator => "Unsupported unary operator: " ++ operator.name
  | unsupportedOperator operator => "Unsupported operator: " ++ operator.name
  | missingBinding name => "Missing binding for " ++ name
  | notReal value => "Non-finite or non-real result: " ++ value.text write

end EvaluationFault

abbrev Computed (α : Type) := Except EvaluationFault α

def ofArithmetic {α : Type} (result : Except Fault α) : Computed α :=
  result.mapError .arithmetic

inductive BinaryOperator where
  | add
  | subtract
  | multiply
  | divide
  | modulo
  | power
  deriving DecidableEq, Repr

namespace BinaryOperator

def ofKind? : TokenKind → Option BinaryOperator
  | .plus => some add
  | .minus => some subtract
  | .star => some multiply
  | .slash => some divide
  | .percent => some modulo
  | .caret => some power
  | _ => none

def divideReal (left right : Float) : Except Fault Float :=
  if isZero right then .error .divisionByZero else .ok (left / right)

def divideValues : Value → Value → Computed Value
  | .real left, .real right => ofArithmetic ((divideReal left right).map .real)
  | left, right => ofArithmetic ((Complex.div left.toComplex right.toComplex).map .complex)

def powerComplex (base exponent : Complex) : Computed Value :=
  ofArithmetic ((Complex.pow base exponent).map .complex)

def powerValues : Value → Value → Computed Value
  | .real base, .real exponent =>
      match realPower base exponent with
      | .real value => .ok (.real value)
      | .failed fault => .error (.arithmetic fault)
      | .leavesTheLine => powerComplex (.ofReal base) (.ofReal exponent)
  | base, exponent => powerComplex base.toComplex exponent.toComplex

def apply : BinaryOperator → Value → Value → Computed Value
  | add, .real left, .real right => .ok (.real (left + right))
  | add, left, right => .ok (.complex (left.toComplex.add right.toComplex))
  | subtract, .real left, .real right => .ok (.real (left - right))
  | subtract, left, right => .ok (.complex (left.toComplex.sub right.toComplex))
  | multiply, .real left, .real right => .ok (.real (left * right))
  | multiply, left, right => .ok (.complex (left.toComplex.mul right.toComplex))
  | divide, left, right => divideValues left right
  | modulo, .real left, .real right => ofArithmetic ((FormulaPlot.modulo left right).map .real)
  | modulo, _, _ => .error .complexModulo
  | power, base, exponent => powerValues base exponent

end BinaryOperator

def Value.negate : Value → Value
  | real value => real (-value)
  | complex value => complex value.neg

namespace ElementaryFunction

/-- A real function's limits: no value where it has none on the real line, nor where a finite
argument would give an infinite one. -/
def insideDomain (argument result : Float) : Except Fault Float :=
  if result.isNaN && !argument.isNaN then .error .outsideDomain
  else if result.isInf && argument.isFinite then .error .outsideDomain
  else .ok result

def logarithmReal (function : Float → Float) (argument : Float) : Except Fault Float :=
  if argument.isNaN then .ok argument
  else if argument ≤ 0.0 then .error .outsideDomain
  else .ok (function argument)

def expReal (argument : Float) : Except Fault Float :=
  let result := argument.exp
  if result.isInf && argument.isFinite then .error .outOfRange else .ok result

def onReal : ElementaryFunction → Float → Except Fault Float
  | sin, argument => insideDomain argument argument.sin
  | cos, argument => insideDomain argument argument.cos
  | tan, argument => insideDomain argument argument.tan
  | asin, argument => insideDomain argument argument.asin
  | acos, argument => insideDomain argument argument.acos
  | atan, argument => insideDomain argument argument.atan
  | sqrt, argument => insideDomain argument argument.sqrt
  | abs, argument => .ok argument.abs
  | log, argument => logarithmReal Float.log argument
  | log10, argument => logarithmReal Float.log10 argument
  | exp, argument => expReal argument

def onComplex : ElementaryFunction → Complex → Except Fault Value
  | sin, argument => argument.sin.map .complex
  | cos, argument => argument.cos.map .complex
  | tan, argument => argument.tan.map .complex
  | asin, argument => .ok (.complex argument.asin)
  | acos, argument => .ok (.complex argument.acos)
  | atan, argument => argument.atan.map .complex
  | sqrt, argument => .ok (.complex argument.sqrt)
  | abs, argument => argument.abs.map .real
  | log, argument => argument.log.map .complex
  | log10, argument => argument.log10.map .complex
  | exp, argument => argument.exp.map .complex

/-- The real function first; where its domain ends, the complex one. -/
def apply (function : ElementaryFunction) : Value → Computed Value
  | .complex argument => ofArithmetic (function.onComplex argument)
  | .real argument =>
      match function.onReal argument with
      | .ok result => .ok (.real result)
      | .error .outsideDomain => ofArithmetic (function.onComplex (.ofReal argument))
      | .error fault => .error (.arithmetic fault)

end ElementaryFunction

end FormulaPlot
