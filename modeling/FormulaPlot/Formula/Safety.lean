import FormulaPlot.Formula.Diagnostic

/-!
The safe language: arithmetic over allowed symbols and eleven functions. A formula outside it is
refused by its first offending node.
-/

namespace FormulaPlot

set_option autoImplicit false

inductive ElementaryFunction where
  | sin
  | cos
  | tan
  | asin
  | acos
  | atan
  | sqrt
  | abs
  | log
  | log10
  | exp
  deriving DecidableEq, Repr

namespace ElementaryFunction

def all : List ElementaryFunction :=
  [sin, cos, tan, asin, acos, atan, sqrt, abs, log, log10, exp]

def name : ElementaryFunction → String
  | sin => "sin"
  | cos => "cos"
  | tan => "tan"
  | asin => "asin"
  | acos => "acos"
  | atan => "atan"
  | sqrt => "sqrt"
  | abs => "abs"
  | log => "log"
  | log10 => "log10"
  | exp => "exp"

def ofName? (name : String) : Option ElementaryFunction :=
  all.find? fun function => function.name = name

/-- Only a logarithm takes a second argument, its base. -/
def takes (function : ElementaryFunction) (count : Nat) : Bool :=
  count == 1 || (count == 2 && function == log)

end ElementaryFunction

def explicitSymbols : List String := ["x", "pi", "e"]

def implicitSymbols : List String := ["x", "y", "pi", "e"]

def surfaceSymbols : List String := implicitSymbols

namespace Formula

variable {label : Type}

/-- The rule that a single node breaks, its parts aside. -/
def violation? (allowed : List String) : Formula label → Option Violation
  | constant .. => none
  | symbol _ name => if allowed.contains name then none else some (.symbol name allowed)
  | group .. => none
  | unary _ operator _ => if operator.isSign then none else some (.operator operator.sign)
  | binary _ operator _ _ =>
      if operator.isArithmetic then none else some (.operator operator.sign)
  | call _ name _ =>
      if (ElementaryFunction.ofName? name).isSome then none else some (.function name)
  | formula => some (.feature formula.kind)

def firstViolation (allowed : List String) (formula : Formula label) :
    Option (Violation × label) :=
  formula.walk.findSome? fun node =>
    (node.violation? allowed).map fun violation => (violation, node.place)

/-- The sentence about the first offending node. -/
def refusal? (allowed : List String) (formula : Formula label) : Option String :=
  (formula.firstViolation allowed).map fun found => found.1.message

end Formula

end FormulaPlot
