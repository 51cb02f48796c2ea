import FormulaPlot.Formula.Tree

/-!
Formulas in the language of pgfmath. Every operand is put in parentheses, and powers are written as
calls. Angles are degrees there, so curves keep trigonometry out and surfaces convert it.
-/

namespace FormulaPlot

set_option autoImplicit false

inductive ConversionFault where
  | noFormula
  | symbol (name : String)
  | unaryOperator
  | operator (sign : String)
  | trigonometry (name : String)
  | function (name : String)
  | argumentCount (name : String)
  | feature (kind : String)
  deriving DecidableEq, Repr

def ConversionFault.message : ConversionFault → String
  | noFormula => "No parsed expression."
  | symbol name => "Unsupported symbol " ++ name
  | unaryOperator => "Only binary operators are supported."
  | operator sign => "Unsupported operator " ++ sign
  | trigonometry name =>
      "Trig/inverse trig export is emitted as coordinates for safety (" ++ name ++ ")."
  | function name => "Unsupported function " ++ name
  | argumentCount name => name ++ " with multiple arguments is unsupported."
  | feature kind => "Unsupported node type " ++ kind

abbrev Converted := Except ConversionFault String

/-- How variables and calls are spelled. A call is first accepted by its name and number of
arguments, then written around its converted argument. -/
structure Spelling where
  inputs : List (String × String)
  accept : String → Nat → Except ConversionFault Unit
  write : String → String → Converted

namespace Pgfmath

def parenthesized (text : String) : String := "(" ++ text ++ ")"

def applied (name argument : String) : String := name ++ parenthesized argument

def isTrigonometric (name : String) : Bool := ["sin", "cos", "tan"].contains name

def isInverseTrigonometric (name : String) : Bool := ["asin", "acos", "atan"].contains name

/-- A curve's function of a running coordinate. -/
def curve : Spelling where
  inputs := [("x", "\\x")]
  accept name count :=
    if isTrigonometric name || isInverseTrigonometric name then .error (.trigonometry name)
    else if !(["sqrt", "abs", "exp", "log", "ln"].contains name) then .error (.function name)
    else if count ≠ 1 then .error (.argumentCount name)
    else .ok ()
  write name argument :=
    .ok (applied (if name = "log" || name = "ln" then "ln" else name) argument)

/-- A surface's function of two coordinates. -/
def surface : Spelling where
  inputs := [("x", "x"), ("y", "y")]
  accept name count := if count ≠ 1 then .error (.argumentCount name) else .ok ()
  write name argument :=
    if isTrigonometric name then .ok (applied name (applied "deg" argument))
    else if isInverseTrigonometric name then
      .ok (parenthesized (applied name argument) ++ "*pi/180")
    else if ["sqrt", "abs", "exp"].contains name then .ok (applied name argument)
    else if name = "log" then .ok (applied "ln" argument)
    else if name = "log10" then .ok (parenthesized (applied "ln" argument ++ "/ln(10)"))
    else .error (.function name)

def namedConstant? (name : String) : Option String :=
  if name = "pi" then some "pi" else if name = "e" then some "exp(1)" else none

def symbol (spelling : Spelling) (name : String) : Converted :=
  match spelling.inputs.lookup name with
  | some spelled => .ok spelled
  | none =>
      match namedConstant? name with
      | some spelled => .ok spelled
      | none => .error (.symbol name)

def combined (operator : TokenKind) (left right : String) : Converted :=
  match operator with
  | .plus | .minus | .star | .slash =>
      .ok (parenthesized left ++ operator.sign ++ parenthesized right)
  | .caret => .ok (applied "pow" (left ++ "," ++ right))
  | _ => .error (.operator operator.sign)

end Pgfmath

namespace Formula

open FormulaPlot.Pgfmath

variable {label : Type}

mutual

def convert (spelling : Spelling) : Formula label → Converted
  | constant _ _ lexeme => .ok lexeme
  | symbol _ name => Pgfmath.symbol spelling name
  | group _ inner => inner.convert spelling
  | unary _ operator operand =>
      if operator = .minus then (operand.convert spelling).map fun text => "-" ++ parenthesized text
      else .error .unaryOperator
  | binary _ operator left right =>
      match left.convert spelling with
      | .error fault => .error fault
      | .ok first =>
          match right.convert spelling with
          | .error fault => .error fault
          | .ok second => combined operator first second
  | call _ name arguments =>
      match spelling.accept name arguments.length with
      | .error fault => .error fault
      | .ok () => convertCall spelling name arguments
  | formula => .error (.feature formula.kind)

def convertCall (spelling : Spelling) (name : String) : List (Formula label) → Converted
  | argument :: _ =>
      match argument.convert spelling with
      | .error fault => .error fault
      | .ok text => spelling.write name text
  | [] => .error (.argumentCount name)

end

/-- A missing formula cannot be converted. -/
def convert? (spelling : Spelling) : Option (Formula label) → Converted
  | some formula => formula.convert spelling
  | none => .error .noFormula

end Formula

end FormulaPlot
