import FormulaPlot.Formula.Value
import FormulaPlot.Text.Quoted

/-!
Evaluation of formulas. A formula is resolved once into a program over its variables; what cannot
have a value then is part of the program and fails when it is reached.
-/

namespace FormulaPlot

set_option autoImplicit false

inductive Program where
  | constant (value : Float)
  | input (name : String)
  | failure (fault : EvaluationFault)
  | negation (operand : Program)
  | operation (operator : BinaryOperator) (left right : Program)
  | application (function : ElementaryFunction) (argument : Program)
  | logarithm (argument base : Program)

namespace Program

def run (lookup : String → Option Float) : Program → Computed Value
  | constant value => .ok (.real value)
  | input name =>
      match lookup name with
      | some value => .ok (.real value)
      | none => .error (.missingBinding name)
  | failure fault => .error fault
  | negation operand =>
      match operand.run lookup with
      | .error fault => .error fault
      | .ok value => .ok value.negate
  | operation operator left right =>
      match left.run lookup with
      | .error fault => .error fault
      | .ok first =>
          match right.run lookup with
          | .error fault => .error fault
          | .ok second => operator.apply first second
  | application function argument =>
      match argument.run lookup with
      | .error fault => .error fault
      | .ok value => function.apply value
  | logarithm argument base =>
      match argument.run lookup with
      | .error fault => .error fault
      | .ok value =>
          match base.run lookup with
          | .error fault => .error fault
          | .ok baseValue =>
              match ElementaryFunction.log.apply value with
              | .error fault => .error fault
              | .ok numerator =>
                  match ElementaryFunction.log.apply baseValue with
                  | .error fault => .error fault
                  | .ok denominator => BinaryOperator.divideValues numerator denominator

/-- The finite real number that a program computes. -/
def evaluate (lookup : String → Option Float) (program : Program) : Computed Float :=
  match program.run lookup with
  | .error fault => .error fault
  | .ok value =>
      match value.toFinite? with
      | some number => .ok number
      | none => .error (.notReal value)

end Program

namespace Formula

variable {label : Type}

def namedConstant? (name : String) : Option Float :=
  if name = "pi" then some Complex.pi
  else if name = "e" then some Complex.euler
  else none

def symbolProgram (inputs : List String) (name : String) : Program :=
  if inputs.contains name then .input name
  else
    match namedConstant? name with
    | some value => .constant value
    | none => .failure (.undefinedSymbol name)

def applicationProgram (function : ElementaryFunction) : List Program → Program
  | [argument] => .application function argument
  | [argument, base] => .logarithm argument base
  | arguments => .failure (.wrongArity function.name arguments.length)

mutual

/-- Only arithmetic can be resolved. Arguments are looked at when the called function takes that
many. -/
def resolve (inputs : List String) : Formula label → Except (Violation × label) Program
  | constant _ value _ => .ok (.constant value)
  | symbol _ name => .ok (symbolProgram inputs name)
  | group _ inner => inner.resolve inputs
  | unary _ operator operand =>
      match operand.resolve inputs with
      | .error found => .error found
      | .ok program =>
          if operator = .minus then .ok (.negation program)
          else if operator = .plus then .ok program
          else .ok (.failure (.unsupportedSign operator))
  | binary _ operator left right =>
      match left.resolve inputs with
      | .error found => .error found
      | .ok first =>
          match right.resolve inputs with
          | .error found => .error found
          | .ok second =>
              match BinaryOperator.ofKind? operator with
              | some operation => .ok (.operation operation first second)
              | none => .ok (.failure (.unsupportedOperator operator))
  | call _ name arguments =>
      match ElementaryFunction.ofName? name with
      | none => .ok (.failure (.undefinedFunction name))
      | some function =>
          if function.takes arguments.length then
            match resolveAll inputs arguments with
            | .error found => .error found
            | .ok programs => .ok (applicationProgram function programs)
          else .ok (.failure (.wrongArity name arguments.length))
  | formula => .error (.feature formula.kind, formula.place)

def resolveAll (inputs : List String) :
    List (Formula label) → Except (Violation × label) (List Program)
  | [] => .ok []
  | formula :: rest =>
      match formula.resolve inputs with
      | .error found => .error found
      | .ok program =>
          match resolveAll inputs rest with
          | .error found => .error found
          | .ok programs => .ok (program :: programs)

end

end Formula

/-- A formula as a function of an ordered list of variables. -/
structure Evaluator (label : Type) where
  formula : Formula label
  inputs : List String
  program : Program

namespace Evaluator

variable {label : Type}

def ofFormula (formula : Formula label) (inputs : List String) :
    Except (Violation × label) (Evaluator label) :=
  (formula.resolve inputs).map fun program => ⟨formula, inputs, program⟩

/-- Of two bindings of one name the later one counts. -/
def lookupIn : List (String × Float) → String → Option Float
  | [], _ => none
  | (key, value) :: rest, name =>
      match lookupIn rest name with
      | some found => some found
      | none => if key = name then some value else none

def evaluate (evaluator : Evaluator label) (bindings : List (String × Float)) :
    Computed Float :=
  evaluator.program.evaluate (lookupIn bindings)

structure ArityFault where
  expected : Nat
  found : Nat
  deriving DecidableEq, Repr

def ArityFault.message (fault : ArityFault) : String :=
  "expected " ++ toString fault.expected ++ " argument(s), got " ++ toString fault.found

/-- Values by position. A failed evaluation has no value. -/
def call (evaluator : Evaluator label) (values : List Float) : Except ArityFault (Option Float) :=
  if values.length = evaluator.inputs.length then
    .ok (evaluator.evaluate (evaluator.inputs.zip values)).toOption
  else .error ⟨evaluator.inputs.length, values.length⟩

def atX (evaluator : Evaluator label) (x : Float) : Option Float :=
  (evaluator.evaluate [("x", x)]).toOption

def atXY (evaluator : Evaluator label) (x y : Float) : Option Float :=
  (evaluator.evaluate [("x", x), ("y", y)]).toOption

def text (evaluator : Evaluator label) : String :=
  let names := evaluator.inputs.map Text.quoted
  let comma := if names.length = 1 then "," else ""
  "Evaluator(variables=(" ++ String.intercalate ", " names ++ comma ++ "))"

def agrees [BEq label] (first second : Evaluator label) : Bool :=
  first.inputs == second.inputs && first.formula.agrees second.formula

end Evaluator

end FormulaPlot
