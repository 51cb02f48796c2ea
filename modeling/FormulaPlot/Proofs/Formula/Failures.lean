import FormulaPlot.Proofs.Formula.Faults
import FormulaPlot.Proofs.Formula.Traversal

/-!
Where evaluation can fail. Each kind of failure belongs to certain nodes of a formula: arithmetic to
operators and calls, a modulo to those over a power or a call, a wrong number of arguments to calls
that do not take that many.
-/

namespace FormulaPlot

set_option autoImplicit false

/-- Failures that depend on the numbers at hand or on the number of arguments of a call, not on the
names and signs of a formula. -/
def EvaluationFault.isNumeric : EvaluationFault → Bool
  | arithmetic _ => true
  | complexModulo => true
  | wrongArity .. => true
  | notReal _ => true
  | _ => false

namespace Formula

variable {label : Type}

/-- A power or a call: its value need not be real. -/
def leavesLine : Formula label → Bool
  | binary _ .caret _ _ => true
  | call .. => true
  | _ => false

/-- Ways in which evaluation fails at a node of a formula. -/
inductive FailsAt : Formula label → EvaluationFault → Prop
  | operation {place : label} {sign : TokenKind} {left right : Formula label}
      {operator : BinaryOperator} {reason : Fault} :
      BinaryOperator.ofKind? sign = some operator → reason ∈ operator.faults →
      FailsAt (.binary place sign left right) (.arithmetic reason)
  | modulo {place : label} {left right node : Formula label} :
      node ∈ left.walk ++ right.walk → node.leavesLine = true →
      FailsAt (.binary place .percent left right) .complexModulo
  | application {place : label} {name : String} {argument : Formula label}
      {function : ElementaryFunction} {reason : Fault} :
      ElementaryFunction.ofName? name = some function → reason ∈ function.faults →
      FailsAt (.call place name [argument]) (.arithmetic reason)
  | logarithm {place : label} {name : String} {argument base : Formula label} {reason : Fault} :
      ElementaryFunction.ofName? name = some .log →
      reason ∈ ElementaryFunction.log.faults ++ BinaryOperator.divide.faults →
      FailsAt (.call place name [argument, base]) (.arithmetic reason)
  | arity {place : label} {name : String} {arguments : List (Formula label)}
      {function : ElementaryFunction} :
      ElementaryFunction.ofName? name = some function →
      function.takes arguments.length = false →
      FailsAt (.call place name arguments) (.wrongArity name arguments.length)

theorem FailsAt.numeric {node : Formula label} {fault : EvaluationFault}
    (fails : node.FailsAt fault) : fault.isNumeric = true := by
  cases fails <;> rfl

/-- The nodes of a formula account for a result: for its fault, or for its not being real. -/
structure Explains (formula : Formula label) (result : Computed Value) : Prop where
  failed : ∀ fault, result = .error fault → ∃ node ∈ formula.walk, node.FailsAt fault
  complex : ∀ value, result = .ok value → value.isReal = false →
    ∃ node ∈ formula.walk, node.leavesLine = true

section Explains

variable {formula : Formula label} {result : Computed Value}

theorem explains_real (number : Float) : formula.Explains (.ok (.real number)) where
  failed := nofun
  complex := by
    intro value same complex
    injection same with same
    rw [← same] at complex
    contradiction

theorem Explains.of_part {child : Formula label} (explained : child.Explains result)
    (part : child ∈ formula.children) : formula.Explains result where
  failed := by
    intro fault failed
    obtain ⟨node, within, fails⟩ := explained.failed fault failed
    exact ⟨node, walk_child part within, fails⟩
  complex := by
    intro value done complex
    obtain ⟨node, within, leaves⟩ := explained.complex value done complex
    exact ⟨node, walk_child part within, leaves⟩

theorem Explains.negate {child : Formula label} (explained : child.Explains result)
    (part : child ∈ formula.children) :
    formula.Explains (result.bind fun value => .ok value.negate) := by
  have whole := explained.of_part part
  cases result with
  | error fault =>
      exact ⟨fun found same => whole.failed found (congrArg _ (Except.error.inj same)), nofun⟩
  | ok value =>
      refine ⟨nofun, ?_⟩
      intro negated same complex
      injection same with same
      refine whole.complex value rfl ?_
      cases value with
      | real number =>
          rw [← same] at complex
          contradiction
      | complex number => rfl

/-- What is computed of a part fails like the part, and from then on it is for the formula to
explain. -/
theorem Explains.bind {child : Formula label} (explained : child.Explains result)
    (part : child ∈ formula.children) {next : Value → Computed Value}
    (behind : ∀ value, result = .ok value → formula.Explains (next value)) :
    formula.Explains (result.bind next) := by
  cases result with
  | ok value => exact behind value rfl
  | error fault =>
      have whole := explained.of_part part
      exact ⟨fun found same => whole.failed found (congrArg _ (Except.error.inj same)), nofun⟩

theorem explains_failure {fault : EvaluationFault} (fails : formula.FailsAt fault) :
    formula.Explains (.error fault) where
  failed := by
    intro found same
    injection same with same
    exact ⟨formula, mem_walk_self formula, same ▸ fails⟩
  complex := nofun

theorem explains_call {reasons : List Fault} (leaves : formula.leavesLine = true)
    (fails : FailsWith reasons result)
    (listed : ∀ reason ∈ reasons, formula.FailsAt (.arithmetic reason)) :
    formula.Explains result where
  failed := by
    intro fault failed
    obtain ⟨reason, member, rfl⟩ := fails fault failed
    exact ⟨formula, mem_walk_self formula, listed reason member⟩
  complex := fun _ _ _ => ⟨formula, mem_walk_self formula, leaves⟩

theorem explains_operation {place : label} {sign : TokenKind} {left right : Formula label}
    {operator : BinaryOperator} (found : BinaryOperator.ofKind? sign = some operator)
    {first second : Value} (leftExplained : left.Explains (.ok first))
    (rightExplained : right.Explains (.ok second)) :
    (binary place sign left right).Explains (operator.apply first second) := by
  have outside : first.isReal = false ∨ second.isReal = false →
      ∃ node ∈ left.walk ++ right.walk, node.leavesLine = true := by
    rintro (complex | complex)
    · obtain ⟨node, within, leaves⟩ := leftExplained.complex first rfl complex
      exact ⟨node, List.mem_append_left _ within, leaves⟩
    · obtain ⟨node, within, leaves⟩ := rightExplained.complex second rfl complex
      exact ⟨node, List.mem_append_right _ within, leaves⟩
  constructor
  · intro fault failed
    refine ⟨_, mem_walk_self _, ?_⟩
    rcases BinaryOperator.apply_fails failed with ⟨reason, listed, rfl⟩ | ⟨rfl, rfl, complex⟩
    · exact .operation found listed
    · obtain ⟨node, within, leaves⟩ := outside complex
      obtain rfl := BinaryOperator.percent_of_modulo found
      exact .modulo within leaves
  · intro value done complex
    rcases BinaryOperator.apply_not_real done complex with rfl | complex
    · obtain rfl := BinaryOperator.caret_of_power found
      exact ⟨_, mem_walk_self _, rfl⟩
    · obtain ⟨node, within, leaves⟩ := outside complex
      refine ⟨node, ?_, leaves⟩
      rw [walk_eq]
      simpa [children] using Or.inr (List.mem_append.mp within)

end Explains

end Formula

end FormulaPlot
