import FormulaPlot.Formula.Evaluation
import FormulaPlot.Formula.Typesetting
import FormulaPlot.Proofs.Formula.Failures

/-!
Formulas of the safe language: they can be resolved and typeset, and their evaluation fails for no
other reasons than numeric ones, each at a node where it can arise.
-/

namespace FormulaPlot

set_option autoImplicit false

namespace Program

variable (lookup : String → Option Float)

theorem run_negation (operand : Program) :
    run lookup (.negation operand) =
      (operand.run lookup).bind fun value => .ok value.negate := by
  rw [run]
  cases operand.run lookup <;> rfl

theorem run_operation (operator : BinaryOperator) (left right : Program) :
    run lookup (.operation operator left right) =
      (left.run lookup).bind fun first => (right.run lookup).bind (operator.apply first) := by
  rw [run]
  cases left.run lookup with
  | error fault => rfl
  | ok first => cases right.run lookup <;> rfl

theorem run_application (function : ElementaryFunction) (argument : Program) :
    run lookup (.application function argument) =
      (argument.run lookup).bind function.apply := by
  rw [run]
  cases argument.run lookup <;> rfl

theorem run_logarithm (argument base : Program) :
    run lookup (.logarithm argument base) =
      (argument.run lookup).bind fun value =>
        (base.run lookup).bind fun baseValue =>
          (ElementaryFunction.log.apply value).bind fun numerator =>
            (ElementaryFunction.log.apply baseValue).bind
              (BinaryOperator.divideValues numerator) := by
  rw [run]
  cases argument.run lookup with
  | error fault => rfl
  | ok value =>
      cases base.run lookup with
      | error fault => rfl
      | ok baseValue =>
          cases numerator : ElementaryFunction.log.apply value with
          | error fault => simp [Except.bind, numerator]
          | ok top =>
              cases denominator : ElementaryFunction.log.apply baseValue <;>
                simp [Except.bind, numerator, denominator]

/-- A program that reads its inputs only and that cannot fail by itself but for the number of
arguments of a call. -/
def Grounded (inputs : List String) : Program → Prop
  | constant _ => True
  | input name => name ∈ inputs
  | failure fault => ∃ name count, fault = .wrongArity name count
  | negation operand => operand.Grounded inputs
  | operation _ left right => left.Grounded inputs ∧ right.Grounded inputs
  | application _ argument => argument.Grounded inputs
  | logarithm argument base => argument.Grounded inputs ∧ base.Grounded inputs

variable {lookup}

theorem finite_of_value {value : Value} {number : Float} (found : value.toFinite? = some number) :
    number.isFinite = true := by
  cases value with
  | real value =>
      simp only [Value.toFinite?, Option.ite_none_right_eq_some, Option.some.injEq] at found
      rw [← found.2]
      exact found.1
  | complex value =>
      simp only [Value.toFinite?, Option.ite_none_right_eq_some, Option.some.injEq,
        Bool.and_eq_true] at found
      rw [← found.2]
      exact found.1.2

theorem finite_of_evaluate {program : Program} {number : Float}
    (evaluated : program.evaluate lookup = .ok number) : number.isFinite = true := by
  unfold evaluate at evaluated
  split at evaluated
  · simp at evaluated
  · split at evaluated
    · rename_i found
      simp only [Except.ok.injEq] at evaluated
      rw [← evaluated]
      exact finite_of_value found
    · simp at evaluated

theorem evaluate_failed {program : Program} {fault : EvaluationFault}
    (failed : program.evaluate lookup = .error fault) :
    program.run lookup = .error fault ∨
      ∃ value, program.run lookup = .ok value ∧ value.toFinite? = none ∧
        fault = .notReal value := by
  unfold evaluate at failed
  split at failed
  · next ran =>
      injection failed with same
      exact .inl (same ▸ ran)
  · next value ran =>
      split at failed
      · contradiction
      · next nothing =>
          injection failed with same
          exact .inr ⟨value, ran, nothing, same.symm⟩

end Program

theorem Evaluator.lookup_of_bound {bindings : List (String × Float)} {name : String}
    (bound : name ∈ bindings.map Prod.fst) : (lookupIn bindings name).isSome = true := by
  induction bindings with
  | nil => simp at bound
  | cons binding rest induction =>
      obtain ⟨key, value⟩ := binding
      simp only [List.map_cons, List.mem_cons] at bound
      unfold lookupIn
      cases behind : lookupIn rest name with
      | some found => rfl
      | none =>
          rcases bound with same | later
          · simp [same]
          · have known := induction later
            simp [behind] at known

namespace Formula

variable {label : Type} {allowed inputs : List String}

theorem first_violation_none_iff (formula : Formula label) :
    formula.firstViolation allowed = none ↔
      ∀ node ∈ formula.walk, node.violation? allowed = none := by
  simp [firstViolation]

/-- A formula is accepted when its root is and all of its parts are. -/
theorem accepted_iff (formula : Formula label) :
    formula.firstViolation allowed = none ↔
      formula.violation? allowed = none ∧
        ∀ child ∈ formula.children, child.firstViolation allowed = none := by
  simp only [first_violation_none_iff]
  rw [walk_eq]
  simp only [List.forall_mem_cons, List.mem_flatMap, forall_exists_index, and_imp]
  constructor
  · rintro ⟨root, parts⟩
    exact ⟨root, fun child member node inside => parts node child member inside⟩
  · rintro ⟨root, parts⟩
    exact ⟨root, fun node child member inside => parts child member node inside⟩

/-- A formula is resolved to a program that reads its inputs only; with values for them, what the
program does is explained by the formula. -/
structure ResolvesTo (inputs : List String) (formula : Formula label) (program : Program) :
    Prop where
  resolved : formula.resolve inputs = .ok program
  grounded : program.Grounded inputs
  explained : ∀ lookup : String → Option Float,
    (∀ name ∈ inputs, (lookup name).isSome = true) → formula.Explains (program.run lookup)

theorem resolves_symbol (place : label) {name : String}
    (known : name ∈ inputs ∨ name = "pi" ∨ name = "e") :
    ResolvesTo inputs (symbol place name) (symbolProgram inputs name) := by
  unfold symbolProgram
  by_cases isInput : inputs.contains name = true
  · rw [if_pos isInput]
    have member : name ∈ inputs := by simpa using isInput
    refine ⟨by rw [resolve, symbolProgram, if_pos isInput], member, ?_⟩
    intro lookup bound
    obtain ⟨value, found⟩ := Option.isSome_iff_exists.mp (bound name member)
    rw [Program.run, found]
    exact explains_real value
  · rw [if_neg isInput]
    obtain ⟨value, constant⟩ : ∃ value, namedConstant? name = some value := by
      rcases known with member | rfl | rfl
      · exact absurd (by simpa using member) isInput
      · exact ⟨_, rfl⟩
      · exact ⟨_, rfl⟩
    rw [constant]
    refine ⟨by rw [resolve, symbolProgram, if_neg isInput, constant], trivial, ?_⟩
    intro lookup bound
    exact explains_real value

theorem resolves_operation {place : label} {sign : TokenKind} {left right : Formula label}
    {operator : BinaryOperator} (found : BinaryOperator.ofKind? sign = some operator)
    {first second : Program} (leftResolves : ResolvesTo inputs left first)
    (rightResolves : ResolvesTo inputs right second) :
    ResolvesTo inputs (binary place sign left right) (.operation operator first second) := by
  refine ⟨?_, ⟨leftResolves.grounded, rightResolves.grounded⟩, ?_⟩
  · simp only [resolve, leftResolves.resolved, rightResolves.resolved, found]
  · intro lookup bound
    have leftExplained := leftResolves.explained lookup bound
    have rightExplained := rightResolves.explained lookup bound
    rw [Program.run_operation]
    refine leftExplained.bind (by simp [children]) fun value ran => ?_
    refine rightExplained.bind (by simp [children]) fun other ranToo => ?_
    rw [ran] at leftExplained
    rw [ranToo] at rightExplained
    exact explains_operation found leftExplained rightExplained

theorem resolves_application {place : label} {name : String} {function : ElementaryFunction}
    (found : ElementaryFunction.ofName? name = some function) {argument : Formula label}
    {program : Program} (resolves : ResolvesTo inputs argument program) :
    ResolvesTo inputs (call place name [argument]) (.application function program) := by
  refine ⟨?_, resolves.grounded, ?_⟩
  · have taken : function.takes [argument].length = true := by simp [ElementaryFunction.takes]
    simp only [resolve, found, if_pos taken, resolveAll, resolves.resolved, applicationProgram]
  · intro lookup bound
    rw [Program.run_application]
    refine (resolves.explained lookup bound).bind (by simp [children]) fun value _ => ?_
    exact explains_call rfl (function.apply_fails_with value) fun _ => .application found

theorem resolves_logarithm {place : label} {name : String}
    (found : ElementaryFunction.ofName? name = some .log) {argument base : Formula label}
    {first second : Program} (argumentResolves : ResolvesTo inputs argument first)
    (baseResolves : ResolvesTo inputs base second) :
    ResolvesTo inputs (call place name [argument, base]) (.logarithm first second) := by
  refine ⟨?_, ⟨argumentResolves.grounded, baseResolves.grounded⟩, ?_⟩
  · have taken : ElementaryFunction.log.takes [argument, base].length = true := rfl
    simp only [resolve, found, if_pos taken, resolveAll, argumentResolves.resolved,
      baseResolves.resolved, applicationProgram]
  · intro lookup bound
    rw [Program.run_logarithm]
    refine (argumentResolves.explained lookup bound).bind (by simp [children]) fun value _ => ?_
    refine (baseResolves.explained lookup bound).bind (by simp [children]) fun baseValue _ => ?_
    have logarithm (argument : Value) :
        FailsWith (ElementaryFunction.log.faults ++ BinaryOperator.divide.faults)
          (ElementaryFunction.log.apply argument) :=
      (ElementaryFunction.log.apply_fails_with argument).mono (List.subset_append_left _ _)
    have quotient (numerator denominator : Value) :
        FailsWith (ElementaryFunction.log.faults ++ BinaryOperator.divide.faults)
          (BinaryOperator.divideValues numerator denominator) :=
      (BinaryOperator.divide_fails_with _ _).mono (List.subset_append_right _ _)
    have whole := (logarithm value).bind fun numerator =>
      (logarithm baseValue).bind fun denominator => quotient numerator denominator
    exact explains_call rfl whole fun _ => .logarithm found

theorem resolves_arity {place : label} {name : String} {function : ElementaryFunction}
    (found : ElementaryFunction.ofName? name = some function)
    {arguments : List (Formula label)} (refused : function.takes arguments.length = false) :
    ResolvesTo inputs (call place name arguments)
      (.failure (.wrongArity name arguments.length)) := by
  refine ⟨?_, ⟨_, _, rfl⟩, fun _ _ => explains_failure (.arity found refused)⟩
  simp only [resolve, found, refused, Bool.false_eq_true, if_false]

theorem resolves_of_accepted
    (covered : ∀ name ∈ allowed, name ∈ inputs ∨ name = "pi" ∨ name = "e")
    (formula : Formula label) (accepted : formula.firstViolation allowed = none) :
    ∃ program, ResolvesTo inputs formula program := by
  induction formula using parts_induction with
  | step formula induction =>
      rw [accepted_iff] at accepted
      obtain ⟨root, parts⟩ := accepted
      have resolves := fun child member => induction child member (parts child member)
      cases formula with
      | constant place value lexeme =>
          exact ⟨_, rfl, trivial, fun _ _ => explains_real value⟩
      | symbol place name =>
          have known : name ∈ allowed := by simpa [violation?] using root
          exact ⟨_, resolves_symbol place (covered name known)⟩
      | group place inner =>
          obtain ⟨program, resolves⟩ := resolves inner (by simp [children])
          exact ⟨program, resolves.resolved, resolves.grounded, fun lookup bound =>
            (resolves.explained lookup bound).of_part (by simp [children])⟩
      | unary place operator operand =>
          obtain ⟨program, resolves⟩ := resolves operand (by simp [children])
          have isSign : operator.isSign = true := by simpa [violation?] using root
          by_cases minus : operator = .minus
          · refine ⟨.negation program, ?_, resolves.grounded, ?_⟩
            · simp only [resolve, resolves.resolved, if_pos minus]
            · intro lookup bound
              rw [Program.run_negation]
              exact (resolves.explained lookup bound).negate (by simp [children])
          · have plus : operator = .plus := by simpa [TokenKind.isSign, minus] using isSign
            refine ⟨program, ?_, resolves.grounded, fun lookup bound =>
              (resolves.explained lookup bound).of_part (by simp [children])⟩
            simp only [resolve, resolves.resolved, if_neg minus, if_pos plus]
      | binary place operator left right =>
          obtain ⟨first, leftResolves⟩ := resolves left (by simp [children])
          obtain ⟨second, rightResolves⟩ := resolves right (by simp [children])
          have isArithmetic : operator.isArithmetic = true := by simpa [violation?] using root
          obtain ⟨operation, found⟩ := BinaryOperator.exists_of_arithmetic isArithmetic
          exact ⟨_, resolves_operation found leftResolves rightResolves⟩
      | call place name arguments =>
          have known : (ElementaryFunction.ofName? name).isSome = true := by
            simpa [violation?, Option.isSome_iff_ne_none] using root
          obtain ⟨function, found⟩ := Option.isSome_iff_exists.mp known
          cases taken : function.takes arguments.length with
          | false => exact ⟨_, resolves_arity found taken⟩
          | true =>
              rcases ElementaryFunction.takes_cases taken with
                ⟨argument, rfl⟩ | ⟨argument, base, rfl, rfl⟩
              · obtain ⟨program, resolves⟩ := resolves argument (by simp [children])
                exact ⟨_, resolves_application found resolves⟩
              · obtain ⟨first, argumentResolves⟩ := resolves argument (by simp [children])
                obtain ⟨second, baseResolves⟩ := resolves base (by simp [children])
                exact ⟨_, resolves_logarithm found argumentResolves baseResolves⟩
      | _ => simp [violation?] at root

theorem resolve_of_accepted
    (covered : ∀ name ∈ allowed, name ∈ inputs ∨ name = "pi" ∨ name = "e")
    (formula : Formula label) (accepted : formula.firstViolation allowed = none) :
    ∃ program, formula.resolve inputs = .ok program ∧ program.Grounded inputs := by
  obtain ⟨program, resolves⟩ := resolves_of_accepted covered formula accepted
  exact ⟨program, resolves.resolved, resolves.grounded⟩

theorem typeset_all_of_each {formulas : List (Formula label)}
    (each : ∀ formula ∈ formulas, ∃ text, formula.typesetWith true = .ok text) :
    ∃ texts, typesetAll formulas = .ok texts := by
  induction formulas with
  | nil => exact ⟨[], rfl⟩
  | cons formula rest induction =>
      rw [List.forall_mem_cons] at each
      obtain ⟨text, typeset⟩ := each.1
      obtain ⟨texts, allTypeset⟩ := induction each.2
      exact ⟨text :: texts, by simp [typesetAll, typeset, allTypeset, Except.map]⟩

theorem typeset_of_accepted (formula : Formula label)
    (accepted : formula.firstViolation allowed = none) (bared : Bool) :
    ∃ text, formula.typesetWith bared = .ok text := by
  induction formula using parts_induction generalizing bared with
  | step formula induction =>
      rw [accepted_iff] at accepted
      obtain ⟨root, parts⟩ := accepted
      have parted := fun child member => induction child member (parts child member)
      cases formula with
      | constant place value lexeme => exact ⟨lexeme, rfl⟩
      | symbol place name => exact ⟨Typesetting.symbol name, rfl⟩
      | group place inner =>
          cases bared with
          | true => exact parted inner (by simp [children]) true
          | false =>
              obtain ⟨text, typeset⟩ := parted inner (by simp [children]) false
              exact ⟨_, by simp only [typesetWith, typeset, Except.map]; rfl⟩
      | unary place operator operand =>
          obtain ⟨text, typeset⟩ := parted operand (by simp [children]) false
          exact ⟨_, by simp only [typesetWith, typeset, Except.map]; rfl⟩
      | binary place operator left right =>
          have isArithmetic : operator.isArithmetic = true := by
            simpa [violation?] using root
          have leftTypeset := parted left (by simp [children])
          have rightTypeset := parted right (by simp [children])
          obtain ⟨baredLeft, leftBared⟩ := leftTypeset true
          obtain ⟨baredRight, rightBared⟩ := rightTypeset true
          obtain ⟨first, leftWhole⟩ := leftTypeset false
          obtain ⟨second, rightWhole⟩ := rightTypeset false
          cases operator <;> simp [TokenKind.isArithmetic] at isArithmetic <;>
            simp [typesetWith, leftBared, rightBared, leftWhole, rightWhole, Except.map,
              Typesetting.infixSign?]
      | call place name arguments =>
          obtain ⟨texts, allTypeset⟩ :=
            typeset_all_of_each fun argument member => parted argument member true
          simp only [children] at allTypeset
          exact ⟨_, by simp only [typesetWith, allTypeset, Except.map]; rfl⟩
      | _ => simp [violation?] at root

/-- Formulas that are not refused do not go wrong. The allowed symbols have to be inputs or named
constants; then the formula can be resolved and typeset, and with values for all inputs its
evaluation gives a finite number or fails for a numeric reason: at a node where that can happen, or
because the value is no finite real number. -/
theorem accepted_never_goes_wrong (formula : Formula label) (allowed inputs : List String)
    (covered : ∀ name ∈ allowed, name ∈ inputs ∨ name = "pi" ∨ name = "e")
    (accepted : formula.refusal? allowed = none) :
    (∃ latex, formula.typeset = .ok latex) ∧
    ∃ evaluator, Evaluator.ofFormula formula inputs = .ok evaluator ∧
      ∀ bindings : List (String × Float), (∀ name ∈ inputs, name ∈ bindings.map Prod.fst) →
        (∃ number, evaluator.evaluate bindings = .ok number ∧ number.isFinite = true) ∨
          ∃ fault, evaluator.evaluate bindings = .error fault ∧ fault.isNumeric = true ∧
            ((∃ node ∈ formula.walk, node.FailsAt fault) ∨
              ∃ value, evaluator.program.run (Evaluator.lookupIn bindings) = .ok value ∧
                value.toFinite? = none ∧ fault = .notReal value) := by
  have noViolation : formula.firstViolation allowed = none := by
    simpa [refusal?] using accepted
  obtain ⟨program, resolves⟩ := resolves_of_accepted covered formula noViolation
  refine ⟨typeset_of_accepted formula noViolation false, ⟨formula, inputs, program⟩, ?_, ?_⟩
  · simp only [Evaluator.ofFormula, resolves.resolved, Except.map]
  · intro bindings bound
    have explained := resolves.explained (Evaluator.lookupIn bindings)
      fun name isInput => Evaluator.lookup_of_bound (bound name isInput)
    unfold Evaluator.evaluate
    dsimp only
    cases evaluated : program.evaluate (Evaluator.lookupIn bindings) with
    | ok number => exact .inl ⟨number, rfl, Program.finite_of_evaluate evaluated⟩
    | error fault =>
        refine .inr ⟨fault, rfl, ?_⟩
        rcases Program.evaluate_failed evaluated with failed | ⟨value, ran, nothing, rfl⟩
        · obtain ⟨node, within, fails⟩ := explained.failed fault failed
          exact ⟨fails.numeric, .inl ⟨node, within, fails⟩⟩
        · exact ⟨rfl, .inr ⟨value, ran, nothing, rfl⟩⟩

theorem shifted_line_never_goes_wrong :
    let formula : Formula Unit := .binary () .plus (.symbol () "x") (.symbol () "pi")
    formula.refusal? ["x", "pi"] = none ∧
      (∃ latex, formula.typeset = .ok latex) ∧
      ∃ evaluator, Evaluator.ofFormula formula ["x"] = .ok evaluator ∧
        ∀ bindings : List (String × Float), (∀ name ∈ ["x"], name ∈ bindings.map Prod.fst) →
          (∃ number, evaluator.evaluate bindings = .ok number ∧ number.isFinite = true) ∨
            ∃ fault, evaluator.evaluate bindings = .error fault ∧ fault.isNumeric = true ∧
              ((∃ node ∈ formula.walk, node.FailsAt fault) ∨
                ∃ value, evaluator.program.run (Evaluator.lookupIn bindings) = .ok value ∧
                  value.toFinite? = none ∧ fault = .notReal value) := by
  have accepted : refusal? ["x", "pi"]
      (.binary () .plus (.symbol () "x") (.symbol () "pi") : Formula Unit) = none := by
    simp [refusal?, firstViolation, walk_eq, children, violation?, TokenKind.isArithmetic]
  exact ⟨accepted, accepted_never_goes_wrong _ ["x", "pi"] ["x"] (by decide) accepted⟩

end Formula

end FormulaPlot
