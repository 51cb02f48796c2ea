import FormulaPlot.Proofs.Formula.Acceptance

/-!
Inputs that a formula does not name. A safe formula stays safe when more symbols are allowed, it is
resolved alike for all lists of inputs that share its symbols, and its value depends on the values
of those alone.
-/

namespace FormulaPlot

set_option autoImplicit false

namespace Formula

variable {label : Type} {allowed wider inputs others : List String}

theorem violation_of_wider (covered : ∀ name ∈ allowed, name ∈ wider) {formula : Formula label}
    (accepted : formula.violation? allowed = none) : formula.violation? wider = none := by
  cases formula with
  | symbol place name =>
      have known : name ∈ allowed := by simpa [violation?] using accepted
      simpa [violation?] using covered name known
  | _ => exact accepted

theorem accepted_of_wider (covered : ∀ name ∈ allowed, name ∈ wider) {formula : Formula label}
    (accepted : formula.firstViolation allowed = none) :
    formula.firstViolation wider = none := by
  rw [first_violation_none_iff] at accepted ⊢
  intro node inside
  exact violation_of_wider covered (accepted node inside)

theorem symbol_program_eq {name : String} (shared : name ∈ inputs ↔ name ∈ others) :
    symbolProgram inputs name = symbolProgram others name := by
  unfold symbolProgram
  by_cases isInput : name ∈ inputs
  · rw [if_pos (by simpa using isInput), if_pos (by simpa using shared.mp isInput)]
  · rw [if_neg (by simpa using isInput), if_neg (by simpa using mt shared.mpr isInput)]

theorem resolve_all_eq {formulas : List (Formula label)}
    (each : ∀ formula ∈ formulas, formula.resolve inputs = formula.resolve others) :
    resolveAll inputs formulas = resolveAll others formulas := by
  induction formulas with
  | nil => rfl
  | cons formula rest induction =>
      rw [List.forall_mem_cons] at each
      simp only [resolveAll, each.1, induction each.2]

/-- Lists of inputs that share the allowed symbols resolve a safe formula to one program. -/
theorem resolve_eq_of_accepted (shared : ∀ name ∈ allowed, name ∈ inputs ↔ name ∈ others)
    (formula : Formula label) (accepted : formula.firstViolation allowed = none) :
    formula.resolve inputs = formula.resolve others := by
  induction formula using parts_induction with
  | step formula induction =>
      rw [accepted_iff] at accepted
      obtain ⟨root, parts⟩ := accepted
      have alike := fun child member => induction child member (parts child member)
      cases formula with
      | constant place value lexeme => rfl
      | symbol place name =>
          have known : name ∈ allowed := by simpa [violation?] using root
          rw [resolve, resolve, symbol_program_eq (shared name known)]
      | group place inner => exact alike inner (by simp [children])
      | unary place operator operand =>
          rw [resolve, resolve, alike operand (by simp [children])]
      | binary place operator left right =>
          rw [resolve, resolve, alike left (by simp [children]), alike right (by simp [children])]
      | call place name arguments =>
          have all : resolveAll inputs arguments = resolveAll others arguments :=
            resolve_all_eq alike
          rw [resolve, resolve, all]
      | _ => simp [violation?] at root

end Formula

namespace Program

variable {inputs : List String} {lookup other : String → Option Float}

theorem run_congr (agree : ∀ name ∈ inputs, lookup name = other name) {program : Program}
    (grounded : program.Grounded inputs) : program.run lookup = program.run other := by
  induction program with
  | constant value => rfl
  | input name => rw [run, run, agree name grounded]
  | failure fault => rfl
  | negation operand induction => rw [run, run, induction grounded]
  | operation operator left right leftInduction rightInduction =>
      rw [run, run, leftInduction grounded.1, rightInduction grounded.2]
  | application function argument induction => rw [run, run, induction grounded]
  | logarithm argument base argumentInduction baseInduction =>
      rw [run, run, argumentInduction grounded.1, baseInduction grounded.2]

theorem evaluate_congr (agree : ∀ name ∈ inputs, lookup name = other name) {program : Program}
    (grounded : program.Grounded inputs) : program.evaluate lookup = program.evaluate other := by
  rw [evaluate, evaluate, run_congr agree grounded]

end Program

end FormulaPlot
