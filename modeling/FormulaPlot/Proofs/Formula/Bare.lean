import FormulaPlot.Proofs.Formula.Acceptance

/-!
What a formula means does not depend on its labels.
-/

namespace FormulaPlot

set_option autoImplicit false

section Errors

variable {before after value : Type} (change : before → after)

theorem map_error_ok (made : value) : (Except.ok made).mapError change = .ok made := rfl

theorem map_error_error (fault : before) :
    (Except.error fault : Except before value).mapError change = .error (change fault) := rfl

theorem map_error_eq_ok_iff (result : Except before value) (made : value) :
    result.mapError change = .ok made ↔ result = .ok made := by
  cases result with
  | error fault => simp [map_error_error]
  | ok found => rw [map_error_ok, Except.ok.injEq, Except.ok.injEq]

end Errors

namespace Formula

variable {label other : Type} (change : label → other)

theorem relabel_all_eq (formulas : List (Formula label)) :
    relabelAll change formulas = formulas.map (relabel change) := by
  induction formulas with
  | nil => rfl
  | cons formula rest induction => exact congrArg (List.cons (formula.relabel change)) induction

theorem relabel_entries_eq (entries : List (String × Formula label)) :
    relabelEntries change entries = entries.map fun entry => (entry.1, entry.2.relabel change) := by
  induction entries with
  | nil => rfl
  | cons entry rest induction =>
      obtain ⟨key, formula⟩ := entry
      exact congrArg (List.cons (key, formula.relabel change)) induction

theorem children_relabel (formula : Formula label) :
    (formula.relabel change).children = formula.children.map (relabel change) := by
  cases formula <;> simp [relabel, children, relabel_all_eq, relabel_entries_eq]

theorem depth_relabel (formula : Formula label) :
    (formula.relabel change).depth = formula.depth := by
  apply depth_eq_of_bounds
  induction formula using parts_induction with
  | step formula induction =>
      intro bound
      rw [depth_le_iff, depth_le_iff, children_relabel, List.forall_mem_map]
      apply and_congr_right
      intro positive
      apply forall_congr'
      intro child
      apply forall_congr'
      intro member
      have parts := induction child member (bound - 1)
      omega

theorem violation_relabel (allowed : List String) (formula : Formula label) :
    (formula.relabel change).violation? allowed = formula.violation? allowed := by
  cases formula <;> rfl

theorem accepted_relabel (allowed : List String) (formula : Formula label) :
    (formula.relabel change).firstViolation allowed = none ↔
      formula.firstViolation allowed = none := by
  induction formula using parts_induction with
  | step formula induction =>
      rw [accepted_iff, accepted_iff formula, violation_relabel, children_relabel,
        List.forall_mem_map]
      apply and_congr_right
      intro root
      apply forall_congr'
      intro child
      apply forall_congr'
      exact induction child

theorem accepted_of_bare {allowed : List String} {first second : Formula label}
    (same : first.bare = second.bare) :
    first.firstViolation allowed = none ↔ second.firstViolation allowed = none := by
  have forgotten := accepted_relabel (fun _ : label => ()) allowed
  unfold bare at same
  rw [← forgotten first, same, forgotten second]

theorem resolve_all_relabel (inputs : List String) {formulas : List (Formula label)}
    (each : ∀ formula ∈ formulas, (formula.relabel change).resolve inputs =
      (formula.resolve inputs).mapError fun found => (found.1, change found.2)) :
    resolveAll inputs (formulas.map (relabel change)) =
      (resolveAll inputs formulas).mapError fun found => (found.1, change found.2) := by
  induction formulas with
  | nil => rfl
  | cons formula rest induction =>
      rw [List.forall_mem_cons] at each
      rw [List.map_cons, resolveAll, resolveAll, each.1, induction each.2]
      cases formula.resolve inputs with
      | error found => rfl
      | ok program => cases resolveAll inputs rest <;> rfl

theorem resolve_relabel (inputs : List String) (formula : Formula label) :
    (formula.relabel change).resolve inputs =
      (formula.resolve inputs).mapError fun found => (found.1, change found.2) := by
  induction formula using parts_induction with
  | step formula induction =>
      cases formula with
      | group place inner => exact induction inner (by simp [children])
      | unary place operator operand =>
          rw [relabel, resolve, resolve, induction operand (by simp [children])]
          cases operand.resolve inputs with
          | error found => rfl
          | ok program =>
              simp only [map_error_ok]
              split
              · rfl
              · split <;> rfl
      | binary place operator left right =>
          rw [relabel, resolve, resolve, induction left (by simp [children]),
            induction right (by simp [children])]
          cases left.resolve inputs with
          | error found => rfl
          | ok first =>
              cases right.resolve inputs with
              | error found => rfl
              | ok second =>
                  simp only [map_error_ok]
                  cases BinaryOperator.ofKind? operator <;> rfl
      | call place name arguments =>
          have all := resolve_all_relabel change inputs induction
          simp only [children] at all
          rw [relabel, resolve, resolve, relabel_all_eq, all, List.length_map]
          cases ElementaryFunction.ofName? name with
          | none => rfl
          | some function =>
              dsimp only
              split
              · cases resolveAll inputs arguments <;> rfl
              · rfl
      | _ => rfl

theorem resolve_of_bare {inputs : List String} {first second : Formula label} {program : Program}
    (same : first.bare = second.bare) (resolved : first.resolve inputs = .ok program) :
    second.resolve inputs = .ok program := by
  have results := congrArg (resolve inputs) same
  unfold bare at results
  rw [resolve_relabel, resolve_relabel, resolved, map_error_ok] at results
  exact (map_error_eq_ok_iff _ _ _).mp results.symm

section Nodes

variable (place : label) (name : String) (kind : TokenKind)
  (first second third : Formula label) (formulas : List (Formula label))

@[simp] theorem constant_bare (value : Float) (lexeme : String) :
    (constant place value lexeme).bare = constant () value lexeme := rfl

@[simp] theorem symbol_bare : (symbol place name).bare = symbol () name := rfl

@[simp] theorem group_bare : (group place first).bare = group () first.bare := rfl

@[simp] theorem unary_bare : (unary place kind first).bare = unary () kind first.bare := rfl

@[simp] theorem binary_bare :
    (binary place kind first second).bare = binary () kind first.bare second.bare := rfl

@[simp] theorem call_bare :
    (call place name formulas).bare = call () name (formulas.map bare) :=
  congrArg (call () name) (relabel_all_eq _ formulas)

@[simp] theorem assignment_bare :
    (assignment place first second).bare = assignment () first.bare second.bare := rfl

@[simp] theorem definition_bare (parameters : List String) :
    (definition place name parameters first).bare = definition () name parameters first.bare := rfl

@[simp] theorem index_bare :
    (index place first formulas).bare = index () first.bare (formulas.map bare) :=
  congrArg (index () first.bare) (relabel_all_eq _ formulas)

@[simp] theorem member_bare : (member place first name).bare = member () first.bare name := rfl

@[simp] theorem range_bare :
    (range place first second).bare = range () first.bare second.bare := rfl

@[simp] theorem stepped_range_bare :
    (steppedRange place first second third).bare =
      steppedRange () first.bare second.bare third.bare := rfl

@[simp] theorem array_bare : (array place formulas).bare = array () (formulas.map bare) :=
  congrArg (array ()) (relabel_all_eq _ formulas)

@[simp] theorem object_bare (entries : List (String × Formula label)) :
    (object place entries).bare =
      object () (entries.map fun entry => (entry.1, entry.2.bare)) :=
  congrArg (object ()) (relabel_entries_eq _ entries)

@[simp] theorem block_bare : (block place formulas).bare = block () (formulas.map bare) :=
  congrArg (block ()) (relabel_all_eq _ formulas)

end Nodes

end Formula

end FormulaPlot
