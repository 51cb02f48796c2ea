import FormulaPlot.Proofs.Equation.Sides

/-!
The states of a prepared text. Nothing was entered, or a problem is kept and nothing that could be
drawn, or there is a safe formula together with its evaluator and its typeset form.
-/

namespace FormulaPlot

open FormulaPlot.Equation FormulaPlot.Text

set_option autoImplicit false

/-- Problems that the stages of preparation report: of the text, of the shape of an equation, and of
a node at its place. A violation without a place would come from an operator that typesetting has
no sign for, which no stage reports. -/
def Problem.IsReported : Problem → Prop
  | .violation _ span => span.isSome = true
  | _ => True

theorem form_reported (fault : FormFault) : (Problem.form fault).IsReported := trivial

namespace Prepared

structure IsBlank (prepared : Prepared) : Prop where
  text : prepared.normalized = ""
  problem : prepared.message? = none
  formula : prepared.formula? = none
  evaluator : prepared.evaluator? = none
  latex : prepared.latex = none

structure IsFailed (prepared : Prepared) : Prop where
  problem : ∃ problem, prepared.problem? = some problem ∧ problem.IsReported ∧
    prepared.message? = some problem.message
  formula : prepared.formula? = none
  evaluator : prepared.evaluator? = none

/-- The typeset form is that of the formula, except that a relation is shown as it was entered. -/
def Shows (prepared : Prepared) (formula : Formula Span) (latex : String) : Prop :=
  match prepared.mode with
  | .explicit => formula.typeset = .ok latex
  | .implicit => latex = prepared.normalized
  | .surface => ∃ height, formula.typeset = .ok height ∧ latex = "z = " ++ height

/-- The parts of a text that can be drawn belong together. -/
structure Carries (prepared : Prepared) (made : Evaluator Span) : Prop where
  evaluator : prepared.evaluator? = some made
  formula : prepared.formula? = some made.formula
  safe : made.formula.refusal? prepared.mode.symbols = none
  inputs : made.inputs = prepared.mode.inputs
  resolved : made.formula.resolve made.inputs = .ok made.program
  latex : ∃ latex, prepared.latex = some latex ∧ prepared.Shows made.formula latex

structure IsValid (prepared : Prepared) : Prop where
  problem : prepared.message? = none
  carries : ∃ made, prepared.Carries made

structure InOneState (prepared : Prepared) : Prop where
  state : prepared.IsBlank ∨ prepared.IsFailed ∨ prepared.IsValid
  failed : prepared.IsFailed → ¬prepared.IsBlank
  valid : prepared.IsValid → ¬prepared.IsBlank ∧ ¬prepared.IsFailed
  ready : prepared.isReady = true ↔ prepared.IsValid

variable {prepared : Prepared}

theorem IsValid.ready (valid : prepared.IsValid) : prepared.isReady = true := by
  obtain ⟨made, carries⟩ := valid.carries
  have present := carries.evaluator
  unfold evaluator? at present
  unfold isReady
  split at present
  · rfl
  · contradiction

theorem not_ready_of_nothing (nothing : prepared.evaluator? = none) :
    ¬prepared.isReady = true := by
  intro isReady
  obtain ⟨whole, outcome⟩ := ready_of_is_ready isReady
  rw [evaluator?, outcome] at nothing
  contradiction

theorem IsValid.not_blank (valid : prepared.IsValid) : ¬prepared.IsBlank :=
  fun blank => not_ready_of_nothing blank.evaluator valid.ready

theorem IsValid.not_failed (valid : prepared.IsValid) : ¬prepared.IsFailed :=
  fun failed => not_ready_of_nothing failed.evaluator valid.ready

theorem IsFailed.not_blank (failed : prepared.IsFailed) : ¬prepared.IsBlank := by
  intro blank
  obtain ⟨problem, _, _, present⟩ := failed.problem
  rw [blank.problem] at present
  contradiction

theorem in_one_state (state : prepared.IsBlank ∨ prepared.IsFailed ∨ prepared.IsValid) :
    prepared.InOneState where
  state := state
  failed := IsFailed.not_blank
  valid := fun valid => ⟨valid.not_blank, valid.not_failed⟩
  ready := by
    constructor
    · intro isReady
      rcases state with blank | failed | valid
      · exact absurd isReady (not_ready_of_nothing blank.evaluator)
      · exact absurd isReady (not_ready_of_nothing failed.evaluator)
      · exact valid
    · exact IsValid.ready

theorem not_blank_of_state (state : prepared.IsFailed ∨ prepared.IsValid) :
    ¬prepared.IsBlank := by
  rcases state with failed | valid
  · exact failed.not_blank
  · exact valid.not_blank

theorem blank_of_nothing {text : String} (empty : text.isEmpty = true) (mode : Mode) :
    IsBlank ⟨text, mode, none, .blank⟩ :=
  ⟨String.isEmpty_iff.mp empty, rfl, rfl, rfl, rfl⟩

theorem failed_of_problem {problem : Problem} (reported : problem.IsReported) (text : String)
    (mode : Mode) (latex : Option String) :
    IsFailed ⟨text, mode, latex, .refused problem⟩ :=
  ⟨⟨problem, rfl, reported, rfl⟩, rfl, rfl⟩

end Prepared

namespace PreparedRecord

structure KeepsNothing (kept : PreparedRecord) : Prop where
  latex : kept.latex = none
  problem : kept.problem = none
  evaluator : kept.evaluator = none
  relation : kept.relation = none
  formula : kept.formula = none

structure KeepsProblem (kept : PreparedRecord) (problem : Problem) : Prop where
  problem : kept.problem = some problem
  evaluator : kept.evaluator = none
  relation : kept.relation = none
  formula : kept.formula = none

/-- The evaluator of a relation and that of a curve or surface are kept in different places, and the
other place is left free. -/
structure KeepsFormula (kept : PreparedRecord) (made : Evaluator Span) : Prop where
  problem : kept.problem = none
  evaluator : kept.evaluator = if kept.mode = .implicit then none else some made
  relation : kept.relation = if kept.mode = .implicit then some made else none
  formula : kept.formula = some made.formula

/-- What is kept belongs to the state that is told from it, and the record counts as valid exactly
when that state is ready. -/
structure AgreesWithState (kept : PreparedRecord) : Prop where
  blank : kept.outcome = .blank → kept.KeepsNothing
  refused : ∀ problem, kept.outcome = .refused problem → kept.KeepsProblem problem
  ready : ∀ made, kept.outcome = .ready made → kept.KeepsFormula made
  valid : kept.isValid = kept.prepared.isReady

variable {kept : PreparedRecord}

theorem agrees_of_blank (keeps : kept.KeepsNothing) : kept.AgreesWithState := by
  have isBlank : kept.outcome = .blank := by
    rw [outcome, keeps.problem, keeps.evaluator, keeps.relation]
  refine ⟨fun _ => keeps, ?_, ?_, ?_⟩
  · simp [isBlank]
  · simp [isBlank]
  · simp [isValid, prepared, Prepared.isReady, isBlank, keeps.problem, keeps.evaluator, keeps.relation]

theorem agrees_of_refused {problem : Problem} (keeps : kept.KeepsProblem problem) :
    kept.AgreesWithState := by
  have isRefused : kept.outcome = .refused problem := by rw [outcome, keeps.problem]
  refine ⟨?_, ?_, ?_, ?_⟩
  · simp [isRefused]
  · rintro found same
    rw [isRefused] at same
    injection same with same
    rwa [← same]
  · simp [isRefused]
  · simp [isValid, prepared, Prepared.isReady, isRefused, keeps.problem]

theorem agrees_of_ready {made : Evaluator Span} (keeps : kept.KeepsFormula made) :
    kept.AgreesWithState := by
  have isReady : kept.outcome = .ready made := by
    rw [outcome, keeps.problem, keeps.evaluator, keeps.relation]
    by_cases implicit : kept.mode = .implicit
    · rw [if_pos implicit, if_pos implicit]
    · rw [if_neg implicit, if_neg implicit]
  refine ⟨?_, ?_, ?_, ?_⟩
  · simp [isReady]
  · simp [isReady]
  · rintro found same
    rw [isReady] at same
    injection same with same
    rwa [← same]
  · rw [isValid, keeps.problem, keeps.evaluator, keeps.relation, prepared, Prepared.isReady, isReady]
    by_cases implicit : kept.mode = .implicit <;> simp [implicit]

end PreparedRecord

namespace Equation

open FormulaPlot.Prepared FormulaPlot.PreparedRecord

theorem read_reported {text : String} {problem : Problem}
    (refused : Formula.read text = .error problem) : problem.IsReported := by
  unfold Formula.read at refused
  split at refused
  · injection refused with same
    rw [← same]
    trivial
  · next tokens _ =>
      cases parsed : Formula.ofTokens tokens with
      | ok formula =>
          rw [parsed] at refused
          contradiction
      | error fault =>
          rw [parsed, map_error_error] at refused
          injection refused with same
          rw [← same]
          trivial

theorem evaluator_reported {mode : Mode} {text : String} {problem : Problem}
    (refused : evaluator mode text = .error problem) : problem.IsReported := by
  unfold evaluator at refused
  split at refused
  · next found =>
      injection refused with same
      rw [← same]
      exact read_reported found
  · next formula _ =>
      split at refused
      · injection refused with same
        rw [← same]
        rfl
      · cases made : Evaluator.ofFormula formula mode.inputs with
        | ok evaluator =>
            rw [made] at refused
            contradiction
        | error found =>
            rw [made] at refused
            injection refused with same
            rw [← same]
            rfl

theorem typeset_of_evaluator {mode : Mode} {text : String} {made : Evaluator Span}
    (accepted : evaluator mode text = .ok made) :
    ∃ latex, made.formula.typeset = .ok latex := by
  obtain ⟨formula, _, safe, evaluated⟩ := (evaluator_eq_ok_iff _ _ _).mp accepted
  obtain ⟨program, _, rfl⟩ := evaluator_of_formula_iff.mp evaluated
  exact Formula.typeset_of_accepted formula safe false

/-- Whatever gets through the checks can be typeset, so that typesetting never stops
preparation. -/
theorem latex_of_evaluator {mode : Mode} {text : String} {made : Evaluator Span}
    (accepted : evaluator mode text = .ok made) :
    ∃ latex, made.formula.typeset = .ok latex ∧
      evaluatorWithLatex mode text = .ok (made, latex) := by
  obtain ⟨latex, typeset⟩ := typeset_of_evaluator accepted
  exact ⟨latex, typeset, by simp only [evaluatorWithLatex, accepted, typeset]⟩

theorem latex_of_refused {mode : Mode} {text : String} {problem : Problem}
    (refused : evaluator mode text = .error problem) :
    evaluatorWithLatex mode text = .error problem := by
  simp only [evaluatorWithLatex, refused]

theorem valid_of_evaluator {mode : Mode} {text normalized latex : String}
    {made : Evaluator Span} (accepted : evaluator mode text = .ok made)
    (shows : Shows ⟨normalized, mode, some latex, .ready made⟩ made.formula latex) :
    IsValid ⟨normalized, mode, some latex, .ready made⟩ := by
  obtain ⟨formula, _, safe, evaluated⟩ := (evaluator_eq_ok_iff _ _ _).mp accepted
  obtain ⟨program, resolved, rfl⟩ := evaluator_of_formula_iff.mp evaluated
  refine ⟨rfl, ⟨formula, mode.inputs, program⟩, ?_⟩
  exact
    { evaluator := rfl
      formula := rfl
      safe := by rw [Formula.refusal?, safe, Option.map_none]
      inputs := rfl
      resolved := resolved
      latex := ⟨latex, rfl, shows⟩ }

theorem explicit_state (text : String) :
    (prepareExplicit text).IsFailed ∨ (prepareExplicit text).IsValid := by
  rw [prepare_explicit_def]
  cases accepted : evaluator .explicit text with
  | error problem =>
      rw [latex_of_refused accepted]
      exact .inl (failed_of_problem (evaluator_reported accepted) _ _ _)
  | ok made =>
      obtain ⟨latex, typeset, whole⟩ := latex_of_evaluator accepted
      rw [whole]
      exact .inr (valid_of_evaluator accepted typeset)

theorem implicit_state (text left right : String) :
    (prepareImplicit text left right).IsFailed ∨ (prepareImplicit text left right).IsValid := by
  rw [prepare_implicit_def]
  split
  · next refused => exact .inl (failed_of_problem (evaluator_reported refused) _ _ _)
  · next accepted => exact .inr (valid_of_evaluator accepted rfl)

theorem sides_state (text : String) (left right : List Char) :
    (prepareSides text left right).IsFailed ∨ (prepareSides text left right).IsValid := by
  rw [prepare_sides_def]
  split
  · exact .inl (failed_of_problem (form_reported _) _ _ _)
  · split
    · exact explicit_state _
    · split
      · exact explicit_state _
      · exact implicit_state _ _ _

theorem prepare_state {raw : String} (present : ¬(normalize raw).isEmpty = true) :
    (prepare raw).IsFailed ∨ (prepare raw).IsValid := by
  rw [prepare_def]
  rw [if_neg present]
  split
  · exact sides_state _ _ _
  · exact explicit_state _
  · exact .inl (failed_of_problem (form_reported _) _ _ _)

theorem surface_state {raw : String} (present : ¬(normalize raw).isEmpty = true) :
    (prepareSurface raw).IsFailed ∨ (prepareSurface raw).IsValid := by
  rw [prepare_surface_def]
  rw [if_neg present]
  split
  · exact .inl (failed_of_problem (form_reported _) _ _ _)
  · cases accepted : evaluator .surface (normalize raw) with
    | error problem =>
        rw [latex_of_refused accepted]
        exact .inl (failed_of_problem (evaluator_reported accepted) _ _ _)
    | ok made =>
        obtain ⟨latex, typeset, whole⟩ := latex_of_evaluator accepted
        rw [whole]
        exact .inr (valid_of_evaluator accepted ⟨latex, typeset, rfl⟩)

theorem prepare_mode (raw : String) : (prepare raw).mode ≠ .surface := by
  rw [prepare_def]
  split
  · exact nofun
  · split
    · rw [prepare_sides_def]
      split
      · exact nofun
      · split
        · rw [explicit_mode]
          exact nofun
        · split
          · rw [explicit_mode]
            exact nofun
          · rw [relation_mode]
            exact nofun
    · rw [explicit_mode]
      exact nofun
    · exact nofun

theorem surface_mode (raw : String) : (prepareSurface raw).mode = .surface := by
  rw [prepare_surface_def]
  split
  · rfl
  · split
    · rfl
    · split <;> rfl

theorem explicit_record_agrees (text : String) : (explicitRecord text).AgreesWithState := by
  unfold explicitRecord
  split
  · exact agrees_of_refused ⟨rfl, rfl, rfl, rfl⟩
  · exact agrees_of_ready ⟨rfl, rfl, rfl, rfl⟩

theorem implicit_record_agrees (text left right : String) :
    (implicitRecord text left right).AgreesWithState := by
  unfold implicitRecord
  split
  · exact agrees_of_refused ⟨rfl, rfl, rfl, rfl⟩
  · exact agrees_of_ready ⟨rfl, rfl, rfl, rfl⟩

theorem sides_record_agrees (text : String) (left right : List Char) :
    (sidesRecord text left right).AgreesWithState := by
  unfold sidesRecord
  split
  · exact agrees_of_refused ⟨rfl, rfl, rfl, rfl⟩
  · split
    · exact explicit_record_agrees _
    · split
      · exact explicit_record_agrees _
      · exact implicit_record_agrees _ _ _

theorem plane_record_agrees (raw : String) : (planeRecord raw).AgreesWithState := by
  unfold planeRecord
  dsimp only
  split
  · exact agrees_of_blank ⟨rfl, rfl, rfl, rfl, rfl⟩
  · split
    · exact sides_record_agrees _ _ _
    · exact explicit_record_agrees _
    · exact agrees_of_refused ⟨rfl, rfl, rfl, rfl⟩

theorem surface_record_agrees (raw : String) : (surfaceRecord raw).AgreesWithState := by
  unfold surfaceRecord
  dsimp only
  split
  · exact agrees_of_blank ⟨rfl, rfl, rfl, rfl, rfl⟩
  · split
    · exact agrees_of_refused ⟨rfl, rfl, rfl, rfl⟩
    · split
      · exact agrees_of_refused ⟨rfl, rfl, rfl, rfl⟩
      · exact agrees_of_ready ⟨rfl, rfl, rfl, rfl⟩

/-- Every text is blank, failed or valid, as a curve or relation and as a surface, and nothing is
kept of it that does not belong to its state: in the records too, where a valid text has exactly one
evaluator, in the place for its mode. -/
theorem preparation_has_three_states (raw : String) :
    (prepare raw).InOneState ∧ (prepare raw).mode ≠ .surface ∧
      ((prepare raw).IsBlank ↔ normalize raw = "") ∧ (planeRecord raw).AgreesWithState ∧
      (prepareSurface raw).InOneState ∧ (prepareSurface raw).mode = .surface ∧
      ((prepareSurface raw).IsBlank ↔ normalize raw = "") ∧
      (surfaceRecord raw).AgreesWithState := by
  by_cases empty : (normalize raw).isEmpty = true
  · have plane : (prepare raw).IsBlank := by
      rw [prepare_def, if_pos empty]
      exact blank_of_nothing empty .explicit
    have space : (prepareSurface raw).IsBlank := by
      rw [prepare_surface_def, if_pos empty]
      exact blank_of_nothing empty .surface
    have nothing := String.isEmpty_iff.mp empty
    exact ⟨in_one_state (.inl plane), prepare_mode raw, iff_of_true plane nothing,
      plane_record_agrees raw, in_one_state (.inl space), surface_mode raw,
      iff_of_true space nothing, surface_record_agrees raw⟩
  · have plane := prepare_state empty
    have space := surface_state empty
    have something : ¬normalize raw = "" := mt String.isEmpty_iff.mpr empty
    exact ⟨in_one_state (.inr plane), prepare_mode raw,
      iff_of_false (not_blank_of_state plane) something, plane_record_agrees raw,
      in_one_state (.inr space), surface_mode raw,
      iff_of_false (not_blank_of_state space) something, surface_record_agrees raw⟩

end Equation

end FormulaPlot
