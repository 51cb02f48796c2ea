import FormulaPlot.Proofs.Equation.Curves
import FormulaPlot.Proofs.Equation.Sides
import FormulaPlot.Proofs.Formula.Coincidence

/-!
Curves as surfaces. The text of an explicit curve is also that of a surface, which has the same
formula and at every place the height of the curve over its x.
-/

namespace FormulaPlot

open FormulaPlot.Equation FormulaPlot.Text

set_option autoImplicit false

namespace Evaluator

variable {label : Type} {curve surface : Evaluator label}

theorem call_eq (evaluator : Evaluator label) {values : List Float}
    (many : values.length = evaluator.inputs.length) :
    evaluator.call values =
      .ok (evaluator.evaluate (evaluator.inputs.zip values)).toOption := if_pos many

/-- Over a variable that does not occur, the value stays the same. -/
theorem evaluate_beside {program : Program} (grounded : program.Grounded ["x"]) (x y : Float) :
    program.evaluate (lookupIn [("x", x), ("y", y)]) = program.evaluate (lookupIn [("x", x)]) := by
  apply Program.evaluate_congr _ grounded
  intro name isInput
  rw [List.mem_singleton.mp isInput]
  rfl

end Evaluator

namespace Equation

theorem mem_of_mem_strip {character : Char} {characters : List Char}
    (member : character ∈ strip characters) : character ∈ characters := by
  unfold strip stripAll trimEnd at member
  have dropped := (List.dropWhile_sublist _).mem (List.mem_reverse.mp member)
  exact (List.dropWhile_sublist _).mem (List.mem_reverse.mp dropped)

theorem no_equals_normalized {raw : String} (noEquals : '=' ∉ raw.toList) :
    '=' ∉ (normalize raw).toList := by
  have inside : '=' ∉ strip raw.toList := mt mem_of_mem_strip noEquals
  rw [normalize, String.toList_ofList]
  exact equals_not_in_normal inside

theorem prepare_without_equals {raw : String} (noEquals : '=' ∉ raw.toList)
    (present : (normalize raw).isEmpty = false) :
    prepare raw = prepareExplicit (normalize raw) := by
  rw [prepare_def]
  rw [if_neg (by simp [present]), split_without_equals (no_equals_normalized noEquals)]

/-- What stages make of an explicit curve: a safe formula of x, resolved and typeset. -/
theorem explicit_stages {text : String} (isReady : (prepareExplicit text).isReady = true) :
    ∃ formula program latex, Formula.read text = .ok formula ∧
      formula.firstViolation explicitSymbols = none ∧
      formula.resolve ["x"] = .ok program ∧ program.Grounded ["x"] ∧
      formula.typeset = .ok latex ∧
      prepareExplicit text =
        ⟨text, .explicit, some latex, .ready ⟨formula, ["x"], program⟩⟩ := by
  obtain ⟨formula, spelled, safe⟩ := (explicit_ready_iff text).mp isReady
  have covered : ∀ name ∈ explicitSymbols, name ∈ ["x"] ∨ name = "pi" ∨ name = "e" := by decide
  obtain ⟨program, resolved, grounded⟩ := Formula.resolve_of_accepted covered formula safe
  obtain ⟨latex, typeset⟩ := Formula.typeset_of_accepted formula safe false
  have made : evaluator .explicit text = .ok ⟨formula, ["x"], program⟩ :=
    (evaluator_eq_ok_iff _ _ _).mpr
      ⟨formula, spelled, safe, evaluator_of_formula_iff.mpr ⟨program, resolved, rfl⟩⟩
  refine ⟨formula, program, latex, spelled, safe, resolved, grounded, typeset, ?_⟩
  have written : formula.typeset = .ok latex := typeset
  simp only [prepare_explicit_def, evaluatorWithLatex, made, written]

theorem surface_of_stages {raw latex : String} {formula : Formula Span} {program : Program}
    (present : (normalize raw).isEmpty = false) (noEquals : '=' ∉ raw.toList)
    (spelled : Formula.read (normalize raw) = .ok formula)
    (safe : formula.firstViolation surfaceSymbols = none)
    (resolved : formula.resolve ["x", "y"] = .ok program) (typeset : formula.typeset = .ok latex) :
    prepareSurface raw = ⟨normalize raw, .surface, some ("z = " ++ latex),
      .ready ⟨formula, ["x", "y"], program⟩⟩ := by
  have made : evaluator .surface (normalize raw) = .ok ⟨formula, ["x", "y"], program⟩ :=
    (evaluator_eq_ok_iff _ _ _).mpr
      ⟨formula, spelled, safe, evaluator_of_formula_iff.mpr ⟨program, resolved, rfl⟩⟩
  rw [prepare_surface_def]
  rw [if_neg (by simp [present]), if_neg (by simpa using no_equals_normalized noEquals)]
  simp only [evaluatorWithLatex, made, typeset]

/-- A text that is ready as a curve is ready as a surface, which is as high over every place as the
curve is over its x. -/
theorem curve_is_surface {raw : String} (noEquals : '=' ∉ raw.toList)
    (isReady : (prepare raw).isReady = true) :
    ∃ curve surface latex,
      (prepare raw).outcome = .ready curve ∧ (prepareSurface raw).outcome = .ready surface ∧
      (prepareSurface raw).normalized = (prepare raw).normalized ∧
      surface.formula = curve.formula ∧
      (prepare raw).latex = some latex ∧ (prepareSurface raw).latex = some ("z = " ++ latex) ∧
      ∀ x y : Float, ∃ value, curve.call [x] = .ok value ∧ surface.call [x, y] = .ok value ∧
        surface.evaluate [("x", x), ("y", y)] = curve.evaluate [("x", x)] := by
  have present : (normalize raw).isEmpty = false := by
    rw [Bool.eq_false_iff]
    intro empty
    rw [prepare_def, if_pos empty] at isReady
    contradiction
  rw [prepare_without_equals noEquals present] at isReady ⊢
  obtain ⟨formula, program, latex, spelled, safe, resolved, grounded, typeset, prepared⟩ :=
    explicit_stages isReady
  have covered : ∀ name ∈ explicitSymbols, name ∈ surfaceSymbols := by decide
  have shared : ∀ name ∈ explicitSymbols, name ∈ ["x", "y"] ↔ name ∈ ["x"] := by decide
  have wide := Formula.resolve_eq_of_accepted shared formula safe
  rw [resolved] at wide
  have risen := surface_of_stages present noEquals spelled
    (Formula.accepted_of_wider covered safe) wide typeset
  rw [prepared, risen]
  refine ⟨_, _, latex, rfl, rfl, rfl, rfl, rfl, rfl, ?_⟩
  intro x y
  have same := Evaluator.evaluate_beside grounded x y
  refine ⟨_, Evaluator.call_eq _ rfl, ?_, same⟩
  rw [Evaluator.call_eq _ rfl]
  exact congrArg (fun result => Except.ok result.toOption) same

theorem spaced_logarithm_is_surface :
    '=' ∉ " 2 ln(x)**2 - pi ".toList ∧ (prepare " 2 ln(x)**2 - pi ").isReady = true ∧
    ∃ curve surface latex,
      (prepare " 2 ln(x)**2 - pi ").outcome = .ready curve ∧
      (prepareSurface " 2 ln(x)**2 - pi ").outcome = .ready surface ∧
      (prepareSurface " 2 ln(x)**2 - pi ").normalized =
        (prepare " 2 ln(x)**2 - pi ").normalized ∧
      surface.formula = curve.formula ∧
      (prepare " 2 ln(x)**2 - pi ").latex = some latex ∧
      (prepareSurface " 2 ln(x)**2 - pi ").latex = some ("z = " ++ latex) ∧
      ∀ x y : Float, ∃ value, curve.call [x] = .ok value ∧ surface.call [x, y] = .ok value ∧
        surface.evaluate [("x", x), ("y", y)] = curve.evaluate [("x", x)] := by
  have noEquals : '=' ∉ " 2 ln(x)**2 - pi ".toList := by decide
  have isReady : (prepare " 2 ln(x)**2 - pi ").isReady = true := by decide +kernel
  exact ⟨noEquals, isReady, curve_is_surface noEquals isReady⟩

end Equation

end FormulaPlot
