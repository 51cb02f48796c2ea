import FormulaPlot.Equation.Normal
import FormulaPlot.Formula.Evaluation
import FormulaPlot.Formula.Typesetting

/-!
Entered texts made ready for plotting. A text is an explicit curve, an implicit relation between
two sides, or a surface; it is blank, or refused with a problem, or ready with an evaluator. The
stages keep a record of what they have come to, from which its state is told.
-/

namespace FormulaPlot

open FormulaPlot.Equation FormulaPlot.Text

set_option autoImplicit false

inductive Mode where
  | explicit
  | implicit
  | surface
  deriving DecidableEq, Repr

namespace Mode

def name : Mode → String
  | explicit => "explicit"
  | implicit => "implicit"
  | surface => "surface"

def symbols : Mode → List String
  | explicit => explicitSymbols
  | implicit => implicitSymbols
  | surface => surfaceSymbols

def inputs : Mode → List String
  | explicit => ["x"]
  | implicit => ["x", "y"]
  | surface => ["x", "y"]

end Mode

inductive Outcome where
  | blank
  | refused (problem : Problem)
  | ready (evaluator : Evaluator Span)

structure Prepared where
  normalized : String
  mode : Mode
  latex : Option String
  outcome : Outcome

namespace Prepared

def isReady (prepared : Prepared) : Bool :=
  match prepared.outcome with
  | .ready _ => true
  | _ => false

def problem? (prepared : Prepared) : Option Problem :=
  match prepared.outcome with
  | .refused problem => some problem
  | _ => none

def evaluator? (prepared : Prepared) : Option (Evaluator Span) :=
  match prepared.outcome with
  | .ready evaluator => some evaluator
  | _ => none

def formula? (prepared : Prepared) : Option (Formula Span) :=
  prepared.evaluator?.map Evaluator.formula

def message? (prepared : Prepared) : Option String := prepared.problem?.map Problem.message

end Prepared

/-- What the stages keep of a text. Every part of it may be missing; a relation has its evaluator in
a place of its own. -/
structure PreparedRecord where
  normalized : String
  mode : Mode
  latex : Option String := none
  problem : Option Problem := none
  evaluator : Option (Evaluator Span) := none
  relation : Option (Evaluator Span) := none
  formula : Option (Formula Span) := none

namespace PreparedRecord

def isValid (kept : PreparedRecord) : Bool :=
  kept.problem.isNone && (kept.evaluator.isSome || kept.relation.isSome)

def outcome (kept : PreparedRecord) : Outcome :=
  match kept.problem, kept.evaluator, kept.relation with
  | some problem, _, _ => .refused problem
  | none, some evaluator, _ => .ready evaluator
  | none, none, some evaluator => .ready evaluator
  | none, none, none => .blank

def prepared (kept : PreparedRecord) : Prepared :=
  ⟨kept.normalized, kept.mode, kept.latex, kept.outcome⟩

end PreparedRecord

namespace Equation

/-- Reads, checks and resolves a text. -/
def evaluator (mode : Mode) (text : String) : Except Problem (Evaluator Span) :=
  match Formula.read text with
  | .error problem => .error problem
  | .ok formula =>
      match formula.firstViolation mode.symbols with
      | some (found, span) => .error (.violation found (some span))
      | none =>
          (Evaluator.ofFormula formula mode.inputs).mapError fun found =>
            .violation found.1 (some found.2)

def typesettingProblem : TypesettingFault Span → Problem
  | .feature kind span => .violation (.feature kind) (some span)
  | .operator kind => .violation (.operator kind.sign) none

/-- The evaluator of a text together with its typeset form. -/
def evaluatorWithLatex (mode : Mode) (text : String) :
    Except Problem (Evaluator Span × String) :=
  match evaluator mode text with
  | .error problem => .error problem
  | .ok evaluator =>
      match evaluator.formula.typeset with
      | .error fault => .error (typesettingProblem fault)
      | .ok latex => .ok (evaluator, latex)

def explicitRecord (text : String) : PreparedRecord :=
  match evaluatorWithLatex .explicit text with
  | .error problem => { normalized := text, mode := .explicit, problem := some problem }
  | .ok (evaluator, latex) =>
      { normalized := text
        mode := .explicit
        latex := some latex
        evaluator := some evaluator
        formula := some evaluator.formula }

/-- Both sides in parentheses, one taken from the other. -/
def difference (left right : String) : String := "(" ++ left ++ ") - (" ++ right ++ ")"

def implicitRecord (text left right : String) : PreparedRecord :=
  match evaluator .implicit (difference left right) with
  | .error problem =>
      { normalized := text, mode := .implicit, latex := some text, problem := some problem }
  | .ok evaluator =>
      { normalized := text
        mode := .implicit
        latex := some text
        relation := some evaluator
        formula := some evaluator.formula }

/-- An equation between `y` and an expression without `y` is an explicit curve. -/
def sidesRecord (text : String) (left right : List Char) : PreparedRecord :=
  if left.isEmpty || right.isEmpty then
    { normalized := text, mode := .implicit, latex := some text, problem := some (.form .emptySide) }
  else if left = ['y'] && !mentionsY right then explicitRecord (String.ofList right)
  else if right = ['y'] && !mentionsY left then explicitRecord (String.ofList left)
  else implicitRecord text (String.ofList left) (String.ofList right)

def planeRecord (raw : String) : PreparedRecord :=
  let text := normalize raw
  if text.isEmpty then { normalized := text, mode := .explicit }
  else
    match splitAtEquals text.toList with
    | [left, right] => sidesRecord text (strip left) (strip right)
    | [_] => explicitRecord text
    | _ =>
        { normalized := text
          mode := .implicit
          latex := some text
          problem := some (.form .tooManyEquals) }

def surfaceRecord (raw : String) : PreparedRecord :=
  let text := normalize raw
  if text.isEmpty then { normalized := text, mode := .surface }
  else if text.toList.contains '=' then
    { normalized := text
      mode := .surface
      latex := some text
      problem := some (.form .equalsInSurface) }
  else
    match evaluatorWithLatex .surface text with
    | .error problem => { normalized := text, mode := .surface, problem := some problem }
    | .ok (evaluator, latex) =>
        { normalized := text
          mode := .surface
          latex := some ("z = " ++ latex)
          evaluator := some evaluator
          formula := some evaluator.formula }

def prepareExplicit (text : String) : Prepared := (explicitRecord text).prepared

def prepareImplicit (text left right : String) : Prepared :=
  (implicitRecord text left right).prepared

def prepareSides (text : String) (left right : List Char) : Prepared :=
  (sidesRecord text left right).prepared

def prepare (raw : String) : Prepared := (planeRecord raw).prepared

def prepareSurface (raw : String) : Prepared := (surfaceRecord raw).prepared

theorem prepare_explicit_def (text : String) :
    prepareExplicit text =
      match evaluatorWithLatex .explicit text with
      | .error problem => ⟨text, .explicit, none, .refused problem⟩
      | .ok (evaluator, latex) => ⟨text, .explicit, some latex, .ready evaluator⟩ := by
  unfold prepareExplicit explicitRecord
  split <;> rfl

theorem prepare_implicit_def (text left right : String) :
    prepareImplicit text left right =
      match evaluator .implicit (difference left right) with
      | .error problem => ⟨text, .implicit, some text, .refused problem⟩
      | .ok evaluator => ⟨text, .implicit, some text, .ready evaluator⟩ := by
  unfold prepareImplicit implicitRecord
  split <;> rfl

theorem prepare_sides_def (text : String) (left right : List Char) :
    prepareSides text left right =
      if left.isEmpty || right.isEmpty then
        ⟨text, .implicit, some text, .refused (.form .emptySide)⟩
      else if left = ['y'] && !mentionsY right then prepareExplicit (String.ofList right)
      else if right = ['y'] && !mentionsY left then prepareExplicit (String.ofList left)
      else prepareImplicit text (String.ofList left) (String.ofList right) := by
  unfold prepareSides sidesRecord
  split
  · rfl
  · split
    · rfl
    · split <;> rfl

theorem prepare_def (raw : String) :
    prepare raw =
      if (normalize raw).isEmpty then ⟨normalize raw, .explicit, none, .blank⟩
      else
        match splitAtEquals (normalize raw).toList with
        | [left, right] => prepareSides (normalize raw) (strip left) (strip right)
        | [_] => prepareExplicit (normalize raw)
        | _ => ⟨normalize raw, .implicit, some (normalize raw), .refused (.form .tooManyEquals)⟩ := by
  unfold prepare planeRecord
  dsimp only
  split
  · rfl
  · split <;> rfl

theorem prepare_surface_def (raw : String) :
    prepareSurface raw =
      if (normalize raw).isEmpty then ⟨normalize raw, .surface, none, .blank⟩
      else if (normalize raw).toList.contains '=' then
        ⟨normalize raw, .surface, some (normalize raw), .refused (.form .equalsInSurface)⟩
      else
        match evaluatorWithLatex .surface (normalize raw) with
        | .error problem => ⟨normalize raw, .surface, none, .refused problem⟩
        | .ok (evaluator, latex) =>
            ⟨normalize raw, .surface, some ("z = " ++ latex), .ready evaluator⟩ := by
  unfold prepareSurface surfaceRecord
  dsimp only
  split
  · rfl
  · split
    · rfl
    · split <;> rfl

/-- Only the normal form of a text matters. -/
theorem prepare_alike {first second : String} (same : normalize first = normalize second) :
    prepare first = prepare second ∧ prepareSurface first = prepareSurface second := by
  constructor
  · rw [prepare_def, prepare_def, same]
  · rw [prepare_surface_def, prepare_surface_def, same]

end Equation

end FormulaPlot
