import FormulaPlot.Log.Recent
import FormulaPlot.Log.Record
import FormulaPlot.Scene.PlaneScene
import FormulaPlot.Scene.SpaceScene
import FormulaPlot.Tikz.SpaceDocument

/-!
Log records of what is found on the way to a picture or a document.
-/

namespace FormulaPlot.Observation

open FormulaPlot.Decimal
open FormulaPlot.Log
open FormulaPlot.Text

set_option autoImplicit false

def counted (counts : List (Nat × String)) : String :=
  String.join (counts.map fun (count, words) => toString count ++ words)

/-- A text whose formula was refused. Equations that have no two sides are not mentioned. -/
def rejection? (prepared : Prepared) : Option Record :=
  match prepared.outcome with
  | .refused (.form _) => none
  | .refused problem =>
      some ⟨"graphtotex.expr.prepare", debug,
        prepared.mode.name ++ " " ++ quoted prepared.normalized ++ " rejected: " ++
          problem.message⟩
  | _ => none

/-- So many texts of a kind are remembered. -/
def remembered : Nat := 256

/-- Formulas of the two modes are remembered apart. One that is still remembered is not mentioned
again. -/
def formulaRejections (explicits implicits : Recent String) : List Prepared → List Record
  | [] => []
  | prepared :: rest =>
      let text := prepared.normalized
      match prepared.mode with
      | .implicit =>
          (if implicits.knows text then [] else (rejection? prepared).toList) ++
            formulaRejections explicits (implicits.meet text) rest
      | _ =>
          (if explicits.knows text then [] else (rejection? prepared).toList) ++
            formulaRejections (explicits.meet text) implicits rest

/-- Blank texts and equations that have no two sides hold no formula. -/
def holdsFormula (prepared : Prepared) : Bool :=
  match prepared.outcome with
  | .blank => false
  | .refused (.form _) => false
  | _ => true

/-- Texts that are still remembered as they were entered are not prepared again. -/
def rejections (raws : List String) : List Record :=
  let entered := (Recent.nothing remembered).newcomers raws
  formulaRejections (.nothing remembered) (.nothing remembered)
    ((entered.map Equation.prepare).filter holdsFormula)

/-- Surfaces are told apart by the texts that were entered. -/
def surfaceRejections (raws : List String) : List Record :=
  let entered := (Recent.nothing remembered).newcomers raws
  entered.filterMap fun raw => rejection? (Equation.prepareSurface raw)

def square (resolution : Nat) : String := toString resolution ++ "x" ++ toString resolution

variable {α : Type}

def trace? : Trace α → Option Record
  | .outside => none
  | .curve resolution runs =>
      some ⟨"graphtotex.curve", debug,
        "sampled " ++ counted [(resolution + 1, " points into "), (runs.length, " segment(s)")]⟩
  | .contour resolution segments =>
      some ⟨"graphtotex.contour", debug,
        "contour grid " ++ square resolution ++ " produced " ++
          counted [(segments.length, " segment(s)")]⟩

def mesh (mesh : SurfaceMesh α) : Record :=
  ⟨"graphtotex.surface", debug,
    "surface grid " ++ square mesh.resolution ++ ", " ++
      counted [(mesh.definedCount, " defined vertices")]⟩

def planeScene (scene : PlaneScene α) : Record :=
  ⟨"graphtotex.scene", debug,
    "2D scene: " ++
      counted [(scene.polylines.length, " polylines, "), (scene.labels.length, " labels")]⟩

def spaceScene (scene : SpaceScene α) : Record :=
  ⟨"graphtotex.scene", debug,
    "3D scene: " ++
      counted [(scene.faces.length, " faces, "), (scene.segments.length, " segments")]⟩

/-- A curve whose formula cannot be written into a document. -/
def curveFallback? (graph : Graph α) : Option Record :=
  match graph.shape, graph.formula.convert Pgfmath.curve with
  | .curve _, .error fault =>
      some ⟨"graphtotex.tikz_expr", debug, "2D transpile fallback: " ++ fault.message⟩
  | _, _ => none

def surfaceFallback? (surface : SurfaceGraph α) : Option Record :=
  match surface.formula.convert Pgfmath.surface with
  | .error fault =>
      some ⟨"graphtotex.tikz_expr", debug, "3D transpile fallback: " ++ fault.message⟩
  | .ok _ => none

def plot (graph : Graph α) : Tikz.Plot α → List Record
  | .skipped => []
  | .formula .. => []
  | .coordinates _ _ trace => (curveFallback? graph).toList ++ (trace? trace).toList

def surfacePlot (surface : SurfaceGraph α) : Tikz.SurfacePlot α → List Record
  | .skipped => []
  | .formula .. => []
  | .table _ _ sampled => (surfaceFallback? surface).toList ++ [mesh sampled]

def planeDocument (entries : Nat) (document : Tikz.Document (Tikz.Plot α)) : Record :=
  ⟨"graphtotex.tikz_export", debug,
    "tikz export: " ++ counted [(entries, " entries, "), (document.bodyCount, " body lines")]⟩

def spaceDocument (entries : Nat) (viewport : Viewport3D Float) : Record :=
  let (azimuth, elevation) := Tikz.viewAngles viewport
  ⟨"graphtotex.tikz_export3d", debug,
    "pgfplots export: " ++ counted [(entries, " entries, view ")] ++
      Tikz.braced (shortest (Binary64.read azimuth)) ++
      Tikz.braced (shortest (Binary64.read elevation))⟩

def writtenDocument (path : String) : Record := ⟨"graphtotex.cli", info, "wrote " ++ path⟩

def writtenDrawing (path : String) : Record :=
  ⟨"graphtotex.ezdxf_drawable", info, "wrote " ++ path⟩

end FormulaPlot.Observation
