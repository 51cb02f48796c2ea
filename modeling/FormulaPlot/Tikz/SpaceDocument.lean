import FormulaPlot.Formula.Pgfmath
import FormulaPlot.Numeric.Power
import FormulaPlot.Scene.Frame
import FormulaPlot.Scene.Graph
import FormulaPlot.Tikz.PlaneDocument

/-!
Surfaces as documents with one axis of pgfplots. A surface is plotted by its formula where the
document's language has one for it, and by a table of heights elsewhere.
-/

namespace FormulaPlot.Tikz

open FormulaPlot.Scalar

set_option autoImplicit false

def degrees (radians : Float) : Float := radians * (180.0 / Complex.pi)

/-- The camera's elevation is kept away from the poles. -/
def greatestElevation : Float := 85.0

/-- Azimuth and elevation in degrees. -/
def viewAngles (viewport : Viewport3D Float) : Float × Float :=
  (wrap (degrees viewport.yaw),
    maximum (-greatestElevation) (minimum greatestElevation (degrees viewport.pitch)))
where
  wrap (angle : Float) : Float :=
    match modulo (angle + 360.0) 360.0 with
    | .ok wrapped => wrapped
    | .error _ => angle

/-- Cells of a plotted surface along each axis. -/
def density : Nat := 15

/-- How a surface gets into the document. -/
inductive SurfacePlot (α : Type) where
  | skipped
  | formula (color : Color) (x y : Interval α) (expression : String)
  | table (color : Color) (reason : String) (mesh : SurfaceMesh α)

variable {α : Type} [DecimalScale α]

def surfacePlot (surface : SurfaceGraph α) (viewport : Viewport3D α) :
    Except ExportFault (SurfacePlot α) :=
  match surface.domain? viewport with
  | none => .ok .skipped
  | some (x, y) => do
      let color ← colorOf surface.appearance.color
      match surface.formula.convert Pgfmath.surface with
      | .ok expression => return .formula color x y expression
      | .error fault =>
          let mesh ← ExportFault.lift (SurfaceMesh.ofFunction surface.height x y density viewport.z
            SurfaceMesh.greatestHeight)
          return .table color fault.message mesh

/-- Options that all surfaces share, up to the width of their lines. -/
def surfaceOptions (opacity drawOpacity : String) (color : Color) (width : String)
    (dashed : Bool) : String :=
  "\\addplot3[surf, shader=faceted interp, fill opacity=" ++ opacity ++ ", draw opacity=" ++
    drawOpacity ++ ", draw=" ++ colorText color ++ ", fill=" ++ colorText color ++
    ", line width=" ++ width ++ "pt" ++ (if dashed then ", dashed" else "")

def domainText (domain : Interval α) : Exported := do
  let lo ← number domain.lo
  let hi ← number domain.hi
  return lo ++ ":" ++ hi

def vertexText (vertex : α × α × Option α) : Exported := do
  let x ← number vertex.1
  let y ← number vertex.2.1
  let z ← match vertex.2.2 with
    | some z => number z
    | none => .ok "nan"
  return x ++ " " ++ y ++ " " ++ z

/-- Every row of a table is closed by an empty one. -/
def tableRows (mesh : SurfaceMesh α) : Except ExportFault (List String) := do
  let rows ← mesh.rows.mapM fun row => row.mapM vertexText
  return (rows.map fun row => row ++ [""]).flatten

def tableRow (row : String) : String := "  " ++ row ++ "\\\\"

def surfacePlotLines (surface : SurfaceGraph α) : SurfacePlot α → Except ExportFault (List String)
  | .skipped => .ok [skippedLine surface.raw]
  | .formula color x y expression => do
      let width ← fixedNumber 2 (surface.appearance.lineWidth * 0.5)
      let domainX ← domainText x
      let domainY ← domainText y
      return ["% Surface: z = " ++ surface.raw,
        surfaceOptions "0.58" "0.82" color width surface.appearance.dashed ++ ", domain=" ++
          domainX ++ ", y domain=" ++ domainY ++ ", samples=" ++ toString density ++
          ", samples y=" ++ toString density ++ "]",
        braced expression ++ ";"]
  | .table color reason mesh => do
      let rows ← tableRows mesh
      let width ← fixedNumber 2 (surface.appearance.lineWidth * 0.45)
      return ["% Surface: z = " ++ surface.raw ++ " (sampled fallback: " ++ reason ++ ")",
        surfaceOptions "0.55" "0.8" color width surface.appearance.dashed ++ ", mesh/rows=" ++
          toString (density + 1) ++ ", mesh/cols=" ++ toString (density + 1) ++
          ", unbounded coords=jump]",
        "table[row sep=\\\\] \x7b"] ++ rows.map tableRow ++ ["\x7d;"]

def surfaceLines (surface : SurfaceGraph α) (viewport : Viewport3D α) :
    Except ExportFault (List String) := do
  let plot ← surfacePlot surface viewport
  surfacePlotLines surface plot

def boundsLine (axis : String) (interval : Interval α) : Exported := do
  let lo ← number interval.lo
  let hi ← number interval.hi
  return "  " ++ axis ++ "min=" ++ lo ++ ", " ++ axis ++ "max=" ++ hi ++ ","

def spaceHeader (viewport : Viewport3D Float) (settings : SpaceSettings) :
    Except ExportFault (List String) := do
  let angles := viewAngles viewport
  let azimuth ← number angles.1
  let elevation ← number angles.2
  let x ← boundsLine "x" viewport.x
  let y ← boundsLine "y" viewport.y
  let z ← boundsLine "z" viewport.z
  return ["% GraphToTeX 3D export (pgfplots)",
    "% Required packages: \\usepackage\x7bpgfplots\x7d and \\pgfplotsset\x7bcompat=1.18\x7d",
    "% Tip: rotate with view=\x7bazimuth\x7d\x7belevation\x7d",
    "\\begin\x7bcenter\x7d",
    "\\resizebox\x7b0.88\\linewidth\x7d\x7b!\x7d\x7b%",
    "\\begin\x7btikzpicture\x7d",
    "\\begin\x7baxis\x7d[view=" ++ braced azimuth ++ braced elevation ++ ", grid=" ++
      (if settings.grid then "both" else "none") ++ ", axis lines=" ++
      (if settings.axes then "middle" else "none") ++
      (if settings.box then ", axis line style=\x7bdraw opacity=0.5\x7d" else "") ++
      ", z buffer=sort,",
    x, y, z,
    "  width=0.92\\linewidth, height=0.62\\linewidth, scale only axis,",
    "  colormap/viridis]"]

def spaceFooter : List String :=
  ["\\end\x7baxis\x7d", "\\end\x7btikzpicture\x7d", "\x7d", "\\end\x7bcenter\x7d"]

def emptyBody : List String := ["% No visible valid surfaces to export."]

def spaceDocument (surfaces : List (SurfaceGraph Float)) (viewport : Viewport3D Float)
    (settings : SpaceSettings) : Except ExportFault (Document (SurfacePlot Float)) := do
  let header ← spaceHeader viewport settings
  let entries ← surfaces.mapM fun surface => do
    let plot ← surfacePlot surface viewport
    let lines ← surfacePlotLines surface plot
    return (lines, plot)
  let lines := (entries.map Prod.fst).flatten
  let body := if lines.isEmpty then emptyBody else lines
  return ⟨header ++ body ++ spaceFooter, body.length, entries.map Prod.snd⟩

end FormulaPlot.Tikz
