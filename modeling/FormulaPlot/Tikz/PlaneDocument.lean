import FormulaPlot.Formula.Pgfmath
import FormulaPlot.Scene.Frame
import FormulaPlot.Scene.Graph
import FormulaPlot.Tikz.Number
import FormulaPlot.Tikz.Thinning

/-!
Pictures of the plane as TikZ documents. A curve is plotted by its formula where the document's
language has one for it, and by coordinates elsewhere; relations are plotted by coordinates.
-/

namespace FormulaPlot.Tikz

open FormulaPlot.Scalar

set_option autoImplicit false

def lineStyle (appearance : Appearance) : Exported := do
  let width ← fixedNumber 2 appearance.lineWidth
  let color ← color appearance.color
  return "line width=" ++ width ++ "pt, draw=" ++ color ++
    (if appearance.dashed then ", dash pattern=on 5pt off 3pt" else "")

variable {α : Type} [DecimalScale α]

/-- Ticks wanted along the horizontal and the vertical axis. -/
def ticksAcross : Int := 16

def ticksUp : Int := 12

def gridLines (viewport : Viewport α) : Except ExportFault (List String) := do
  let stepX ← ExportFault.lift (Step.nice viewport.x.span ticksAcross)
  let stepY ← ExportFault.lift (Step.nice viewport.y.span ticksUp)
  let textX ← number stepX.size
  let textY ← number stepY.size
  let first ← pair viewport.x.lo viewport.y.lo
  let second ← pair viewport.x.hi viewport.y.hi
  return ["% Grid (" ++ textX ++ " x " ++ textY ++ ")",
    "\\draw[step=" ++ textX ++ ", gray!25, very thin] " ++ first ++ " grid " ++ second ++ ";"]

def horizontalAxis (viewport : Viewport α) : Exported := do
  let lo ← number viewport.x.lo
  let hi ← number viewport.x.hi
  return "\\draw[->, semithick] (" ++ lo ++ ",0) -- (" ++ hi ++ ",0) node[right] " ++
    braced "$x$" ++ ";"

def verticalAxis (viewport : Viewport α) : Exported := do
  let lo ← number viewport.y.lo
  let hi ← number viewport.y.hi
  return "\\draw[->, semithick] (0," ++ lo ++ ") -- (0," ++ hi ++ ") node[above] " ++
    braced "$y$" ++ ";"

/-- A tick's mark between two points, with its number on one side. -/
def tickLine (first second side text : String) : String :=
  "\\draw " ++ first ++ " -- " ++ second ++ " node[" ++ side ++ "] " ++
    braced ("\\tiny " ++ text) ++ ";"

def horizontalTick (half x : α) : Exported := do
  let first ← pair x (-half)
  let second ← pair x half
  let text ← number x
  return tickLine first second "below" text

def verticalTick (half y : α) : Exported := do
  let first ← pair (-half) y
  let second ← pair half y
  let text ← number y
  return tickLine first second "left" text

def awayFromOrigin (tick : α) : Bool := !decide (abs tick < 1e-9)

def tickLines (viewport : Viewport α) : Except ExportFault (List String) := do
  let half := minimum viewport.x.span viewport.y.span * 0.008
  let xs ← ExportFault.lift (viewport.x.ticks ticksAcross)
  let across ← (xs.filter awayFromOrigin).mapM (horizontalTick half)
  let ys ← ExportFault.lift (viewport.y.ticks ticksUp)
  let up ← (ys.filter awayFromOrigin).mapM (verticalTick half)
  return across ++ up

/-- Nothing, where a part of the frame is not wanted. -/
def whenever (wanted : Bool) (lines : Except ExportFault (List String)) :
    Except ExportFault (List String) :=
  if wanted then lines else .ok []

def gridAndAxes (viewport : Viewport α) (settings : PlaneSettings) :
    Except ExportFault (List String) := do
  let inViewY := viewport.y.contains zero
  let inViewX := viewport.x.contains zero
  let grid ← whenever settings.grid (gridLines viewport)
  let across ← whenever (settings.axes && inViewY) ((horizontalAxis viewport).map ([·]))
  let up ← whenever (settings.axes && inViewX) ((verticalAxis viewport).map ([·]))
  let ticks ←
    whenever (settings.axes && settings.ticks && inViewX && inViewY) (tickLines viewport)
  return grid ++ across ++ up ++ ticks

def leastFrame : α := 1e-9

def watermark : String := "Made using GraphToTeX"

def frameAndWatermark (viewport : Viewport α) : Except ExportFault (List String) := do
  let rangeX := maximum leastFrame viewport.x.span
  let rangeY := maximum leastFrame viewport.y.span
  let inset := minimum rangeX rangeY * 0.0025
  let insetX := minimum inset (rangeX * 0.25)
  let insetY := minimum inset (rangeY * 0.25)
  let first ← pair (viewport.x.lo + insetX) (viewport.y.lo + insetY)
  let second ← pair (viewport.x.hi - insetX) (viewport.y.hi - insetY)
  let corner ← pair (viewport.x.hi - rangeX * 0.015) (viewport.y.lo + rangeY * 0.015)
  return ["% Frame border",
    "\\draw[gray!65, line width=0.35pt] " ++ first ++ " rectangle " ++ second ++ ";",
    "% Watermark",
    "\\node[anchor=south east, text=gray!60, font=\\scriptsize] at " ++ corner ++ " " ++
      braced watermark ++ ";"]

/-- How an entry gets into the document. -/
inductive Plot (α : Type) where
  | skipped
  | formula (style : String) (domain : Interval α) (samples : Nat) (expression : String)
  | coordinates (style reason : String) (trace : Trace α)

/-- Samples of a plotted formula. -/
def leastSamples : Int := 40

def greatestSamples : Int := 1200

def plot (graph : Graph α) (viewport : Viewport α) : Except ExportFault (Plot α) :=
  match graph.shape with
  | .relation field => do
      let style ← lineStyle graph.appearance
      let trace ← ExportFault.lift (Trace.ofRelation field viewport graph.appearance.samples)
      return .coordinates style "implicit relation" trace
  | .curve function =>
      match graph.domain.visible? viewport.x with
      | none => .ok .skipped
      | some domain => do
          let style ← lineStyle graph.appearance
          match graph.formula.convert Pgfmath.curve with
          | .ok expression =>
              let samples ← ExportFault.lift
                (sampleCount graph.appearance.samples leastSamples greatestSamples)
              return .formula style domain samples.toNat expression
          | .error fault =>
              let trace ← ExportFault.lift
                (Trace.ofCurve function domain viewport.y graph.appearance.samples)
              return .coordinates style fault.message trace

/-- Points kept of a polyline. -/
def mostPoints : Nat := 800

def coordinates (points : List (Point α)) : Exported := do
  let kept ← ExportFault.lift (Thinning.thin α mostPoints points)
  let texts ← kept.mapM fun point => pair point.x point.y
  return " ".intercalate texts

def coordinatePlot (style : String) (points : List (Point α)) : Exported := do
  let text ← coordinates points
  return "\\draw[" ++ style ++ "] plot coordinates " ++ braced text ++ ";"

def skippedLine (raw : String) : String := "% Skipped " ++ raw ++ ": domain is outside viewport."

def plotLines (raw : String) : Plot α → Except ExportFault (List String)
  | .skipped => .ok [skippedLine raw]
  | .formula style domain samples expression => do
      let lo ← number domain.lo
      let hi ← number domain.hi
      return ["\\draw[" ++ style ++ ", domain=" ++ lo ++ ":" ++ hi ++ ", samples=" ++
          toString samples ++ ", smooth, variable=\\x]",
        "  plot (" ++ braced "\\x" ++ "," ++ braced expression ++ ");"]
  | .coordinates style reason trace => do
      let plots ← trace.polylines.mapM (coordinatePlot style)
      return ("% " ++ raw ++ " exported as coordinates (" ++ reason ++ ").") :: plots

def graphLines (graph : Graph α) (viewport : Viewport α) : Except ExportFault (List String) := do
  let plot ← plot graph viewport
  plotLines graph.raw plot

def header (viewport : Viewport α) : Except ExportFault (List String) := do
  let first ← pair viewport.x.lo viewport.y.lo
  let second ← pair viewport.x.hi viewport.y.hi
  return ["% GraphToTeX export",
    "% Scale tip: add scale=<value> in tikzpicture options, e.g. \\begin\x7btikzpicture\x7d[scale=0.8, ...]",
    "% Required packages: \\usepackage\x7btikz\x7d and \\usetikzlibrary\x7barrows.meta\x7d",
    "% Note: trig/inverse trig expressions are exported as sampled coordinates to preserve radian behavior.",
    "\\begin\x7btikzpicture\x7d[line cap=round, line join=round, >=Stealth]",
    "\\clip " ++ first ++ " rectangle " ++ second ++ ";"]

def footer : List String := ["\\end\x7btikzpicture\x7d"]

/-- The lines between the header and the footer, and how each entry got into them. -/
def body (graphs : List (Graph α)) (viewport : Viewport α) (settings : PlaneSettings) :
    Except ExportFault (List String × List (Plot α)) := do
  let frame ← gridAndAxes viewport settings
  let entries ← graphs.mapM fun graph => do
    let plot ← plot graph viewport
    let lines ← plotLines graph.raw plot
    return (lines, plot)
  let border ← frameAndWatermark viewport
  return (frame ++ (entries.map Prod.fst).flatten ++ border, entries.map Prod.snd)

structure Document (plot : Type) where
  lines : List String
  bodyCount : Nat
  plots : List plot

def Document.text {plot : Type} (document : Document plot) : String :=
  "\n".intercalate document.lines

def planeDocument (graphs : List (Graph α)) (viewport : Viewport α) (settings : PlaneSettings) :
    Except ExportFault (Document (Plot α)) := do
  let header ← header viewport
  let (lines, plots) ← body graphs viewport settings
  return ⟨header ++ lines ++ footer, lines.length, plots⟩

end FormulaPlot.Tikz
