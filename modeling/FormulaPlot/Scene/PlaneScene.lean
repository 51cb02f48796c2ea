import FormulaPlot.Scene.Frame
import FormulaPlot.Scene.Graph

/-!
Pictures of the plane in its own coordinates: grid, axes and ticks, then the curves.
-/

namespace FormulaPlot

open FormulaPlot.Scalar

set_option autoImplicit false

structure Polyline (α : Type) where
  points : List (Point α)
  style : Style

structure PlaneScene (α : Type) where
  viewport : Viewport α
  canvas : Canvas α
  polylines : List (Polyline α)
  labels : List (Label α)

namespace PlaneScene

def gridStyle : Style := { color := .text "#d9e3ec", width := 1.0, layer := Layer.grid }

def axisStyle : Style := { color := .text "#1f2937", width := 2.0, layer := Layer.axes }

def tickStyle : Style := { color := .text "#111827", width := 1.0, layer := Layer.axes }

/-- Ticks wanted along the horizontal and the vertical axis. -/
def ticksAcross : Int := 16

def ticksUp : Int := 12

variable {α : Type} [DecimalScale α]

def polyline (style : Style) (first second : Point α) : Polyline α := ⟨[first, second], style⟩

def verticalGridLine (viewport : Viewport α) (x : α) : Polyline α :=
  polyline gridStyle ⟨x, viewport.y.lo⟩ ⟨x, viewport.y.hi⟩

def horizontalGridLine (viewport : Viewport α) (y : α) : Polyline α :=
  polyline gridStyle ⟨viewport.x.lo, y⟩ ⟨viewport.x.hi, y⟩

def grid (viewport : Viewport α) : Except Fault (List (Polyline α)) := do
  let xs ← viewport.x.ticks ticksAcross
  let ys ← viewport.y.ticks ticksUp
  return xs.map (verticalGridLine viewport) ++ ys.map (horizontalGridLine viewport)

def axes (viewport : Viewport α) : List (Polyline α) :=
  (if viewport.y.contains zero then
    [polyline axisStyle ⟨viewport.x.lo, 0.0⟩ ⟨viewport.x.hi, 0.0⟩]
  else []) ++
  (if viewport.x.contains zero then
    [polyline axisStyle ⟨0.0, viewport.y.lo⟩ ⟨0.0, viewport.y.hi⟩]
  else [])

/-- The size of one pixel in the plane. -/
def pixel (viewport : Viewport α) (canvas : Canvas α) : Point α :=
  ⟨viewport.x.span / canvas.width, viewport.y.span / canvas.height⟩

/-- The tick at the origin is left out. -/
def awayFromOrigin (tick : α) : Bool := !decide (abs tick < 1e-9)

/-- Half the length of a tick in pixels. -/
def halfTick : α := 6.0

def horizontalTick (pixel : Point α) (x : α) : Polyline α × Label α :=
  let half := halfTick * pixel.y
  (polyline tickStyle ⟨x, -half⟩ ⟨x, half⟩,
    { text := tickLabel x
      position := ⟨x + 3.0 * pixel.x, -(20.0) * pixel.y⟩
      height := labelHeight * pixel.y })

def verticalTick (pixel : Point α) (y : α) : Polyline α × Label α :=
  let half := halfTick * pixel.x
  (polyline tickStyle ⟨-half, y⟩ ⟨half, y⟩,
    { text := tickLabel y
      position := ⟨8.0 * pixel.x, y + 6.0 * pixel.y⟩
      height := labelHeight * pixel.y })

/-- Both axes have to be in view. -/
def ticks (viewport : Viewport α) (canvas : Canvas α) :
    Except Fault (List (Polyline α × Label α)) :=
  if viewport.x.contains zero && viewport.y.contains zero then do
    let xs ← viewport.x.ticks ticksAcross
    let ys ← viewport.y.ticks ticksUp
    return (xs.filter awayFromOrigin).map (horizontalTick (pixel viewport canvas)) ++
      (ys.filter awayFromOrigin).map (verticalTick (pixel viewport canvas))
  else .ok []

/-- The picture before any curve is drawn. -/
def frame (viewport : Viewport α) (settings : PlaneSettings) (canvas : Canvas α) :
    Except SceneFault (PlaneScene α) := do
  canvas.check
  let grid ← if settings.grid then SceneFault.lift (grid viewport) else .ok []
  let axisLines := if settings.axes then axes viewport else []
  let ticks ←
    if settings.axes && settings.ticks then SceneFault.lift (ticks viewport canvas) else .ok []
  return ⟨viewport, canvas, grid ++ axisLines ++ ticks.map Prod.fst, ticks.map Prod.snd⟩

def curveStyle (graph : Graph α) : Style where
  color := graph.appearance.color
  width := graph.appearance.lineWidth
  dashed := graph.appearance.dashed
  layer := Layer.curves

/-- What has a single point is no line. -/
def curvePolylines (graph : Graph α) (trace : Trace α) : List (Polyline α) :=
  (trace.polylines.filter fun points => decide (2 ≤ points.length)).map fun points =>
    ⟨points, curveStyle graph⟩

def withCurves (scene : PlaneScene α) (graphs : List (Graph α)) (traces : List (Trace α)) :
    PlaneScene α :=
  { scene with
    polylines := scene.polylines ++ (List.zipWith curvePolylines graphs traces).flatten }

/-- The picture, and what was sampled for it. -/
def buildTraced (graphs : List (Graph α)) (viewport : Viewport α) (settings : PlaneSettings)
    (canvas : Canvas α) : Except SceneFault (PlaneScene α × List (Trace α)) := do
  let scene ← frame viewport settings canvas
  let traces ← SceneFault.lift (graphs.mapM fun graph => graph.trace viewport)
  return (scene.withCurves graphs traces, traces)

def build (graphs : List (Graph α)) (viewport : Viewport α) (settings : PlaneSettings)
    (canvas : Canvas α) : Except SceneFault (PlaneScene α) :=
  (buildTraced graphs viewport settings canvas).map Prod.fst

/-- The polylines in pixels, the origin at the top left. -/
def onCanvas (scene : PlaneScene α) : Except Fault (List (List (Point α))) :=
  scene.polylines.mapM fun line => line.points.mapM (scene.viewport.toCanvas scene.canvas)

end PlaneScene

end FormulaPlot
