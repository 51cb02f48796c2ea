import FormulaPlot.Entry.Entry
import FormulaPlot.Plane.Contour
import FormulaPlot.Plane.Tick
import FormulaPlot.Space.Surface

/-!
What there is to draw of an entry: the function behind it, and the places at which it is sampled.
-/

namespace FormulaPlot

set_option autoImplicit false

inductive Shape (α : Type) where
  | curve (function : α → Option α)
  | relation (field : α → α → Option α)

structure Graph (α : Type) where
  raw : String
  appearance : Appearance
  domain : DomainText
  formula : Formula Span
  shape : Shape α

structure SurfaceGraph (α : Type) where
  raw : String
  appearance : Appearance
  domainX : DomainText
  domainY : DomainText
  formula : Formula Span
  height : α → α → Option α

def Shape.ofEvaluator (mode : Mode) (evaluator : Evaluator Span) : Shape Float :=
  match mode with
  | .implicit => .relation evaluator.atXY
  | _ => .curve evaluator.atX

def PreparedCurve.graph? (curve : PreparedCurve) : Option (Graph Float) :=
  match curve.entry.appearance.visible, curve.prepared.outcome with
  | true, .ready evaluator =>
      some
        { raw := curve.entry.raw
          appearance := curve.entry.appearance
          domain := curve.entry.domain
          formula := evaluator.formula
          shape := .ofEvaluator curve.prepared.mode evaluator }
  | _, _ => none

def PreparedSurface.graph? (surface : PreparedSurface) : Option (SurfaceGraph Float) :=
  match surface.entry.appearance.visible, surface.prepared.outcome with
  | true, .ready evaluator =>
      some
        { raw := surface.entry.raw
          appearance := surface.entry.appearance
          domainX := surface.entry.domainX
          domainY := surface.entry.domainY
          formula := evaluator.formula
          height := evaluator.atXY }
  | _, _ => none

/-- What sampling has found. -/
inductive Trace (α : Type) where
  | outside
  | curve (resolution : Nat) (runs : List (List (Point α)))
  | contour (resolution : Nat) (segments : List (Segment α))

def Segment.points {α : Type} (segment : Segment α) : List (Point α) :=
  [segment.first, segment.second]

def Trace.polylines {α : Type} : Trace α → List (List (Point α))
  | outside => []
  | curve _ runs => runs
  | contour _ segments => segments.map Segment.points

variable {α : Type} [Scalar α]

def DomainText.visible? (domain : DomainText) (visible : Interval α) : Option (Interval α) :=
  Domain.visible? domain.lo domain.hi visible

namespace Trace

def ofRelation (field : α → α → Option α) (viewport : Viewport α) (samples : Float) :
    Except Fault (Trace α) := do
  let resolution ← Contour.resolution samples
  let segments ← Contour.segments field viewport resolution Contour.greatestValue
  return .contour resolution segments

def ofCurve (function : α → Option α) (domain : Interval α) (visible : Interval α)
    (samples : Float) : Except Fault (Trace α) := do
  let resolution ← Curve.resolution samples
  return .curve resolution
    (Curve.polylines function domain resolution visible Curve.greatestValue)

end Trace

def Graph.trace (graph : Graph α) (viewport : Viewport α) : Except Fault (Trace α) :=
  match graph.shape with
  | .relation field => Trace.ofRelation field viewport graph.appearance.samples
  | .curve function =>
      match graph.domain.visible? viewport.x with
      | none => .ok .outside
      | some domain => Trace.ofCurve function domain viewport.y graph.appearance.samples

/-- The part of a box that lies over two declared domains, if there is any. -/
def visibleDomain? (domainX domainY : DomainText) (viewport : Viewport3D α) :
    Option (Interval α × Interval α) :=
  match domainX.visible? viewport.x, domainY.visible? viewport.y with
  | some x, some y => some (x, y)
  | _, _ => none

def SurfaceEntry.domain? (entry : SurfaceEntry) (viewport : Viewport3D α) :
    Option (Interval α × Interval α) :=
  visibleDomain? entry.domainX entry.domainY viewport

def SurfaceGraph.domain? (surface : SurfaceGraph α) (viewport : Viewport3D α) :
    Option (Interval α × Interval α) :=
  visibleDomain? surface.domainX surface.domainY viewport

/-- The mesh of a surface at its own sample density. -/
def SurfaceGraph.mesh? (surface : SurfaceGraph α) (viewport : Viewport3D α) :
    Except Fault (Option (SurfaceMesh α)) :=
  match surface.domain? viewport with
  | none => .ok none
  | some (x, y) => do
      let resolution ← Surface.resolution surface.appearance.samples Surface.standardFineness
      let mesh ← SurfaceMesh.ofFunction surface.height x y resolution viewport.z
        SurfaceMesh.greatestHeight
      return some mesh

end FormulaPlot
