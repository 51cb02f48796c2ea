import FormulaPlot.Scene.Frame
import FormulaPlot.Scene.Graph
import FormulaPlot.Scene.Painter

/-!
Pictures of space on a canvas: ground grid, box and axes, then the faces and wireframes of the
surfaces, all in the order in which they are painted.
-/

namespace FormulaPlot

open FormulaPlot.Scalar

set_option autoImplicit false

structure SpaceScene (α : Type) where
  viewport : Viewport3D α
  canvas : Canvas α
  faces : List (PaintedFace α)
  segments : List (PaintedSegment α)
  labels : List (Label α)

namespace SpaceScene

def gridStyle : Style := { color := .text "#d6deea", width := 1.0, layer := Layer.grid }

def boxStyle : Style :=
  { color := .text "#b5c4d8", width := 1.0, dashed := true, layer := Layer.grid }

def axisStyle (color : String) : Style :=
  { color := .text color, width := 1.8, layer := Layer.axes }

/-- Ticks wanted along each side of the ground. -/
def ticksAlong : Int := 10

def faceAlpha (dashed : Bool) : Float := if dashed then 0.14 else 0.24

variable {α : Type}

/-- A straight line of space together with the style that it is drawn in. -/
abbrev Line (α : Type) := Edge (Point3D α) × Style

section Lines

variable [DecimalScale α]

def grid (viewport : Viewport3D α) : Except Fault (List (Line α)) := do
  let xs ← viewport.x.ticks ticksAlong
  let ys ← viewport.y.ticks ticksAlong
  return xs.map (fun x => (⟨⟨x, viewport.y.lo, zero⟩, ⟨x, viewport.y.hi, zero⟩⟩, gridStyle)) ++
    ys.map (fun y => (⟨⟨viewport.x.lo, y, zero⟩, ⟨viewport.x.hi, y, zero⟩⟩, gridStyle))

/-- Corners of the ground plan, counter-clockwise. -/
def plan (viewport : Viewport3D α) : Quad (α × α) :=
  ⟨(viewport.x.lo, viewport.y.lo), (viewport.x.hi, viewport.y.lo),
    (viewport.x.hi, viewport.y.hi), (viewport.x.lo, viewport.y.hi)⟩

def storey (corners : Quad (α × α)) (z : α) : List (Edge (Point3D α)) :=
  let raised (corner : α × α) : Point3D α := ⟨corner.1, corner.2, z⟩
  [⟨raised corners.first, raised corners.second⟩, ⟨raised corners.second, raised corners.third⟩,
    ⟨raised corners.third, raised corners.fourth⟩, ⟨raised corners.fourth, raised corners.first⟩]

/-- Bottom, top, then the uprights. -/
def box (viewport : Viewport3D α) : List (Line α) :=
  let corners := plan viewport
  let uprights := corners.toList.map fun corner =>
    (⟨⟨corner.1, corner.2, viewport.z.lo⟩, ⟨corner.1, corner.2, viewport.z.hi⟩⟩ :
      Edge (Point3D α))
  (storey corners viewport.z.lo ++ storey corners viewport.z.hi ++ uprights).map fun edge =>
    (edge, boxStyle)

def axes (viewport : Viewport3D α) : List (Line α) :=
  [(⟨⟨viewport.x.lo, zero, zero⟩, ⟨viewport.x.hi, zero, zero⟩⟩, axisStyle "#d94646"),
    (⟨⟨zero, viewport.y.lo, zero⟩, ⟨zero, viewport.y.hi, zero⟩⟩, axisStyle "#2563eb"),
    (⟨⟨zero, zero, viewport.z.lo⟩, ⟨zero, zero, viewport.z.hi⟩⟩, axisStyle "#0f766e")]

def wireStyle (surface : SurfaceGraph α) : Style where
  color := surface.appearance.color
  width := surface.appearance.lineWidth
  dashed := surface.appearance.dashed
  layer := Layer.surfaces

def addLines (painter : Painter α) (lines : List (Line α)) : Painter α :=
  lines.foldl (fun painter line => (painter.addSegment line.1.first line.1.second line.2).2) painter

/-- Faces in the surface's colour, and its wireframe. -/
def addMesh (painter : Painter α) (surface : SurfaceGraph α) (mesh : SurfaceMesh α) :
    Painter α :=
  let alpha := faceAlpha surface.appearance.dashed
  let painted := mesh.faces.foldl
    (fun painter face => (painter.addFace face surface.appearance.color alpha).2) painter
  addLines painted (mesh.edges.map fun edge => (edge, wireStyle surface))

def addSurface (painter : Painter α) (sampled : SurfaceGraph α × Option (SurfaceMesh α)) :
    Painter α :=
  match sampled.2 with
  | none => painter
  | some mesh => addMesh painter sampled.1 mesh

/-- The distance of a label from the end of its axis, in pixels. -/
def labelOffset : α := 4.0

/-- Names at those ends of the axes that have a picture. -/
def axisLabels (project : Projector α) (viewport : Viewport3D α) : List (Label α) :=
  [("x", (⟨viewport.x.hi, zero, zero⟩ : Point3D α)), ("y", ⟨zero, viewport.y.hi, zero⟩),
    ("z", ⟨zero, zero, viewport.z.hi⟩)].filterMap fun (text, point) =>
      (project point).map fun picture =>
        { text := text
          position := ⟨picture.x + labelOffset, picture.y + labelOffset⟩
          height := labelHeight }

def ofPainter (viewport : Viewport3D α) (settings : SpaceSettings) (canvas : Canvas α)
    (painter : Painter α) : SpaceScene α :=
  ⟨viewport, canvas, painter.orderedFaces, painter.orderedSegments,
    if settings.axes then axisLabels painter.project viewport else []⟩

/-- The picture that a projector gives, and the meshes that were sampled for it. -/
def project (project : Projector α) (surfaces : List (SurfaceGraph α)) (viewport : Viewport3D α)
    (settings : SpaceSettings) (canvas : Canvas α) :
    Except Fault (SpaceScene α × List (Option (SurfaceMesh α))) := do
  let grid ← if settings.grid then grid viewport else .ok []
  let boxLines := if settings.box then box viewport else []
  let axisLines := if settings.axes then axes viewport else []
  let meshes ← surfaces.mapM fun surface => surface.mesh? viewport
  let framed := addLines (.ofProjector project) (grid ++ boxLines ++ axisLines)
  let painter := (surfaces.zip meshes).foldl addSurface framed
  return (ofPainter viewport settings canvas painter, meshes)

end Lines

def buildTraced (surfaces : List (SurfaceGraph Float)) (viewport : Viewport3D Float)
    (settings : SpaceSettings) (canvas : Canvas Float) :
    Except SceneFault (SpaceScene Float × List (Option (SurfaceMesh Float))) := do
  canvas.check
  let projector ← SceneFault.lift (projector viewport canvas)
  SceneFault.lift (project projector surfaces viewport settings canvas)

def build (surfaces : List (SurfaceGraph Float)) (viewport : Viewport3D Float)
    (settings : SpaceSettings) (canvas : Canvas Float) : Except SceneFault (SpaceScene Float) :=
  (buildTraced surfaces viewport settings canvas).map Prod.fst

end SpaceScene

end FormulaPlot
