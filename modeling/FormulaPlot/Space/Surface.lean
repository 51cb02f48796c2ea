import FormulaPlot.Plane.Curve
import FormulaPlot.Space.Viewport3D

/-!
Surfaces over a rectangle, sampled at the vertices of a grid: their faces, and the edges of their
wireframe.
-/

namespace FormulaPlot

open FormulaPlot.Scalar

set_option autoImplicit false

/-- Four corners in the order in which they are joined. -/
structure Quad (point : Type) where
  first : point
  second : point
  third : point
  fourth : point

def Quad.toList {point : Type} (quad : Quad point) : List point :=
  [quad.first, quad.second, quad.third, quad.fourth]

structure Edge (point : Type) where
  first : point
  second : point

/-- Heights row by row in the direction of y; where there is no height the entry is empty. -/
structure SurfaceMesh (α : Type) where
  xs : Array α
  ys : Array α
  heights : Array (Array (Option α))

namespace SurfaceMesh

variable {α : Type} [Scalar α]

def resolution (mesh : SurfaceMesh α) : Nat := mesh.xs.size - 1

def height? (mesh : SurfaceMesh α) (row column : Nat) : Option α :=
  ((mesh.heights[row]?.getD #[])[column]?).join

def vertex? (mesh : SurfaceMesh α) (row column : Nat) : Option (Point3D α) :=
  match mesh.xs[column]?, mesh.ys[row]?, mesh.height? row column with
  | some x, some y, some z => some ⟨x, y, z⟩
  | _, _, _ => none

def definedCount (mesh : SurfaceMesh α) : Nat :=
  mesh.heights.toList.foldr (fun row count => row.countP Option.isSome + count) 0

def face? (mesh : SurfaceMesh α) (row column : Nat) : Option (Quad (Point3D α)) :=
  match mesh.vertex? row column, mesh.vertex? row (column + 1),
    mesh.vertex? (row + 1) (column + 1), mesh.vertex? (row + 1) column with
  | some first, some second, some third, some fourth => some ⟨first, second, third, fourth⟩
  | _, _, _, _ => none

/-- Cells whose corners are all defined, row by row. -/
def faces (mesh : SurfaceMesh α) : List (Quad (Point3D α)) :=
  (List.range mesh.resolution).flatMap fun row =>
    (List.range mesh.resolution).filterMap fun column => mesh.face? row column

def edge? (first second : Option (Point3D α)) : Option (Edge (Point3D α)) :=
  match first, second with
  | some first, some second => some ⟨first, second⟩
  | _, _ => none

def rowEdges (mesh : SurfaceMesh α) : List (Edge (Point3D α)) :=
  (List.range (mesh.resolution + 1)).flatMap fun row =>
    (List.range mesh.resolution).filterMap fun column =>
      edge? (mesh.vertex? row column) (mesh.vertex? row (column + 1))

def columnEdges (mesh : SurfaceMesh α) : List (Edge (Point3D α)) :=
  (List.range (mesh.resolution + 1)).flatMap fun column =>
    (List.range mesh.resolution).filterMap fun row =>
      edge? (mesh.vertex? row column) (mesh.vertex? (row + 1) column)

/-- Edges along the rows, then along the columns. -/
def edges (mesh : SurfaceMesh α) : List (Edge (Point3D α)) := mesh.rowEdges ++ mesh.columnEdges

/-- All vertices of the grid, row by row, with their heights. -/
def rows (mesh : SurfaceMesh α) : List (List (α × α × Option α)) :=
  (List.range mesh.ys.size).map fun row =>
    (List.range mesh.xs.size).filterMap fun column =>
      match mesh.xs[column]?, mesh.ys[row]? with
      | some x, some y => some (x, y, mesh.height? row column)
      | _, _ => none

def greatestHeight : α := 1e7

@[specialize] def sample (surface : α → α → Option α) (heights : Interval α) (greatest x y : α) :
    Option α :=
  match surface x y with
  | none => none
  | some z =>
      if !isFinite z || decide (greatest < abs z) then none
      else if decide (z < heights.lo) || decide (heights.hi < z) then none
      else some z

def gridLine (interval : Interval α) (resolution : Nat) : Except Fault (Array α) := do
  let step ← divide interval.span (ofNat resolution)
  return (Array.range (resolution + 1)).map fun index => interval.lo + ofNat index * step

@[specialize] def ofFunction (surface : α → α → Option α) (x y : Interval α) (resolution : Nat)
    (heights : Interval α) (greatest : α) : Except Fault (SurfaceMesh α) := do
  let xs ← gridLine x resolution
  let ys ← gridLine y resolution
  return ⟨xs, ys, ys.map fun y => xs.map fun x => sample surface heights greatest x y⟩

end SurfaceMesh

namespace Surface

def leastResolution : Int := 12

def greatestResolution : Int := 80

def standardFineness : Float := 1.35

/-- Cells along each axis for a sample density. -/
def resolution (samples fineness : Float) : Except Fault Nat :=
  (sampleCount ((maximum 0.0 samples).sqrt * fineness) leastResolution greatestResolution).map
    Int.toNat

end Surface

end FormulaPlot
