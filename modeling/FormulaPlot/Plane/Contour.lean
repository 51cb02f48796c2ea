import FormulaPlot.Plane.Curve

/-!
Zero sets of functions of two coordinates, cell by cell over a grid. The crossings of a cell's
edges are joined in pairs; where all four edges are crossed, the value at the centre tells which.
-/

namespace FormulaPlot

open FormulaPlot.Scalar

set_option autoImplicit false

structure Segment (α : Type) where
  first : Point α
  second : Point α

namespace Contour

def leastResolution : Int := 30

def greatestResolution : Int := 180

/-- Cells along each axis for a sample density. -/
def resolution (samples : Float) : Except Fault Nat :=
  (sampleCount ((maximum 1.0 samples).sqrt * 2.2) leastResolution greatestResolution).map Int.toNat

variable {α : Type} [Scalar α]

def greatestValue : α := 1e8

/-- Values below this in size count as zero. -/
def zeroTolerance : α := 1e-12

structure Grid (α : Type) where
  originX : α
  originY : α
  stepX : α
  stepY : α

def grid (viewport : Viewport α) (resolution : Nat) : Except Fault (Grid α) := do
  let stepX ← divide viewport.x.span (ofNat resolution)
  let stepY ← divide viewport.y.span (ofNat resolution)
  return ⟨viewport.x.lo, viewport.y.lo, stepX, stepY⟩

def Grid.x (grid : Grid α) (column : Nat) : α := grid.originX + ofNat column * grid.stepX

def Grid.y (grid : Grid α) (row : Nat) : α := grid.originY + ofNat row * grid.stepY

@[specialize] def sample (field : α → α → Option α) (greatest x y : α) : Option α :=
  match field x y with
  | none => none
  | some value => if isFinite value && decide (abs value ≤ greatest) then some value else none

/-- Values at the vertices, row by row upwards; undefined ones are missing. -/
@[specialize] def vertices (field : α → α → Option α) (grid : Grid α) (resolution : Nat)
    (greatest : α) : Array (Array (Option α)) :=
  (Array.range (resolution + 1)).map fun row =>
    let y := grid.y row
    (Array.range (resolution + 1)).map fun column => sample field greatest (grid.x column) y

def isNearZero (value : α) : Bool := decide (abs value < zeroTolerance)

def sameSign (first second : α) : Bool :=
  (decide (zero < first) && decide (zero < second)) ||
    (decide (first < zero) && decide (second < zero))

/-- Where the line through the values at the two ends of an edge vanishes. -/
def crossing (start : Point α) (startValue : α) (stop : Point α) (stopValue : α) :
    Option (Point α) :=
  if !isFinite startValue || !isFinite stopValue then none
  else if isNearZero startValue && isNearZero stopValue then none
  else if isNearZero startValue then some start
  else if isNearZero stopValue then some stop
  else if sameSign startValue stopValue then none
  else
    let share := startValue / (startValue - stopValue)
    if !isFinite share || decide (share < zero) || decide (1.0 < share) then none
    else
      some ⟨start.x + share * (stop.x - start.x), start.y + share * (stop.y - start.y)⟩

def edgeCrossing (start : Point α) (startValue : Option α) (stop : Point α)
    (stopValue : Option α) : Option (Point α) :=
  match startValue, stopValue with
  | some first, some second => crossing start first stop second
  | _, _ => none

/-- A cell by its corners, counter-clockwise from the lower left one. -/
structure Cell (α : Type) where
  lowX : α
  highX : α
  lowY : α
  highY : α
  lowerLeft : Option α
  lowerRight : Option α
  upperRight : Option α
  upperLeft : Option α

/-- Crossings of the bottom, right, top and left edges, in this order. -/
def Cell.crossings (cell : Cell α) : List (Option (Point α)) :=
  let a : Point α := ⟨cell.lowX, cell.lowY⟩
  let b : Point α := ⟨cell.highX, cell.lowY⟩
  let c : Point α := ⟨cell.highX, cell.highY⟩
  let d : Point α := ⟨cell.lowX, cell.highY⟩
  [edgeCrossing a cell.lowerLeft b cell.lowerRight,
    edgeCrossing b cell.lowerRight c cell.upperRight,
    edgeCrossing c cell.upperRight d cell.upperLeft,
    edgeCrossing d cell.upperLeft a cell.lowerLeft]

def saddle (center : Option α) (p0 p1 p2 p3 : Point α) : List (Segment α) :=
  match center with
  | none => []
  | some value =>
      if !isFinite value then []
      else if zero < value then [⟨p0, p3⟩, ⟨p1, p2⟩]
      else [⟨p0, p1⟩, ⟨p2, p3⟩]

@[specialize] def Cell.segments (field : α → α → Option α) (cell : Cell α) : List (Segment α) :=
  match cell.crossings.filterMap id with
  | [first, second] => [⟨first, second⟩]
  | [p0, p1, p2, p3] =>
      saddle (field ((cell.lowX + cell.highX) / 2.0) ((cell.lowY + cell.highY) / 2.0)) p0 p1 p2 p3
  | _ => []

def valueAt (values : Array (Array (Option α))) (row column : Nat) : Option α :=
  ((values[row]?.getD #[])[column]?).join

def cellAt (grid : Grid α) (values : Array (Array (Option α))) (row column : Nat) : Cell α :=
  let lowX := grid.x column
  let lowY := grid.y row
  ⟨lowX, lowX + grid.stepX, lowY, lowY + grid.stepY,
    valueAt values row column, valueAt values row (column + 1),
    valueAt values (row + 1) (column + 1), valueAt values (row + 1) column⟩

@[specialize] def segments (field : α → α → Option α) (viewport : Viewport α) (resolution : Nat)
    (greatest : α) : Except Fault (List (Segment α)) := do
  let grid ← grid viewport resolution
  let values := vertices field grid resolution greatest
  return (List.range resolution).flatMap fun row =>
    (List.range resolution).flatMap fun column =>
      (cellAt grid values row column).segments field

end Contour

end FormulaPlot
