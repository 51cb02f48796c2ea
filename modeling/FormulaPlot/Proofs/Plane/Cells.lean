import FormulaPlot.Scene.Graph
import Mathlib.Data.List.Perm.Basic

/-!
The cells of a contour one by one. The grid of values can be left out: a cell takes its corners
straight from the field, and a contour is drawn cell by cell.
-/

namespace FormulaPlot.Contour

open FormulaPlot.Scalar

set_option autoImplicit false

variable {α : Type} [Scalar α]

/-- A cell with its four corners sampled. -/
def cell (field : α → α → Option α) (greatest : α) (grid : Grid α) (row column : Nat) : Cell α :=
  let corner (row column : Nat) := sample field greatest (grid.x column) (grid.y row)
  ⟨grid.x column, grid.x column + grid.stepX, grid.y row, grid.y row + grid.stepY,
    corner row column, corner row (column + 1), corner (row + 1) (column + 1),
    corner (row + 1) column⟩

/-- The cells of a grid, row by row upwards. -/
def cells (field : α → α → Option α) (greatest : α) (grid : Grid α) (resolution : Nat) :
    List (Cell α) :=
  (List.range resolution).flatMap fun row =>
    (List.range resolution).map fun column => cell field greatest grid row column

theorem value_at_vertices (field : α → α → Option α) (greatest : α) (grid : Grid α)
    {resolution row column : Nat} (inside : row ≤ resolution) (within : column ≤ resolution) :
    valueAt (vertices field grid resolution greatest) row column =
      sample field greatest (grid.x column) (grid.y row) := by
  have rowBound : row < (Array.range (resolution + 1)).size := by
    rw [Array.size_range]
    omega
  have columnBound : column < (Array.range (resolution + 1)).size := by
    rw [Array.size_range]
    omega
  simp only [valueAt, vertices, Array.getElem?_map, Array.getElem?_eq_getElem rowBound,
    Option.map_some, Option.getD_some, Array.getElem?_eq_getElem columnBound, Array.getElem_range,
    Option.join_some]

theorem cell_at_vertices (field : α → α → Option α) (greatest : α) (grid : Grid α)
    {resolution row column : Nat} (inside : row < resolution) (within : column < resolution) :
    cellAt grid (vertices field grid resolution greatest) row column =
      cell field greatest grid row column := by
  simp only [cellAt, cell]
  rw [value_at_vertices field greatest grid (by omega) (by omega),
    value_at_vertices field greatest grid (by omega) (by omega),
    value_at_vertices field greatest grid (by omega) (by omega),
    value_at_vertices field greatest grid (by omega) (by omega)]

/-- A contour is drawn cell by cell. -/
theorem segments_eq (field : α → α → Option α) (viewport : Viewport α) (resolution : Nat)
    (greatest : α) :
    segments field viewport resolution greatest =
      (grid viewport resolution).map fun grid =>
        (cells field greatest grid resolution).flatMap (Cell.segments field) := by
  unfold segments
  cases grid viewport resolution with
  | error fault => rfl
  | ok grid =>
      apply congrArg Except.ok
      simp only [cells, List.flatMap_assoc, List.flatMap_map]
      apply List.flatMap_congr
      intro row inside
      apply List.flatMap_congr
      intro column within
      rw [cell_at_vertices field greatest grid (List.mem_range.mp inside)
        (List.mem_range.mp within)]

/-! Edges -/

inductive Edge where
  | bottom
  | right
  | top
  | left

namespace Edge

def opposite : Edge → Edge
  | bottom => top
  | right => left
  | top => bottom
  | left => right

/-- The cell on the other side of an edge, as far as there is one. -/
def across (resolution : Nat) : Edge → Nat → Nat → Option (Nat × Nat)
  | bottom, 0, _ => none
  | bottom, row + 1, column => some (row, column)
  | right, row, column => if column + 1 < resolution then some (row, column + 1) else none
  | top, row, column => if row + 1 < resolution then some (row + 1, column) else none
  | left, _, 0 => none
  | left, row, column + 1 => some (row, column)

end Edge

namespace Cell

/-- The ends of an edge, counter-clockwise about the cell. -/
def start (cell : Cell α) : Edge → Point α × Option α
  | .bottom => (⟨cell.lowX, cell.lowY⟩, cell.lowerLeft)
  | .right => (⟨cell.highX, cell.lowY⟩, cell.lowerRight)
  | .top => (⟨cell.highX, cell.highY⟩, cell.upperRight)
  | .left => (⟨cell.lowX, cell.highY⟩, cell.upperLeft)

def stop (cell : Cell α) : Edge → Point α × Option α
  | .bottom => cell.start .right
  | .right => cell.start .top
  | .top => cell.start .left
  | .left => cell.start .bottom

/-- Where the contour meets an edge. -/
def crossing (cell : Cell α) (edge : Edge) : Option (Point α) :=
  edgeCrossing (cell.start edge).1 (cell.start edge).2 (cell.stop edge).1 (cell.stop edge).2

def crossed (cell : Cell α) : List (Point α) := cell.crossings.filterMap id

def center (cell : Cell α) (field : α → α → Option α) : Option α :=
  field ((cell.lowX + cell.highX) / 2.0) ((cell.lowY + cell.highY) / 2.0)

/-- Ends of the segments that are drawn in a cell. -/
def ends (cell : Cell α) (field : α → α → Option α) : List (Point α) :=
  (cell.segments field).flatMap Segment.points

theorem crossings_eq (cell : Cell α) :
    cell.crossings =
      [cell.crossing .bottom, cell.crossing .right, cell.crossing .top, cell.crossing .left] :=
  rfl

theorem mem_crossed_iff (cell : Cell α) (point : Point α) :
    point ∈ cell.crossed ↔ ∃ edge, cell.crossing edge = some point := by
  rw [crossed, crossings_eq, List.mem_filterMap]
  constructor
  · intro met
    simp only [List.mem_cons, List.not_mem_nil, or_false, id] at met
    rcases met with ⟨_, rfl | rfl | rfl | rfl, crossing⟩
    · exact ⟨.bottom, crossing⟩
    · exact ⟨.right, crossing⟩
    · exact ⟨.top, crossing⟩
    · exact ⟨.left, crossing⟩
  · intro met
    rcases met with ⟨edge, crossing⟩
    refine ⟨some point, ?_, rfl⟩
    rw [← crossing]
    cases edge <;> simp only [List.mem_cons, true_or, or_true]

/-- Crossings joined in pairs. -/
def join (center : Option α) : List (Point α) → List (Segment α)
  | [first, second] => [⟨first, second⟩]
  | [p0, p1, p2, p3] => saddle center p0 p1 p2 p3
  | _ => []

theorem segments_eq (cell : Cell α) (field : α → α → Option α) :
    cell.segments field = join (cell.center field) cell.crossed :=
  rfl

/-- Segments join the crossings of a cell in pairs, each crossing once, if their number is even. -/
theorem ends_perm_crossed (cell : Cell α) (field : α → α → Option α) {value : α}
    (defined : cell.center field = some value) (finite : isFinite value = true)
    (even : cell.crossed.length = 0 ∨ cell.crossed.length = 2 ∨ cell.crossed.length = 4) :
    (cell.ends field).Perm cell.crossed := by
  unfold ends
  rw [segments_eq, defined]
  generalize cell.crossed = crossed at even
  match crossed, even with
  | [], _ => exact .nil
  | [first, second], _ => exact .refl _
  | [p0, p1, p2, p3], _ =>
      have known : (!isFinite value) = false := by rw [finite, Bool.not_true]
      simp only [join, saddle, known, Bool.false_eq_true, if_false]
      split
      · have turned : ([p3] ++ [p1, p2]).Perm ([p1, p2] ++ [p3]) := List.perm_append_comm
        exact .cons p0 turned
      · exact .refl _

theorem ends_of_three (cell : Cell α) (field : α → α → Option α)
    (three : cell.crossed.length = 3) : cell.ends field = [] := by
  unfold ends
  rw [segments_eq]
  generalize cell.crossed = crossed at three
  match crossed, three with
  | [_, _, _], _ => rfl

end Cell

end FormulaPlot.Contour
