import FormulaPlot.Proofs.Plane.Crossings
import FormulaPlot.Proofs.Plane.Resolution

/-!
Contours without rounding. A cell draws each of its crossings once, unless it has three of them,
and neighbouring cells share the crossing of their common edge.
-/

namespace FormulaPlot.Contour

open FormulaPlot.Scalar

set_option autoImplicit false

namespace Cell

variable {cell : Cell Rat} {field : Rat → Rat → Option Rat}

/-- The values at the ends of an edge have opposite signs and do not both count as zero. -/
def Parted (cell : Cell Rat) (edge : Edge) : Prop :=
  ∃ first second, (cell.start edge).2 = some first ∧ (cell.stop edge).2 = some second ∧
    (first < 0 ∧ 0 < second ∨ 0 < first ∧ second < 0) ∧
    ¬(isNearZero first = true ∧ isNearZero second = true)

/-- Three crossings are not joined. -/
def Broken (cell : Cell Rat) : Prop := cell.crossed.length = 3

/-- The value at a corner counts as zero. -/
def Touched (cell : Cell Rat) : Prop :=
  ∃ edge value, (cell.start edge).2 = some value ∧ isNearZero value = true

theorem crossing_of_parted {edge : Edge} (parted : cell.Parted edge) :
    ∃ point, cell.crossing edge = some point := by
  rcases parted with ⟨first, second, here, there, opposite, apart⟩
  apply Option.isSome_iff_exists.mp
  rw [crossing, here, there, edgeCrossing, (crossing_of_sides _ _ first second).2]
  exact decide_eq_true (sides_apart opposite apart)

/-- A cell with a value at each corner and at the centre draws all of its crossings once, or it has
three of them, draws nothing, and touches zero at a corner. -/
theorem drawn_or_broken {a b c d center : Rat} (corners : cell.Corners a b c d)
    (defined : cell.center field = some center) :
    ¬cell.Broken ∧ (cell.ends field).Perm cell.crossed ∨
      cell.Broken ∧ cell.ends field = [] ∧ cell.Touched := by
  have length := length_crossed corners
  rcases changes_cases (side a) (side b) (side c) (side d) with
    none | two | four | ⟨three, near⟩
  · have even : cell.crossed.length = 0 := length.trans none
    exact .inl ⟨by rw [Broken, even]; decide, ends_perm_crossed cell field defined rfl (.inl even)⟩
  · have even : cell.crossed.length = 2 := length.trans two
    exact .inl ⟨by rw [Broken, even]; decide,
      ends_perm_crossed cell field defined rfl (.inr (.inl even))⟩
  · have even : cell.crossed.length = 4 := length.trans four
    exact .inl ⟨by rw [Broken, even]; decide,
      ends_perm_crossed cell field defined rfl (.inr (.inr even))⟩
  · have odd : cell.Broken := length.trans three
    refine .inr ⟨odd, ends_of_three cell field odd, ?_⟩
    rcases near with near | near | near | near
    · exact ⟨.bottom, a, corners.lowerLeft, near_of_side near⟩
    · exact ⟨.right, b, corners.lowerRight, near_of_side near⟩
    · exact ⟨.top, c, corners.upperRight, near_of_side near⟩
    · exact ⟨.left, d, corners.upperLeft, near_of_side near⟩

end Cell

theorem Grid.x_succ (grid : Grid Rat) (column : Nat) :
    grid.x (column + 1) = grid.x column + grid.stepX := by
  show grid.originX + (((column + 1 : Nat) : Int) : Rat) * grid.stepX =
    grid.originX + ((column : Int) : Rat) * grid.stepX + grid.stepX
  push_cast
  ring

theorem Grid.y_succ (grid : Grid Rat) (row : Nat) :
    grid.y (row + 1) = grid.y row + grid.stepY := by
  show grid.originY + (((row + 1 : Nat) : Int) : Rat) * grid.stepY =
    grid.originY + ((row : Int) : Rat) * grid.stepY + grid.stepY
  push_cast
  ring

theorem grid_eq (viewport : Viewport Rat) {resolution : Nat} (some : 0 < resolution) :
    grid viewport resolution = .ok ⟨viewport.x.lo, viewport.y.lo,
      viewport.x.span / ofNat resolution, viewport.y.span / ofNat resolution⟩ := by
  have nonzero : isZero (ofNat resolution : Rat) = false := by
    have positive : (0 : Rat) < ((resolution : Int) : Rat) := by exact_mod_cast some
    simp only [isZero, zero_rat, Bool.and_eq_false_iff, decide_eq_false_iff_not]
    exact .inl (not_le.mpr positive)
  simp only [grid, divide, nonzero, Bool.false_eq_true, if_false]
  rfl

theorem grid_of_resolution (viewport : Viewport Rat) {resolution : Nat} (some : 0 < resolution) :
    ∃ placed, grid viewport resolution = .ok placed :=
  ⟨_, grid_eq viewport some⟩

section Field

variable (field : Rat → Rat → Option Rat) (greatest : Rat) (grid : Grid Rat)

/-- The field has a value within the limit at every vertex, and a value at the centre of every
cell. -/
structure Sampled (resolution : Nat) : Prop where
  vertex : ∀ row ≤ resolution, ∀ column ≤ resolution,
    ∃ value, field (grid.x column) (grid.y row) = some value ∧ Scalar.abs value ≤ greatest
  center : ∀ row < resolution, ∀ column < resolution,
    ∃ value, (cell field greatest grid row column).center field = some value

variable {field greatest grid}

theorem sample_within {x y value : Rat} (defined : field x y = some value)
    (within : Scalar.abs value ≤ greatest) : sample field greatest x y = some value := by
  have kept : (isFinite value && decide (Scalar.abs value ≤ greatest)) = true := by
    rw [decide_eq_true within]
    rfl
  simp only [sample, defined, kept, if_true]

theorem Sampled.sample {resolution row column : Nat}
    (sampled : Sampled field greatest grid resolution) (inside : row ≤ resolution) (within : column ≤ resolution) :
    ∃ value, sample field greatest (grid.x column) (grid.y row) = some value := by
  rcases sampled.vertex row inside column within with ⟨value, defined, small⟩
  exact ⟨value, sample_within defined small⟩

theorem Sampled.corners {resolution row column : Nat}
    (sampled : Sampled field greatest grid resolution) (inside : row < resolution)
    (within : column < resolution) :
    ∃ a b c d, (cell field greatest grid row column).Corners a b c d := by
  have ⟨a, lowerLeft⟩ := sampled.sample (Nat.le_of_lt inside) (Nat.le_of_lt within)
  have ⟨b, lowerRight⟩ := sampled.sample (Nat.le_of_lt inside) within
  have ⟨c, upperRight⟩ := sampled.sample inside within
  have ⟨d, upperLeft⟩ := sampled.sample inside (Nat.le_of_lt within)
  exact ⟨a, b, c, d, lowerLeft, lowerRight, upperRight, upperLeft⟩

variable (field greatest grid)

theorem crossing_beside (row column : Nat) :
    (cell field greatest grid row (column + 1)).crossing .left =
      (cell field greatest grid row column).crossing .right := by
  simp only [Cell.crossing, Cell.start, Cell.stop, cell, Grid.x_succ]
  exact edge_crossing_comm _ _ _ _

theorem crossing_above (row column : Nat) :
    (cell field greatest grid (row + 1) column).crossing .bottom =
      (cell field greatest grid row column).crossing .top := by
  simp only [Cell.crossing, Cell.start, Cell.stop, cell, Grid.y_succ]
  exact edge_crossing_comm _ _ _ _

variable {resolution row column otherRow otherColumn : Nat} {edge : Edge}

/-- Neighbouring cells lie in the grid and share the crossing of their common edge. -/
theorem crossing_across (inside : row < resolution) (within : column < resolution)
    (across : edge.across resolution row column = some (otherRow, otherColumn)) :
    otherRow < resolution ∧ otherColumn < resolution ∧
      (cell field greatest grid otherRow otherColumn).crossing edge.opposite =
        (cell field greatest grid row column).crossing edge := by
  cases edge with
  | bottom =>
      cases row with
      | zero => contradiction
      | succ row =>
          rcases Prod.mk.inj (Option.some.inj across) with ⟨rfl, rfl⟩
          exact ⟨by omega, within, (crossing_above field greatest grid row column).symm⟩
  | right =>
      rcases Option.ite_none_right_eq_some.mp across with ⟨next, same⟩
      cases same
      exact ⟨inside, next, crossing_beside field greatest grid row column⟩
  | top =>
      rcases Option.ite_none_right_eq_some.mp across with ⟨next, same⟩
      cases same
      exact ⟨next, within, crossing_above field greatest grid row column⟩
  | left =>
      cases column with
      | zero => contradiction
      | succ column =>
          rcases Prod.mk.inj (Option.some.inj across) with ⟨rfl, rfl⟩
          exact ⟨inside, by omega, (crossing_beside field greatest grid row column).symm⟩

/-- What a cell draws of its crossings, and where its lines go on. -/
structure Continued (resolution row column : Nat) : Prop where
  parted : ∀ edge, (cell field greatest grid row column).Parted edge →
    ∃ point, (cell field greatest grid row column).crossing edge = some point ∧
      (point ∈ (cell field greatest grid row column).ends field ↔
        ¬(cell field greatest grid row column).Broken)
  broken : (cell field greatest grid row column).Broken →
    (cell field greatest grid row column).ends field = [] ∧
      (cell field greatest grid row column).Touched
  onward : ∀ point ∈ (cell field greatest grid row column).ends field,
    ∃ edge, (cell field greatest grid row column).crossing edge = some point ∧
      ∀ otherRow otherColumn, edge.across resolution row column = some (otherRow, otherColumn) →
        ¬(cell field greatest grid otherRow otherColumn).Broken →
          point ∈ (cell field greatest grid otherRow otherColumn).ends field

variable {field greatest grid}

theorem Sampled.drawn_or_broken (sampled : Sampled field greatest grid resolution)
    (inside : row < resolution) (within : column < resolution) :
    ¬(cell field greatest grid row column).Broken ∧
        ((cell field greatest grid row column).ends field).Perm
          (cell field greatest grid row column).crossed ∨
      (cell field greatest grid row column).Broken ∧
        (cell field greatest grid row column).ends field = [] ∧
        (cell field greatest grid row column).Touched := by
  have ⟨_, _, _, _, corners⟩ := sampled.corners inside within
  have ⟨_, defined⟩ := sampled.center row inside column within
  exact Cell.drawn_or_broken corners defined

theorem Sampled.mem_ends (sampled : Sampled field greatest grid resolution)
    (inside : row < resolution) (within : column < resolution)
    (whole : ¬(cell field greatest grid row column).Broken) {point : Point Rat}
    (crossing : (cell field greatest grid row column).crossing edge = some point) :
    point ∈ (cell field greatest grid row column).ends field := by
  rcases sampled.drawn_or_broken inside within with ⟨_, drawn⟩ | ⟨broken, _⟩
  · exact drawn.mem_iff.mpr ((Cell.mem_crossed_iff _ _).mpr ⟨edge, crossing⟩)
  · exact absurd broken whole

theorem Sampled.continued (sampled : Sampled field greatest grid resolution)
    (inside : row < resolution) (within : column < resolution) :
    Continued field greatest grid resolution row column where
  parted edge parted := by
    have ⟨point, crossing⟩ := Cell.crossing_of_parted parted
    refine ⟨point, crossing, ?_, fun whole => sampled.mem_ends inside within whole crossing⟩
    intro drawn broken
    rcases sampled.drawn_or_broken inside within with ⟨whole, _⟩ | ⟨_, nothing, _⟩
    · exact whole broken
    · rw [nothing] at drawn
      contradiction
  broken three := by
    rcases sampled.drawn_or_broken inside within with ⟨whole, _⟩ | ⟨_, nothing, touched⟩
    · exact absurd three whole
    · exact ⟨nothing, touched⟩
  onward point drawn := by
    rcases sampled.drawn_or_broken inside within with ⟨_, all⟩ | ⟨_, nothing, _⟩
    · have ⟨edge, crossing⟩ := (Cell.mem_crossed_iff _ _).mp (all.mem_iff.mp drawn)
      refine ⟨edge, crossing, ?_⟩
      intro otherRow otherColumn across whole
      have ⟨low, left, shared⟩ := crossing_across field greatest grid inside within across
      exact sampled.mem_ends low left whole (shared.trans crossing)
    · rw [nothing] at drawn
      contradiction

end Field

/-- A contour is drawn cell by cell. An edge that the contour passes has a crossing; it is an end of
a segment of its cell unless the cell has three crossings, one of them at a corner that counts as
zero, and a line goes on in the next cell unless that has three. -/
theorem contour_goes_on (field : Rat → Rat → Option Rat) (viewport : Viewport Rat) (greatest : Rat)
    {samples : Float} (finite : samples.isFinite = true) :
    ∃ cellsAcross placed, resolution samples = .ok cellsAcross ∧
      grid viewport cellsAcross = .ok placed ∧
      (Sampled field greatest placed cellsAcross →
        segments field viewport cellsAcross greatest =
            .ok ((cells field greatest placed cellsAcross).flatMap (Cell.segments field)) ∧
          ∀ row < cellsAcross, ∀ column < cellsAcross,
            Continued field greatest placed cellsAcross row column) := by
  have ⟨count, counted, least, _⟩ := resolution_of_finite finite
  have ⟨placed, gridded⟩ := grid_of_resolution viewport (show 0 < count by omega)
  refine ⟨count, placed, counted, gridded, ?_⟩
  intro sampled
  constructor
  · rw [segments_eq, gridded]
    rfl
  · intro row inside column within
    exact sampled.continued inside within

/-! A line through a vertex -/

section Line

/-- The line `y = 2 * x + 29` meets the left edge of a cell of width one at a vertex. -/
def steepLine (x y : Rat) : Option Rat := some (2 * x - y + 29)

/-- The line `x = 1 / 2`, with values that count as zero on both sides of it. -/
def faintLine (x _y : Rat) : Option Rat := some (1e-13 * (x - 1 / 2))

def square : Viewport Rat := ⟨⟨0, 30⟩, ⟨0, 30⟩⟩

def unitGrid : Grid Rat := ⟨0, 0, 1, 1⟩

theorem square_grid : grid square 30 = .ok unitGrid := by
  have nonzero : isZero (ofNat 30 : Rat) = false := by decide +kernel
  have unit : (30 - 0 : Rat) / ofNat 30 = 1 := by
    show (30 - 0 : Rat) / ((30 : Int) : Rat) = 1
    norm_num
  simp only [grid, divide, nonzero, Bool.false_eq_true, if_false, square, Interval.span]
  rw [unit]
  rfl

theorem unit_x (column : Nat) : unitGrid.x column = column := by
  show (0 : Rat) + ((column : Int) : Rat) * 1 = column
  push_cast
  ring

theorem unit_y (row : Nat) : unitGrid.y row = row := by
  show (0 : Rat) + ((row : Int) : Rat) * 1 = row
  push_cast
  ring

theorem abs_le_iff (value greatest : Rat) :
    Scalar.abs value ≤ greatest ↔ -greatest ≤ value ∧ value ≤ greatest := by
  rw [abs_rat, abs_le]

theorem steep_line_sampled : Sampled steepLine 1e8 unitGrid 30 where
  vertex row inside column within := by
    have top : (row : Rat) ≤ 30 := by exact_mod_cast inside
    have side : (column : Rat) ≤ 30 := by exact_mod_cast within
    have bottom : (0 : Rat) ≤ row := Nat.cast_nonneg row
    have start : (0 : Rat) ≤ column := Nat.cast_nonneg column
    rw [unit_x, unit_y]
    refine ⟨_, rfl, (abs_le_iff _ _).mpr ⟨?_, ?_⟩⟩ <;> norm_num <;> linarith
  center row _ column _ := ⟨_, rfl⟩

theorem faint_line_sampled : Sampled faintLine 1e8 unitGrid 30 where
  vertex row _ column within := by
    have side : (column : Rat) ≤ 30 := by exact_mod_cast within
    have start : (0 : Rat) ≤ column := Nat.cast_nonneg column
    rw [unit_x]
    refine ⟨_, rfl, (abs_le_iff _ _).mpr ⟨?_, ?_⟩⟩ <;> norm_num <;> linarith
  center row _ column _ := ⟨_, rfl⟩

theorem steep_line_corners : (cell steepLine 1e8 unitGrid 29 0).Corners 0 2 1 (-1) where
  lowerLeft := by decide +kernel
  lowerRight := by decide +kernel
  upperRight := by decide +kernel
  upperLeft := by decide +kernel

theorem steep_line_goes_on :
    (1.0 : Float).isFinite = true ∧ Sampled steepLine 1e8 unitGrid 30 ∧
      segments steepLine square 30 1e8 =
        .ok ((cells steepLine 1e8 unitGrid 30).flatMap (Cell.segments steepLine)) ∧
      ∀ row < 30, ∀ column < 30, Continued steepLine 1e8 unitGrid 30 row column := by
  have finite : (1.0 : Float).isFinite = true := by decide
  have ⟨count, placed, counted, gridded, goesOn⟩ := contour_goes_on steepLine square 1e8 finite
  have thirty : resolution 1.0 = .ok 30 := by decide +kernel
  rw [thirty] at counted
  cases counted
  rw [square_grid] at gridded
  cases gridded
  exact ⟨finite, steep_line_sampled, goesOn steep_line_sampled⟩

/-- A line that leaves a cell through its top edge is not drawn if it comes in at a vertex, and an
edge between values that count as zero has no crossing although they have opposite signs. -/
theorem line_through_vertex_breaks :
    resolution 100.0 = .ok 30 ∧ grid square 30 = .ok unitGrid ∧
      Sampled steepLine 1e8 unitGrid 30 ∧
      (cell steepLine 1e8 unitGrid 29 0).upperRight = some 1 ∧
      (cell steepLine 1e8 unitGrid 29 0).upperLeft = some (-1) ∧
      (cell steepLine 1e8 unitGrid 29 0).crossing .top = some ⟨1 / 2, 30⟩ ∧
      (cell steepLine 1e8 unitGrid 29 0).ends steepLine = [] ∧
      Sampled faintLine 1e8 unitGrid 30 ∧
      (cell faintLine 1e8 unitGrid 0 0).lowerLeft = some (-5e-14) ∧
      (cell faintLine 1e8 unitGrid 0 0).lowerRight = some 5e-14 ∧
      (cell faintLine 1e8 unitGrid 0 0).crossing .bottom = none := by
  have thirty : resolution 100.0 = .ok 30 := by decide +kernel
  have three : (cell steepLine 1e8 unitGrid 29 0).crossed.length = 3 := by
    rw [Cell.length_crossed steep_line_corners]
    decide +kernel
  refine ⟨thirty, square_grid, steep_line_sampled, steep_line_corners.upperRight,
    steep_line_corners.upperLeft, ?_, Cell.ends_of_three _ _ three, faint_line_sampled,
    by decide +kernel, by decide +kernel, ?_⟩
  · have start : ((cell steepLine 1e8 unitGrid 29 0).start .top).2 = some 1 :=
      steep_line_corners.upperRight
    have stop : ((cell steepLine 1e8 unitGrid 29 0).stop .top).2 = some (-1) :=
      steep_line_corners.upperLeft
    rw [Cell.crossing, start, stop, edgeCrossing, crossing_opposite _ _ (by decide +kernel)
      (by decide +kernel) (.inr ⟨by norm_num, by norm_num⟩)]
    have step : unitGrid.stepX = 1 ∧ unitGrid.stepY = 1 := ⟨rfl, rfl⟩
    simp only [Cell.start, Cell.stop, cell, unit_x, unit_y, step]
    norm_num
  · have start : ((cell faintLine 1e8 unitGrid 0 0).start .bottom).2 = some (-5e-14) := by
      decide +kernel
    have stop : ((cell faintLine 1e8 unitGrid 0 0).stop .bottom).2 = some 5e-14 := by
      decide +kernel
    rw [Cell.crossing, start, stop, edgeCrossing, crossing_near_both _ _ (by decide +kernel)
      (by decide +kernel)]

end Line

end FormulaPlot.Contour
