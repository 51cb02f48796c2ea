import FormulaPlot.Proofs.Plane.Continuity

/-!
Segments of a contour without rounding. A segment joins two edges of one cell, each at a place where
the values at the ends of the edge let the contour pass, and it does not leave the view.
-/

namespace FormulaPlot

open FormulaPlot.Scalar

set_option autoImplicit false

structure Viewport.Contains (viewport : Viewport Rat) (point : Point Rat) : Prop where
  left : viewport.x.lo ≤ point.x
  right : point.x ≤ viewport.x.hi
  bottom : viewport.y.lo ≤ point.y
  top : point.y ≤ viewport.y.hi

namespace Contour

/-! Edges that a contour passes -/

/-- The point a share of the way from one point to another. -/
def between (start stop : Point Rat) (share : Rat) : Point Rat :=
  ⟨start.x + share * (stop.x - start.x), start.y + share * (stop.y - start.y)⟩

/-- The line through two values of opposite signs vanishes a share of the way between them. -/
structure Vanishes (first second share : Rat) : Prop where
  opposite : first < 0 ∧ 0 < second ∨ 0 < first ∧ second < 0
  least : 0 ≤ share
  most : share ≤ 1
  zero : first + share * (second - first) = 0

/-- A contour passes an edge at an end whose value counts as zero, or where the line through the
values at both ends vanishes. -/
inductive Passes (start : Point Rat) (first : Rat) (stop : Point Rat) (second : Rat) :
    Point Rat → Prop
  | start (near : isNearZero first = true) : Passes start first stop second start
  | stop (near : isNearZero second = true) : Passes start first stop second stop
  | between {share : Rat} (vanishes : Vanishes first second share) :
      Passes start first stop second (between start stop share)

/-- A contour passes an edge that has values of the field at both ends. -/
def PassesEdge (field : Rat → Rat → Option Rat) (greatest : Rat) (start stop point : Point Rat) :
    Prop :=
  ∃ first second, sample field greatest start.x start.y = some first ∧
    sample field greatest stop.x stop.y = some second ∧ Passes start first stop second point

section Edges

variable {start stop point : Point Rat} {first second share : Rat} {viewport : Viewport Rat}

theorem sign_of_far (far : isNearZero first = false) : first < 0 ∨ 0 < first := by
  refine lt_or_gt_of_ne ?_
  rintro rfl
  rw [zero_near_zero] at far
  contradiction

theorem vanishes_at_share (opposite : first < 0 ∧ 0 < second ∨ 0 < first ∧ second < 0) :
    Vanishes first second (first / (first - second)) where
  opposite := opposite
  least := (share_between opposite).1
  most := (share_between opposite).2
  zero := by
    have apart : first - second ≠ 0 := by
      rcases opposite with ⟨below, above⟩ | ⟨above, below⟩
      · exact (sub_neg.mpr (below.trans above)).ne
      · exact (sub_pos.mpr (below.trans above)).ne'
    field_simp
    ring

theorem passes_of_crossing (crossed : crossing start first stop second = some point) :
    Passes start first stop second point := by
  cases here : isNearZero first with
  | true =>
      cases there : isNearZero second with
      | true =>
          rw [crossing_near_both start stop here there] at crossed
          contradiction
      | false =>
          rw [crossing_near_start start stop here there] at crossed
          injection crossed with same
          exact same ▸ .start here
  | false =>
      cases there : isNearZero second with
      | true =>
          rw [crossing_near_stop start stop here there] at crossed
          injection crossed with same
          exact same ▸ .stop there
      | false =>
          have far : (first < 0 ∧ 0 < second ∨ 0 < first ∧ second < 0) ∨
              (0 < first ∧ 0 < second ∨ first < 0 ∧ second < 0) := by
            rcases sign_of_far here with one | one <;> rcases sign_of_far there with other | other
            · exact .inr (.inr ⟨one, other⟩)
            · exact .inl (.inl ⟨one, other⟩)
            · exact .inl (.inr ⟨one, other⟩)
            · exact .inr (.inl ⟨one, other⟩)
          rcases far with opposite | same
          · rw [crossing_opposite start stop here there opposite] at crossed
            injection crossed with same
            exact same ▸ .between (vanishes_at_share opposite)
          · rw [crossing_same_sign start stop here there same] at crossed
            contradiction

/-- The way from one place of an interval to another does not leave the interval. -/
theorem share_within {low high one other : Rat} (inside : low ≤ one ∧ one ≤ high)
    (within : low ≤ other ∧ other ≤ high) (least : 0 ≤ share) (most : share ≤ 1) :
    low ≤ one + share * (other - one) ∧ one + share * (other - one) ≤ high := by
  have rest : 0 ≤ 1 - share := sub_nonneg.mpr most
  have mixed : one + share * (other - one) = (1 - share) * one + share * other := by ring
  rw [mixed]
  constructor
  · calc low = (1 - share) * low + share * low := by ring
      _ ≤ (1 - share) * one + share * other :=
          add_le_add (mul_le_mul_of_nonneg_left inside.1 rest)
            (mul_le_mul_of_nonneg_left within.1 least)
  · calc (1 - share) * one + share * other
        ≤ (1 - share) * high + share * high :=
          add_le_add (mul_le_mul_of_nonneg_left inside.2 rest)
            (mul_le_mul_of_nonneg_left within.2 least)
      _ = high := by ring

theorem Passes.contains (passes : Passes start first stop second point)
    (here : viewport.Contains start) (there : viewport.Contains stop) :
    viewport.Contains point := by
  cases passes with
  | start => exact here
  | stop => exact there
  | between vanishes =>
      have across := share_within ⟨here.left, here.right⟩ ⟨there.left, there.right⟩ vanishes.least
        vanishes.most
      have along := share_within ⟨here.bottom, here.top⟩ ⟨there.bottom, there.top⟩ vanishes.least
        vanishes.most
      exact ⟨across.1, across.2, along.1, along.2⟩

end Edges

/-! Cells -/

namespace Cell

variable (cell : Cell Rat) (field : Rat → Rat → Option Rat)

theorem stop_eq_start (edge : Edge) : ∃ next, cell.stop edge = cell.start next := by
  cases edge with
  | bottom => exact ⟨.right, rfl⟩
  | right => exact ⟨.top, rfl⟩
  | top => exact ⟨.left, rfl⟩
  | left => exact ⟨.bottom, rfl⟩

/-- Two crossings that are listed one behind the other belong to different edges. -/
theorem crossed_pairwise : cell.crossed.Pairwise fun first second =>
    ∃ one other, one ≠ other ∧ cell.crossing one = some first ∧
      cell.crossing other = some second := by
  have listed : cell.crossed = [Edge.bottom, .right, .top, .left].filterMap cell.crossing := rfl
  have distinct : [Edge.bottom, .right, .top, .left].Pairwise (· ≠ ·) := by simp
  rw [listed]
  refine List.pairwise_filterMap.mpr (distinct.imp ?_)
  intro one other apart first crossed second crossedToo
  exact ⟨one, other, apart, crossed, crossedToo⟩

/-- Two crossings are joined by one segment, and four by two segments that each take an earlier
crossing first. -/
theorem join_cases (center : Option Rat) (crossed : List (Point Rat)) :
    join center crossed = [] ∨
      (∃ p0 p1, crossed = [p0, p1] ∧ join center crossed = [⟨p0, p1⟩]) ∨
      ∃ p0 p1 p2 p3, crossed = [p0, p1, p2, p3] ∧
        (join center crossed = [⟨p0, p3⟩, ⟨p1, p2⟩] ∨
          join center crossed = [⟨p0, p1⟩, ⟨p2, p3⟩]) := by
  unfold join
  split
  · next p0 p1 => exact .inr (.inl ⟨p0, p1, rfl, rfl⟩)
  · next p0 p1 p2 p3 =>
      unfold saddle
      split
      · exact .inl rfl
      · split
        · exact .inl rfl
        · split
          · exact .inr (.inr ⟨p0, p1, p2, p3, rfl, .inl rfl⟩)
          · exact .inr (.inr ⟨p0, p1, p2, p3, rfl, .inr rfl⟩)
  · exact .inl rfl

theorem segments_length : (cell.segments field).length ≤ 2 := by
  rw [segments_eq]
  rcases join_cases (cell.center field) cell.crossed with
    none | ⟨_, _, _, one⟩ | ⟨_, _, _, _, _, two | two⟩
  · simp [none]
  · simp [one]
  · simp [two]
  · simp [two]

theorem segment_sublist {segment : Segment Rat} (drawn : segment ∈ cell.segments field) :
    [segment.first, segment.second].Sublist cell.crossed := by
  rw [segments_eq] at drawn
  rcases join_cases (cell.center field) cell.crossed with
    none | ⟨p0, p1, crossed, one⟩ | ⟨p0, p1, p2, p3, crossed, two | two⟩
  · rw [none] at drawn
    contradiction
  · rw [one, List.mem_singleton] at drawn
    rw [drawn, crossed]
  · rw [two, List.mem_pair] at drawn
    rw [crossed]
    rcases drawn with rfl | rfl
    · exact .cons_cons p0 (.cons p1 (.cons p2 (.refl [p3])))
    · exact .cons p0 (.cons_cons p1 (.cons_cons p2 (List.nil_sublist [p3])))
  · rw [two, List.mem_pair] at drawn
    rw [crossed]
    rcases drawn with rfl | rfl
    · exact .cons_cons p0 (.cons_cons p1 (List.nil_sublist [p2, p3]))
    · exact .cons p0 (.cons p1 (.refl [p2, p3]))

variable {cell field}

theorem segment_edges {segment : Segment Rat} (drawn : segment ∈ cell.segments field) :
    ∃ one other, one ≠ other ∧ cell.crossing one = some segment.first ∧
      cell.crossing other = some segment.second :=
  List.pairwise_pair.mp (cell.crossed_pairwise.sublist (cell.segment_sublist field drawn))

end Cell

/-! Cells of a grid -/

section Field

variable (field : Rat → Rat → Option Rat) (greatest : Rat) (placed : Grid Rat)
  {viewport : Viewport Rat} {count row column : Nat}

/-- The edges of a cell run between vertices of the grid, with the values that were sampled at
them. -/
theorem start_is_vertex (row column : Nat) (edge : Edge) :
    ∃ up across, up ≤ row + 1 ∧ across ≤ column + 1 ∧
      (cell field greatest placed row column).start edge =
        (⟨placed.x across, placed.y up⟩,
          sample field greatest (placed.x across) (placed.y up)) := by
  cases edge with
  | bottom => exact ⟨row, column, by omega, by omega, rfl⟩
  | right =>
      refine ⟨row, column + 1, by omega, by omega, ?_⟩
      rw [Cell.start, cell, ← Grid.x_succ]
  | top =>
      refine ⟨row + 1, column + 1, by omega, by omega, ?_⟩
      rw [Cell.start, cell, ← Grid.x_succ, ← Grid.y_succ]
  | left =>
      refine ⟨row + 1, column, by omega, by omega, ?_⟩
      rw [Cell.start, cell, ← Grid.y_succ]

theorem start_value (row column : Nat) (edge : Edge) :
    ((cell field greatest placed row column).start edge).2 =
      sample field greatest ((cell field greatest placed row column).start edge).1.x
        ((cell field greatest placed row column).start edge).1.y := by
  obtain ⟨_, _, _, _, vertex⟩ := start_is_vertex field greatest placed row column edge
  rw [vertex]

/-- A segment joins two edges of its cell that the contour passes, and it stays in view. -/
structure Joins (viewport : Viewport Rat) (cell : Cell Rat) (segment : Segment Rat) : Prop where
  edges : ∃ one other, one ≠ other ∧
    PassesEdge field greatest (cell.start one).1 (cell.stop one).1 segment.first ∧
    PassesEdge field greatest (cell.start other).1 (cell.stop other).1 segment.second
  first : viewport.Contains segment.first
  second : viewport.Contains segment.second

variable {placed}

theorem passes_of_cell_crossing {edge : Edge} {point : Point Rat}
    (crossed : (cell field greatest placed row column).crossing edge = some point) :
    PassesEdge field greatest ((cell field greatest placed row column).start edge).1
      ((cell field greatest placed row column).stop edge).1 point := by
  obtain ⟨next, stop⟩ := (cell field greatest placed row column).stop_eq_start edge
  rw [Cell.crossing, stop, start_value, start_value] at crossed
  unfold edgeCrossing at crossed
  split at crossed
  · next first second here there =>
      rw [← stop] at there crossed
      exact ⟨first, second, here, there, passes_of_crossing crossed⟩
  · contradiction

/-- Every vertex of the grid is in view. -/
theorem start_contains (width : viewport.x.lo < viewport.x.hi)
    (height : viewport.y.lo < viewport.y.hi) (gridded : grid viewport count = .ok placed)
    (inside : row < count) (within : column < count) (edge : Edge) :
    viewport.Contains ((cell field greatest placed row column).start edge).1 := by
  obtain ⟨up, across, low, left, vertex⟩ := start_is_vertex field greatest placed row column edge
  rw [vertex]
  rw [grid_eq viewport (show 0 < count by omega)] at gridded
  injection gridded with same
  subst same
  have some : 0 < count := by omega
  have horizontal := steps_within width.le (show across ≤ count by omega) some
  have vertical := steps_within height.le (show up ≤ count by omega) some
  simp only [← of_nat_rat] at horizontal vertical
  exact ⟨horizontal.1, horizontal.2, vertical.1, vertical.2⟩

theorem joins_of_segment (width : viewport.x.lo < viewport.x.hi)
    (height : viewport.y.lo < viewport.y.hi) (gridded : grid viewport count = .ok placed)
    (inside : row < count) (within : column < count) {segment : Segment Rat}
    (drawn : segment ∈ (cell field greatest placed row column).segments field) :
    Joins field greatest viewport (cell field greatest placed row column) segment := by
  obtain ⟨one, other, apart, first, second⟩ := Cell.segment_edges drawn
  have contained : ∀ {edge point},
      (cell field greatest placed row column).crossing edge = some point →
        viewport.Contains point := by
    intro edge point crossed
    obtain ⟨next, stop⟩ := (cell field greatest placed row column).stop_eq_start edge
    obtain ⟨_, _, _, _, passes⟩ := passes_of_cell_crossing field greatest crossed
    have here := start_contains field greatest width height gridded inside within edge
    have there := start_contains field greatest width height gridded inside within next
    exact passes.contains here (stop ▸ there)
  exact ⟨⟨one, other, apart, passes_of_cell_crossing field greatest first,
    passes_of_cell_crossing field greatest second⟩, contained first, contained second⟩

end Field

/-- A contour is drawn cell by cell, with two segments in a cell at most. A segment joins two edges
of its cell that the contour passes, in view, and cells that share an edge share its crossing, since
a crossing does not depend on the end that it is found from. -/
theorem segments_join_passed_edges (field : Rat → Rat → Option Rat) {viewport : Viewport Rat}
    (width : viewport.x.lo < viewport.x.hi) (height : viewport.y.lo < viewport.y.hi)
    (greatest : Rat) {samples : Float} (finite : samples.isFinite = true) :
    (∃ count placed, resolution samples = .ok count ∧ grid viewport count = .ok placed ∧
      segments field viewport count greatest =
        .ok ((cells field greatest placed count).flatMap (Cell.segments field)) ∧
      ∀ row < count, ∀ column < count,
        ((cell field greatest placed row column).segments field).length ≤ 2 ∧
        (∀ segment ∈ (cell field greatest placed row column).segments field,
          Joins field greatest viewport (cell field greatest placed row column) segment) ∧
        ∀ edge otherRow otherColumn,
          edge.across count row column = some (otherRow, otherColumn) →
            (cell field greatest placed otherRow otherColumn).crossing edge.opposite =
              (cell field greatest placed row column).crossing edge) ∧
    ∀ (start stop : Point Rat) (first second : Option Rat),
      edgeCrossing stop second start first = edgeCrossing start first stop second := by
  refine ⟨?_, edge_crossing_comm⟩
  obtain ⟨count, counted, least, _⟩ := resolution_of_finite finite
  obtain ⟨placed, gridded⟩ := grid_of_resolution viewport (show 0 < count by omega)
  refine ⟨count, placed, counted, gridded, by rw [segments_eq, gridded]; rfl, ?_⟩
  intro row inside column within
  refine ⟨Cell.segments_length _ _, ?_, ?_⟩
  · intro segment drawn
    exact joins_of_segment field greatest width height gridded inside within drawn
  · intro edge otherRow otherColumn across
    exact (crossing_across field greatest placed inside within across).2.2

/-! A line across the corner of a cell -/

def cornerLine (x y : Rat) : Option Rat := some (x + y - 1 / 2)

theorem corner_line_joins_passed_edges :
    square.x.lo < square.x.hi ∧ square.y.lo < square.y.hi ∧ (1.0 : Float).isFinite = true ∧
      resolution 1.0 = .ok 30 ∧ grid square 30 = .ok unitGrid ∧
      ((cell cornerLine 1e8 unitGrid 0 0).segments cornerLine).map
          (fun segment => (segment.first.x, segment.first.y, segment.second.x, segment.second.y)) =
        [(1 / 2, 0, 0, 1 / 2)] ∧
      segments cornerLine square 30 1e8 =
        .ok ((cells cornerLine 1e8 unitGrid 30).flatMap (Cell.segments cornerLine)) ∧
      ∀ row < 30, ∀ column < 30,
        ∀ segment ∈ (cell cornerLine 1e8 unitGrid row column).segments cornerLine,
          Joins cornerLine 1e8 square (cell cornerLine 1e8 unitGrid row column) segment := by
  have width : square.x.lo < square.x.hi := by decide
  have height : square.y.lo < square.y.hi := by decide
  have finite : (1.0 : Float).isFinite = true := by decide
  have thirty : resolution 1.0 = .ok 30 := by decide +kernel
  obtain ⟨⟨count, placed, counted, gridded, drawn, sound⟩, _⟩ :=
    segments_join_passed_edges cornerLine width height 1e8 finite
  rw [thirty] at counted
  cases counted
  rw [square_grid] at gridded
  cases gridded
  refine ⟨width, height, finite, thirty, square_grid, by decide +kernel, drawn, ?_⟩
  intro row inside column within
  exact (sound row inside column within).2.1

end Contour

end FormulaPlot
