import FormulaPlot.Proofs.Numeric.Negation
import FormulaPlot.Proofs.Plane.Cells
import FormulaPlot.Proofs.Plane.Resolution

/-!
Contours of opposite fields. Sampling and crossings are the same for a field and its opposite; only
the way the four crossings of a saddle are joined is exchanged.
-/

namespace FormulaPlot.Contour

open FormulaPlot.Scalar FormulaPlot.Binary64

set_option autoImplicit false

/-- The field with the opposite values, undefined at the same places. -/
def opposite (field : Float → Float → Option Float) (x y : Float) : Option Float :=
  (field x y).map Neg.neg

/-! Samples and crossings -/

theorem near_zero_neg (value : Float) : isNearZero (-value) = isNearZero value := by
  show decide ((-value).abs < zeroTolerance) = decide (value.abs < zeroTolerance)
  rw [abs_neg]

theorem same_sign_neg (first second : Float) :
    sameSign (-first) (-second) = sameSign first second := by
  unfold sameSign
  have above (value : Float) : decide (zero < -value) = decide (value < zero) :=
    decide_eq_decide.mpr (positive_neg_iff value)
  have below (value : Float) : decide (-value < zero) = decide (zero < value) :=
    decide_eq_decide.mpr (negative_neg_iff value)
  rw [above, above, below, below, Bool.or_comm]

/-- What a crossing depends on. -/
theorem crossing_congr {α : Type} [Scalar α] (start stop : Point α) {first second one other : α}
    (here : Scalar.isFinite one = Scalar.isFinite first)
    (there : Scalar.isFinite other = Scalar.isFinite second)
    (near : isNearZero one = isNearZero first) (close : isNearZero other = isNearZero second)
    (sign : sameSign one other = sameSign first second)
    (share : one / (one - other) = first / (first - second) ∨
      Scalar.isFinite (one / (one - other)) = false ∧
        Scalar.isFinite (first / (first - second)) = false) :
    crossing start one stop other = crossing start first stop second := by
  unfold crossing
  dsimp only
  rw [here, there, near, close, sign]
  rcases share with same | ⟨nowhere, neither⟩
  · rw [same]
  · rw [nowhere, neither]
    rfl

theorem finite_float (value : Float) : Scalar.isFinite value = value.isFinite := rfl

theorem finite_neg_float (value : Float) : Scalar.isFinite (-value) = Scalar.isFinite value := by
  rw [finite_float, finite_float, finite_neg]

theorem crossing_neg (start stop : Point Float) (first second : Float) :
    crossing start (-first) stop (-second) = crossing start first stop second := by
  apply crossing_congr start stop (finite_neg_float first) (finite_neg_float second)
    (near_zero_neg first) (near_zero_neg second) (same_sign_neg first second)
  rcases share_neg first second with same | ⟨turned, straight⟩
  · exact .inl same
  · exact .inr ⟨(finite_float _).trans turned, (finite_float _).trans straight⟩

theorem edge_crossing_neg (start stop : Point Float) (first second : Option Float) :
    edgeCrossing start (first.map Neg.neg) stop (second.map Neg.neg) =
      edgeCrossing start first stop second := by
  cases first with
  | none => cases second <;> rfl
  | some value =>
      cases second with
      | none => rfl
      | some other => exact crossing_neg start stop value other

theorem sample_opposite (field : Float → Float → Option Float) (greatest x y : Float) :
    sample (opposite field) greatest x y = (sample field greatest x y).map Neg.neg := by
  unfold sample opposite
  cases field x y with
  | none => rfl
  | some value =>
      have size : Scalar.abs (-value) = Scalar.abs value := abs_neg value
      simp only [Option.map_some, finite_neg_float, size]
      split <;> rfl

namespace Cell

/-- The cell with the opposite values at its corners. -/
def opposite (cell : Cell Float) : Cell Float :=
  { cell with
    lowerLeft := cell.lowerLeft.map Neg.neg
    lowerRight := cell.lowerRight.map Neg.neg
    upperRight := cell.upperRight.map Neg.neg
    upperLeft := cell.upperLeft.map Neg.neg }

theorem crossed_opposite (cell : Cell Float) : cell.opposite.crossed = cell.crossed := by
  simp only [crossed, crossings, opposite, edge_crossing_neg]

theorem center_opposite (cell : Cell Float) (field : Float → Float → Option Float) :
    cell.opposite.center (Contour.opposite field) = (cell.center field).map Neg.neg :=
  rfl

end Cell

theorem cell_opposite (field : Float → Float → Option Float) (greatest : Float) (grid : Grid Float)
    (row column : Nat) :
    cell (opposite field) greatest grid row column =
      (cell field greatest grid row column).opposite := by
  simp only [cell, Cell.opposite, sample_opposite]

/-! Saddles -/

namespace Cell

variable {cell : Cell Float} {field : Float → Float → Option Float}

/-- All four edges are crossed, and the value at the centre is a finite number other than zero. -/
def Saddle (cell : Cell Float) (field : Float → Float → Option Float) : Prop :=
  cell.crossed.length = 4 ∧
    ∃ value, cell.center field = some value ∧ value.isFinite = true ∧
      (0.0 < value ∨ value < 0.0)

/-- The two ways of joining four crossings are exchanged for the opposite field. -/
def Exchanged (cell : Cell Float) (field : Float → Float → Option Float) : Prop :=
  ∃ p0 p1 p2 p3 value, cell.crossed = [p0, p1, p2, p3] ∧ cell.center field = some value ∧
    (0.0 < value ∧ cell.segments field = [⟨p0, p3⟩, ⟨p1, p2⟩] ∧
        cell.opposite.segments (Contour.opposite field) = [⟨p0, p1⟩, ⟨p2, p3⟩] ∨
      value < 0.0 ∧ cell.segments field = [⟨p0, p1⟩, ⟨p2, p3⟩] ∧
        cell.opposite.segments (Contour.opposite field) = [⟨p0, p3⟩, ⟨p1, p2⟩])

theorem segments_opposite (cell : Cell Float) (field : Float → Float → Option Float) :
    cell.opposite.segments (Contour.opposite field) =
      join ((cell.center field).map Neg.neg) cell.crossed := by
  rw [segments_eq, crossed_opposite, center_opposite]

theorem saddle_positive {value : Float} (finite : value.isFinite = true) (above : 0.0 < value)
    (p0 p1 p2 p3 : Point Float) : saddle (some value) p0 p1 p2 p3 = [⟨p0, p3⟩, ⟨p1, p2⟩] := by
  have known : (!Scalar.isFinite value) = false := by rw [finite_float, finite, Bool.not_true]
  have high : zero < value := above
  simp only [saddle, known, Bool.false_eq_true, if_false, if_pos high]

theorem saddle_other {value : Float} (finite : value.isFinite = true) (low : ¬0.0 < value)
    (p0 p1 p2 p3 : Point Float) : saddle (some value) p0 p1 p2 p3 = [⟨p0, p1⟩, ⟨p2, p3⟩] := by
  have known : (!Scalar.isFinite value) = false := by rw [finite_float, finite, Bool.not_true]
  have notHigh : ¬zero < value := low
  simp only [saddle, known, Bool.false_eq_true, if_false, if_neg notHigh]

theorem saddle_infinite {value : Float} (infinite : value.isFinite = false)
    (p0 p1 p2 p3 : Point Float) : saddle (some value) p0 p1 p2 p3 = [] := by
  have unknown : (!Scalar.isFinite value) = true := by rw [finite_float, infinite, Bool.not_false]
  simp only [saddle, unknown, if_true]

theorem segments_opposite_plain (plain : ¬cell.Saddle field) :
    cell.opposite.segments (Contour.opposite field) = cell.segments field := by
  rw [segments_opposite, segments_eq]
  match crossed : cell.crossed, center : cell.center field with
  | [], _ => rfl
  | [_], _ => rfl
  | [_, _], _ => rfl
  | [_, _, _], _ => rfl
  | [p0, p1, p2, p3], none => rfl
  | [p0, p1, p2, p3], some value =>
      have four : cell.crossed.length = 4 := by rw [crossed]; rfl
      cases finite : value.isFinite with
      | false =>
          have turned : (-value).isFinite = false := (finite_neg value).trans finite
          exact (saddle_infinite turned p0 p1 p2 p3).trans (saddle_infinite finite p0 p1 p2 p3).symm
      | true =>
          have turned : (-value).isFinite = true := (finite_neg value).trans finite
          have notAbove : ¬0.0 < value := fun above =>
            plain ⟨four, value, center, finite, .inl above⟩
          have notBelow : ¬0.0 < -value := fun above =>
            plain ⟨four, value, center, finite, .inr ((positive_neg_iff value).mp above)⟩
          exact (saddle_other turned notBelow p0 p1 p2 p3).trans
            (saddle_other finite notAbove p0 p1 p2 p3).symm
  | _ :: _ :: _ :: _ :: _ :: _, _ => rfl

theorem exchanged_of_saddle (met : cell.Saddle field) : cell.Exchanged field := by
  rcases met with ⟨four, value, center, finite, sign⟩
  have turned : (-value).isFinite = true := (finite_neg value).trans finite
  match crossed : cell.crossed, four with
  | [p0, p1, p2, p3], _ =>
      refine ⟨p0, p1, p2, p3, value, crossed, center, ?_⟩
      rw [segments_opposite, segments_eq, crossed, center]
      rcases sign with above | below
      · have notBelow : ¬0.0 < -value := fun below =>
          not_negative_of_positive above ((positive_neg_iff value).mp below)
        exact .inl ⟨above, saddle_positive finite above p0 p1 p2 p3,
          saddle_other turned notBelow p0 p1 p2 p3⟩
      · have notAbove : ¬0.0 < value := fun above => not_negative_of_positive above below
        have positive : 0.0 < -value := (positive_neg_iff value).mpr below
        exact .inr ⟨below, saddle_other finite notAbove p0 p1 p2 p3,
          saddle_positive turned positive p0 p1 p2 p3⟩

end Cell

/-! Contours -/

theorem whole_nonzero :
    ∀ count < 181, 30 ≤ count → Scalar.isZero (ofNat count : Float) = false := by
  decide +kernel

theorem grid_of_count (viewport : Viewport Float) {count : Nat} (least : 30 ≤ count)
    (greatest : count ≤ 180) : ∃ placed, grid viewport count = .ok placed := by
  have nonzero := whole_nonzero count (by omega) least
  exact ⟨_, by simp only [grid, divide, nonzero, Bool.false_eq_true, if_false]; rfl⟩

theorem cells_opposite (field : Float → Float → Option Float) (greatest : Float)
    (grid : Grid Float) (count : Nat) :
    cells (opposite field) greatest grid count =
      (cells field greatest grid count).map Cell.opposite := by
  simp only [cells, cell_opposite, List.map_flatMap, List.map_map, Function.comp_def]

/-- The contours of a field and of its opposite are drawn alike cell by cell, but for the saddles
with a value other than zero at the centre, whose crossings are joined the other way. -/
theorem opposite_contour (field : Float → Float → Option Float) (viewport : Viewport Float)
    (greatest : Float) {samples : Float} (finite : samples.isFinite = true) :
    ∃ count placed, resolution samples = .ok count ∧ grid viewport count = .ok placed ∧
      segments field viewport count greatest =
        .ok ((cells field greatest placed count).flatMap (Cell.segments field)) ∧
      segments (opposite field) viewport count greatest =
        .ok ((cells field greatest placed count).flatMap fun cell =>
          cell.opposite.segments (opposite field)) ∧
      ∀ cell ∈ cells field greatest placed count,
        (¬cell.Saddle field →
          cell.opposite.segments (opposite field) = cell.segments field) ∧
        (cell.Saddle field → cell.Exchanged field) := by
  have ⟨count, counted, least, most⟩ := resolution_of_finite finite
  have ⟨placed, gridded⟩ := grid_of_count viewport least most
  refine ⟨count, placed, counted, gridded, ?_, ?_, ?_⟩
  · rw [segments_eq, gridded]
    rfl
  · rw [segments_eq, gridded]
    apply congrArg Except.ok
    dsimp only
    rw [cells_opposite, List.flatMap_map]
  · intro cell _
    exact ⟨Cell.segments_opposite_plain, Cell.exchanged_of_saddle⟩

/-! A hyperbola -/

section Hyperbola

/-- A hyperbola about the centre of the first cell, with values within the limit there only. -/
def hyperbola (x y : Float) : Option Float := some (3e8 * ((x - 0.5) * (y - 0.5) + 0.01))

def quadrant : Viewport Float := ⟨⟨0.0, 30.0⟩, ⟨0.0, 30.0⟩⟩

def quadrantGrid : Grid Float :=
  ⟨0.0, 0.0, (30.0 - 0.0) / ofNat 30, (30.0 - 0.0) / ofNat 30⟩

theorem quadrant_grid : grid quadrant 30 = .ok quadrantGrid := by
  have nonzero := whole_nonzero 30 (by decide) (by decide)
  simp only [grid, divide, nonzero, Bool.false_eq_true, if_false]
  rfl

theorem first_cell_saddle : (cell hyperbola 1e8 quadrantGrid 0 0).Saddle hyperbola := by
  have four : (cell hyperbola 1e8 quadrantGrid 0 0).crossed.length = 4 := by decide +kernel
  exact ⟨four, _, rfl, by decide +kernel, .inl (by decide +kernel)⟩

theorem first_cell_mem (field : Float → Float → Option Float) (greatest : Float)
    (grid : Grid Float) {count : Nat} (some : 0 < count) :
    cell field greatest grid 0 0 ∈ cells field greatest grid count := by
  have first : 0 ∈ List.range count := List.mem_range.mpr some
  exact List.mem_flatMap.mpr ⟨0, first, List.mem_map.mpr ⟨0, first, rfl⟩⟩

theorem hyperbola_exchanged :
    (1.0 : Float).isFinite = true ∧ (cell hyperbola 1e8 quadrantGrid 0 0).Saddle hyperbola ∧
      (cell hyperbola 1e8 quadrantGrid 0 0).Exchanged hyperbola := by
  have finite : (1.0 : Float).isFinite = true := by decide
  have ⟨count, placed, counted, gridded, _, _, alike⟩ :=
    opposite_contour hyperbola quadrant 1e8 finite
  have thirty : resolution 1.0 = .ok 30 := by decide +kernel
  rw [thirty] at counted
  cases counted
  rw [quadrant_grid] at gridded
  cases gridded
  have first := alike _ (first_cell_mem hyperbola 1e8 quadrantGrid (by decide))
  exact ⟨finite, first_cell_saddle, first.2 first_cell_saddle⟩

/-- What is drawn first in the first cell is drawn first. -/
theorem first_drawn {field : Float → Float → Option Float} {greatest : Float} {grid : Grid Float}
    (count : Nat) {shape : Segment Float → Bool} {flag : Bool}
    (drawn : ((cell field greatest grid 0 0).segments field).head?.map shape = some flag) :
    ((cells field greatest grid (count + 1)).flatMap (Cell.segments field)).head?.map shape =
      some flag := by
  simp only [cells, List.range_succ_eq_map, List.flatMap_cons, List.map_cons, List.cons_append,
    List.head?_append]
  cases head : ((cell field greatest grid 0 0).segments field).head? with
  | none =>
      rw [head] at drawn
      contradiction
  | some segment =>
      rw [head] at drawn
      exact drawn

/-- A segment that ends in the left half of the first column. -/
def upward (segment : Segment Float) : Bool := decide (segment.second.x < 0.5)

/-- The first segment for the hyperbola goes up, the first one for its opposite goes across. -/
theorem opposite_contour_differs :
    resolution 100.0 = .ok 30 ∧
      segments (opposite hyperbola) quadrant 30 1e8 ≠ segments hyperbola quadrant 30 1e8 := by
  refine ⟨by decide +kernel, ?_⟩
  intro same
  have straight : ((cell hyperbola 1e8 quadrantGrid 0 0).segments hyperbola).head?.map upward =
      some true := by decide +kernel
  have turned : ((cell (opposite hyperbola) 1e8 quadrantGrid 0 0).segments
      (opposite hyperbola)).head?.map upward = some false := by decide +kernel
  rw [segments_eq, segments_eq, quadrant_grid] at same
  simp only [Except.map, Except.ok.injEq] at same
  have first := first_drawn 29 turned
  rw [same, first_drawn 29 straight] at first
  exact absurd first (by decide)

end Hyperbola

end FormulaPlot.Contour
