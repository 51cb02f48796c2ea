import FormulaPlot.Proofs.Numeric.Counts
import FormulaPlot.Proofs.Space.Meshes
import Mathlib.Data.Sym.Sym2

/-!
Faces and wireframe of a mesh. Both depend only on the places of the grid that have a vertex: a face
stands over a cell with four vertices, and an edge joins two neighbours that are vertices. So the
sides of a face are edges, and an edge is a side of two faces at most.
-/

namespace FormulaPlot.SurfaceMesh

open FormulaPlot.Scalar

set_option autoImplicit false

/-! Places of the grid -/

@[ext] structure Place where
  row : Nat
  column : Nat
  deriving DecidableEq

namespace Place

def right (place : Place) : Place := ⟨place.row, place.column + 1⟩

def above (place : Place) : Place := ⟨place.row + 1, place.column⟩

def turned (place : Place) : Place := ⟨place.column, place.row⟩

/-- Row by row, and along each row. -/
def Before (one other : Place) : Prop :=
  one.row < other.row ∨ one.row = other.row ∧ one.column < other.column

/-- Places next to each other in a row or in a column. -/
def Adjacent (one other : Place) : Prop :=
  one.right = other ∨ other.right = one ∨ one.above = other ∨ other.above = one

/-- The corners of a cell, which is named by its lowest place, in the order in which they are
joined. -/
def corners (cell : Place) : Quad Place := ⟨cell, cell.right, cell.above.right, cell.above⟩

def sides (cell : Place) : List (Sym2 Place) :=
  [s(cell, cell.right), s(cell.right, cell.above.right), s(cell.above.right, cell.above),
    s(cell.above, cell)]

/-- The places in some rows and columns, row by row. -/
def grid (rows columns : Nat) : List Place :=
  (List.range rows).flatMap fun row => (List.range columns).map fun column => ⟨row, column⟩

variable {rows columns : Nat} {one other place cell : Place}

theorem mem_grid_iff : place ∈ grid rows columns ↔ place.row < rows ∧ place.column < columns := by
  simp only [grid, List.mem_flatMap, List.mem_map, List.mem_range]
  constructor
  · rintro ⟨row, inRow, column, inColumn, rfl⟩
    exact ⟨inRow, inColumn⟩
  · rintro ⟨inRow, inColumn⟩
    exact ⟨place.row, inRow, place.column, inColumn, rfl⟩

theorem grid_ordered (rows columns : Nat) : (grid rows columns).Pairwise Before := by
  refine List.pairwise_flatMap.mpr ⟨?_, ?_⟩
  · intro row _
    exact List.pairwise_map.mpr (List.pairwise_lt_range.imp fun less => .inr ⟨rfl, less⟩)
  · refine List.pairwise_lt_range.imp ?_
    intro low high less here inLow there inHigh
    obtain ⟨_, _, rfl⟩ := List.mem_map.mp inLow
    obtain ⟨_, _, rfl⟩ := List.mem_map.mp inHigh
    exact .inl less

theorem nodup_of_ordered {places : List Place} (ordered : places.Pairwise Before) :
    places.Nodup := by
  refine ordered.imp ?_
  rintro one _ before rfl
  simp [Before] at before

theorem turned_injective : Function.Injective turned := by
  intro one other same
  simp only [turned, mk.injEq] at same
  exact Place.ext same.2 same.1

/-! Pairs of neighbours are told apart by the lower one of the two -/

theorem along_row_injective : Function.Injective fun place : Place => s(place, place.right) := by
  intro one other same
  simp only [Sym2.eq_iff, right, Place.ext_iff] at same
  exact Place.ext (by omega) (by omega)

theorem along_column_injective :
    Function.Injective fun place : Place => s(place, place.above) := by
  intro one other same
  simp only [Sym2.eq_iff, above, Place.ext_iff] at same
  exact Place.ext (by omega) (by omega)

theorem row_ne_column : s(one, one.right) ≠ s(other, other.above) := by
  intro same
  simp only [Sym2.eq_iff, right, above, Place.ext_iff] at same
  omega

/-- A side along a row belongs to the cell above it and to the one below. -/
theorem cell_of_row_side (side : s(place, place.right) ∈ cell.sides) :
    cell = place ∨ cell = ⟨place.row - 1, place.column⟩ := by
  simp only [sides, List.mem_cons, List.not_mem_nil, or_false, Sym2.eq_iff, right, above,
    Place.ext_iff] at side ⊢
  omega

theorem cell_of_column_side (side : s(place, place.above) ∈ cell.sides) :
    cell = place ∨ cell = ⟨place.row, place.column - 1⟩ := by
  simp only [sides, List.mem_cons, List.not_mem_nil, or_false, Sym2.eq_iff, right, above,
    Place.ext_iff] at side ⊢
  omega

theorem adjacent_iff : one.Adjacent other ↔
    ∃ place, s(place, place.right) = s(one, other) ∨ s(place, place.above) = s(one, other) := by
  constructor
  · rintro (rfl | rfl | rfl | rfl)
    · exact ⟨one, .inl rfl⟩
    · exact ⟨other, .inl Sym2.eq_swap⟩
    · exact ⟨one, .inr rfl⟩
    · exact ⟨other, .inr Sym2.eq_swap⟩
  · rintro ⟨place, same | same⟩
    · rcases Sym2.eq_iff.mp same with ⟨rfl, rfl⟩ | ⟨rfl, rfl⟩
      · exact .inl rfl
      · exact .inr (.inl rfl)
    · rcases Sym2.eq_iff.mp same with ⟨rfl, rfl⟩ | ⟨rfl, rfl⟩
      · exact .inr (.inr (.inl rfl))
      · exact .inr (.inr (.inr rfl))

theorem count_le_two {places : List Place} (distinct : places.Nodup) {test : Place → Bool}
    (only : ∀ place, test place = true → place = one ∨ place = other) : places.countP test ≤ 2 := by
  rw [List.countP_eq_length_filter]
  have subset : places.filter test ⊆ [one, other] := by
    intro place found
    simpa using only place (List.mem_filter.mp found).2
  exact ((distinct.filter test).subperm subset).length_le

end Place

/-! What is drawn of a mesh -/

section Drawn

variable {α : Type} (mesh : SurfaceMesh α)

def vertexAt (place : Place) : Option (Point3D α) := mesh.vertex? place.row place.column

def HasVertex (place : Place) : Prop := ∃ vertex, mesh.vertexAt place = some vertex

/-- The faces stand over these cells, row by row: they are the cells with four vertices, and the
corners of each face are those of its cell, in their order. -/
structure Paved (cells : List Place) : Prop where
  rowByRow : cells.Pairwise Place.Before
  complete : ∀ cell, cell ∈ cells ↔ ∀ corner ∈ cell.corners.toList, mesh.HasVertex corner
  faces : List.Forall₂
    (fun cell face => cell.corners.toList.map mesh.vertexAt = face.toList.map some) cells mesh.faces

/-- The edges join these pairs of places: they are the pairs of neighbours that are vertices, each
once. -/
structure Wired (sides : List (Sym2 Place)) : Prop where
  once : sides.Nodup
  complete : ∀ one other, s(one, other) ∈ sides ↔
    one.Adjacent other ∧ mesh.HasVertex one ∧ mesh.HasVertex other
  edges : List.Forall₂
    (fun side edge => ∃ one other, side = s(one, other) ∧ mesh.vertexAt one = some edge.first ∧
      mesh.vertexAt other = some edge.second) sides mesh.edges

variable {mesh} {one other : Place} {cells : List Place} {sides : List (Sym2 Place)}

theorem face_eq_some_iff {row column : Nat} {face : Quad (Point3D α)} :
    mesh.face? row column = some face ↔
      (Place.corners ⟨row, column⟩).toList.map mesh.vertexAt = face.toList.map some := by
  simp only [Place.corners, Place.right, Place.above, Quad.toList, List.map_cons, List.map_nil,
    List.cons.injEq, and_true, vertexAt]
  unfold face?
  constructor
  · intro here
    split at here
    · next first second third fourth =>
        injection here with same
        subst same
        exact ⟨first, second, third, fourth⟩
    · contradiction
  · rintro ⟨first, second, third, fourth⟩
    rw [first, second, third, fourth]

theorem edge_eq_some_iff {first second : Option (Point3D α)} {edge : Edge (Point3D α)} :
    edge? first second = some edge ↔ first = some edge.first ∧ second = some edge.second := by
  unfold edge?
  constructor
  · intro here
    split at here
    · injection here with same
      subst same
      exact ⟨rfl, rfl⟩
    · contradiction
  · rintro ⟨rfl, rfl⟩
    rfl

/-- What is kept of a list, beside the elements it is kept of. -/
theorem kept_forall₂ {element result : Type} (keep : element → Option result)
    (list : List element) :
    List.Forall₂ (fun one kept => keep one = some kept)
      (list.filter fun one => (keep one).isSome) (list.filterMap keep) := by
  induction list with
  | nil => exact .nil
  | cons first rest ih =>
      cases found : keep first with
      | none => simpa [found] using ih
      | some kept => simpa [found] using ih

/-- Places that are vertices lie in the grid, if it has as many rows as columns. -/
theorem HasVertex.within {place : Place} (square : mesh.xs.size = mesh.ys.size)
    (vertex : mesh.HasVertex place) :
    place.row ≤ mesh.resolution ∧ place.column ≤ mesh.resolution := by
  obtain ⟨vertex, here⟩ := vertex
  unfold vertexAt vertex? at here
  split at here
  · next across along _ =>
      have inColumn := (Array.getElem?_eq_some_iff.mp across).1
      have inRow := (Array.getElem?_eq_some_iff.mp along).1
      rw [resolution]
      omega
  · contradiction

theorem faces_eq : mesh.faces = (Place.grid mesh.resolution mesh.resolution).filterMap
    fun cell => mesh.face? cell.row cell.column := by
  simp only [faces, Place.grid, List.filterMap_flatMap, List.filterMap_map, Function.comp_def]

theorem exists_paved (square : mesh.xs.size = mesh.ys.size) : ∃ cells, mesh.Paved cells := by
  refine ⟨(Place.grid mesh.resolution mesh.resolution).filter
    fun cell => (mesh.face? cell.row cell.column).isSome, ?_, ?_, ?_⟩
  · exact (Place.grid_ordered _ _).filter _
  · intro cell
    rw [List.mem_filter, Place.mem_grid_iff, Option.isSome_iff_exists]
    constructor
    · rintro ⟨_, face, found⟩ corner among
      have listed := List.mem_map_of_mem (f := mesh.vertexAt) among
      rw [face_eq_some_iff.mp found] at listed
      obtain ⟨vertex, _, here⟩ := List.mem_map.mp listed
      exact ⟨vertex, here.symm⟩
    · intro corners
      obtain ⟨first, one⟩ := corners cell (by simp [Place.corners, Quad.toList])
      obtain ⟨second, two⟩ := corners cell.right (by simp [Place.corners, Quad.toList])
      obtain ⟨third, three⟩ := corners cell.above.right (by simp [Place.corners, Quad.toList])
      obtain ⟨fourth, four⟩ := corners cell.above (by simp [Place.corners, Quad.toList])
      -- the corner opposite to the cell's own place has the greatest row and column
      have farthest := HasVertex.within square ⟨third, three⟩
      refine ⟨⟨farthest.1, farthest.2⟩, ⟨first, second, third, fourth⟩, ?_⟩
      rw [face_eq_some_iff]
      simp only [Place.corners, Quad.toList, List.map_cons, List.map_nil, one, two, three, four]
  · rw [faces_eq]
    refine (kept_forall₂ _ _).imp ?_
    intro cell face found
    exact face_eq_some_iff.mp found

/-! Pairs of neighbours, in the order in which edges are looked for -/

def rowPairs (resolution : Nat) : List (Place × Place) :=
  (Place.grid (resolution + 1) resolution).map fun place => (place, place.right)

def columnPairs (resolution : Nat) : List (Place × Place) :=
  (Place.grid (resolution + 1) resolution).map fun place => (place.turned, place.turned.above)

def neighbours (resolution : Nat) : List (Place × Place) :=
  rowPairs resolution ++ columnPairs resolution

theorem edges_eq : mesh.edges = (neighbours mesh.resolution).filterMap
    fun pair => edge? (mesh.vertexAt pair.1) (mesh.vertexAt pair.2) := by
  simp only [edges, rowEdges, columnEdges, neighbours, rowPairs, columnPairs, Place.grid,
    List.filterMap_append, List.filterMap_flatMap, List.filterMap_map, List.map_flatMap,
    Function.comp_def]
  rfl

theorem mem_neighbours_iff {resolution : Nat} {pair : Place × Place} :
    pair ∈ neighbours resolution ↔
      ∃ place, (place.row ≤ resolution ∧ place.column < resolution ∧ (place, place.right) = pair) ∨
        (place.row < resolution ∧ place.column ≤ resolution ∧ (place, place.above) = pair) := by
  simp only [neighbours, rowPairs, columnPairs, List.mem_append, List.mem_map, Place.mem_grid_iff]
  constructor
  · rintro (⟨place, within, same⟩ | ⟨place, within, same⟩)
    · exact ⟨place, .inl ⟨Nat.le_of_lt_succ within.1, within.2, same⟩⟩
    · exact ⟨place.turned, .inr ⟨within.2, Nat.le_of_lt_succ within.1, same⟩⟩
  · rintro ⟨place, ⟨inRow, inColumn, same⟩ | ⟨inRow, inColumn, same⟩⟩
    · exact .inl ⟨place, ⟨Nat.lt_succ_of_le inRow, inColumn⟩, same⟩
    · exact .inr ⟨place.turned, ⟨Nat.lt_succ_of_le inColumn, inRow⟩, same⟩

theorem neighbours_of_adjacent {resolution : Nat} (adjacent : one.Adjacent other)
    (inOne : one.row ≤ resolution ∧ one.column ≤ resolution)
    (inOther : other.row ≤ resolution ∧ other.column ≤ resolution) :
    (one, other) ∈ neighbours resolution ∨ (other, one) ∈ neighbours resolution := by
  rcases adjacent with rfl | rfl | rfl | rfl
  · exact .inl (mem_neighbours_iff.mpr ⟨one, .inl ⟨inOne.1, inOther.2, rfl⟩⟩)
  · exact .inr (mem_neighbours_iff.mpr ⟨other, .inl ⟨inOther.1, inOne.2, rfl⟩⟩)
  · exact .inl (mem_neighbours_iff.mpr ⟨one, .inr ⟨inOther.1, inOne.2, rfl⟩⟩)
  · exact .inr (mem_neighbours_iff.mpr ⟨other, .inr ⟨inOne.1, inOther.2, rfl⟩⟩)

theorem neighbours_nodup (resolution : Nat) :
    ((neighbours resolution).map fun pair => s(pair.1, pair.2)).Nodup := by
  have distinct := Place.nodup_of_ordered (Place.grid_ordered (resolution + 1) resolution)
  simp only [neighbours, rowPairs, columnPairs, List.map_append, List.map_map, Function.comp_def]
  refine List.nodup_append.mpr ⟨?_, ?_, ?_⟩
  · exact distinct.map Place.along_row_injective
  · exact distinct.map (Place.along_column_injective.comp Place.turned_injective)
  · intro one inRow other inColumn
    obtain ⟨_, _, rfl⟩ := List.mem_map.mp inRow
    obtain ⟨_, _, rfl⟩ := List.mem_map.mp inColumn
    exact Place.row_ne_column

theorem exists_wired (square : mesh.xs.size = mesh.ys.size) : ∃ sides, mesh.Wired sides := by
  refine ⟨((neighbours mesh.resolution).filter fun pair =>
    (edge? (mesh.vertexAt pair.1) (mesh.vertexAt pair.2)).isSome).map
      fun pair => s(pair.1, pair.2), ?_, ?_, ?_⟩
  · exact (List.filter_sublist.map _).nodup (neighbours_nodup _)
  · intro one other
    simp only [List.mem_map, List.mem_filter, Option.isSome_iff_exists, edge_eq_some_iff]
    constructor
    · rintro ⟨pair, ⟨among, edge, first, second⟩, same⟩
      have adjacent : one.Adjacent other := by
        obtain ⟨place, ⟨_, _, rfl⟩ | ⟨_, _, rfl⟩⟩ := mem_neighbours_iff.mp among
        · exact Place.adjacent_iff.mpr ⟨place, .inl same⟩
        · exact Place.adjacent_iff.mpr ⟨place, .inr same⟩
      rcases Sym2.eq_iff.mp same with ⟨rfl, rfl⟩ | ⟨rfl, rfl⟩
      · exact ⟨adjacent, ⟨_, first⟩, ⟨_, second⟩⟩
      · exact ⟨adjacent, ⟨_, second⟩, ⟨_, first⟩⟩
    · rintro ⟨adjacent, ⟨first, here⟩, ⟨second, there⟩⟩
      have inOne := HasVertex.within square ⟨first, here⟩
      have inOther := HasVertex.within square ⟨second, there⟩
      -- a pair of neighbours is looked for from its lower place only
      rcases neighbours_of_adjacent adjacent inOne inOther with found | found
      · exact ⟨_, ⟨found, ⟨first, second⟩, here, there⟩, rfl⟩
      · exact ⟨_, ⟨found, ⟨second, first⟩, there, here⟩, Sym2.eq_swap⟩
  · rw [edges_eq, List.forall₂_map_left_iff]
    refine (kept_forall₂ _ _).imp ?_
    intro pair edge found
    obtain ⟨first, second⟩ := edge_eq_some_iff.mp found
    exact ⟨pair.1, pair.2, rfl, first, second⟩

/-- The sides of the faces are edges. -/
theorem Paved.side_mem (paved : mesh.Paved cells) (wired : mesh.Wired sides) {cell : Place}
    (among : cell ∈ cells) : ∀ side ∈ cell.sides, side ∈ sides := by
  have corners := (paved.complete cell).mp among
  simp only [Place.corners, Quad.toList, List.mem_cons, List.not_mem_nil, or_false,
    forall_eq_or_imp, forall_eq] at corners
  obtain ⟨first, second, third, fourth⟩ := corners
  simp only [Place.sides, List.mem_cons, List.not_mem_nil, or_false, forall_eq_or_imp, forall_eq,
    wired.complete]
  exact ⟨⟨.inl rfl, first, second⟩, ⟨.inr (.inr (.inl rfl)), second, third⟩,
    ⟨.inr (.inl rfl), third, fourth⟩, ⟨.inr (.inr (.inr rfl)), fourth, first⟩⟩

theorem Paved.shared_by_two (paved : mesh.Paved cells) (wired : mesh.Wired sides)
    {side : Sym2 Place} (among : side ∈ sides) : cells.countP (fun cell => side ∈ cell.sides) ≤ 2 := by
  have distinct := Place.nodup_of_ordered paved.rowByRow
  induction side with
  | _ one other =>
      obtain ⟨place, same | same⟩ := Place.adjacent_iff.mp ((wired.complete one other).mp among).1
      · rw [← same]
        exact Place.count_le_two distinct fun cell found =>
          Place.cell_of_row_side (of_decide_eq_true found)
      · rw [← same]
        exact Place.count_le_two distinct fun cell found =>
          Place.cell_of_column_side (of_decide_eq_true found)

end Drawn

/-! Meshes of functions -/

section Sampled

variable {α : Type} [Scalar α]

/-- Where a line of the grid crosses its axis. -/
def coordinate (interval : Interval α) (resolution index : Nat) : α :=
  interval.lo + ofNat index * (interval.span / ofNat resolution)

variable {interval : Interval α} {resolution index : Nat} {coordinateAt : α}

theorem grid_line_eq (interval : Interval α) (some : isZero (ofNat resolution : α) = false) :
    gridLine interval resolution =
      .ok ((Array.range (resolution + 1)).map (coordinate interval resolution)) := by
  rw [gridLine, divide, some]
  rfl

theorem coordinate_at_iff :
    ((Array.range (resolution + 1)).map (coordinate interval resolution))[index]? =
        some coordinateAt ↔
      index ≤ resolution ∧ coordinateAt = coordinate interval resolution index := by
  rw [Array.getElem?_map, Option.map_eq_some_iff]
  simp only [Array.getElem?_eq_some_iff, Array.size_range, Array.getElem_range]
  constructor
  · rintro ⟨_, ⟨within, rfl⟩, rfl⟩
    exact ⟨Nat.le_of_lt_succ within, rfl⟩
  · rintro ⟨within, rfl⟩
    exact ⟨index, ⟨Nat.lt_succ_of_le within, rfl⟩, rfl⟩

end Sampled

/-- The mesh of a function has a vertex where the function has a height within the bounds. Its faces
stand over the cells with four vertices, its edges join the neighbours that are vertices, each side
of a face is an edge, and two faces at most share it. -/
theorem faces_agree_with_wireframe (surface : Float → Float → Option Float)
    (x y heights : Interval Float) (greatest : Float) {resolution : Nat} (some : 0 < resolution) :
    ∃ mesh, ofFunction surface x y resolution heights greatest = .ok mesh ∧
      (∀ row column vertex, mesh.vertex? row column = .some vertex ↔
        row ≤ resolution ∧ column ≤ resolution ∧ vertex.x = coordinate x resolution column ∧
          vertex.y = coordinate y resolution row ∧
          surface vertex.x vertex.y = .some vertex.z ∧ isFinite vertex.z = true ∧
          ¬greatest < abs vertex.z ∧ ¬vertex.z < heights.lo ∧ ¬heights.hi < vertex.z) ∧
      ∃ cells sides, mesh.Paved cells ∧ mesh.Wired sides ∧
        (∀ cell ∈ cells, ∀ side ∈ cell.sides, side ∈ sides) ∧
        ∀ side ∈ sides, cells.countP (fun cell => side ∈ cell.sides) ≤ 2 := by
  have cells := Binary64.count_not_zero some
  refine ⟨_, by rw [ofFunction, grid_line_eq x cells, grid_line_eq y cells]; rfl, ?_, ?_⟩
  · intro row column vertex
    rw [vertex_eq_some_iff, coordinate_at_iff, coordinate_at_iff, sample_eq_some_iff]
    constructor
    · rintro ⟨⟨inColumn, across⟩, ⟨inRow, along⟩, sampled⟩
      exact ⟨inRow, inColumn, across, along, sampled⟩
    · rintro ⟨inRow, inColumn, across, along, sampled⟩
      exact ⟨⟨inColumn, across⟩, ⟨inRow, along⟩, sampled⟩
  · generalize made : SurfaceMesh.mk _ _ _ = mesh
    have square : mesh.xs.size = mesh.ys.size := by
      simp only [← made, Array.size_map, Array.size_range]
    obtain ⟨cells, paved⟩ := exists_paved square
    obtain ⟨sides, wired⟩ := exists_wired square
    exact ⟨cells, sides, paved, wired, fun _ => paved.side_mem wired,
      fun _ => paved.shared_by_two wired⟩

/-! A surface with a corner left out -/

def notched (x y : Float) : Option Float := if 0.5 < x && 0.5 < y then none else some (x * y)

/-- Of the four cells one is left without a face and two edges are lost with its corner. -/
theorem notched_faces_and_wireframe :
    0 < 2 ∧ ∃ mesh, ofFunction notched ⟨-1.0, 1.0⟩ ⟨-1.0, 1.0⟩ 2 ⟨-5.0, 5.0⟩ greatestHeight =
        .ok mesh ∧ mesh.faces.length = 3 ∧ mesh.edges.length = 10 ∧
      (∀ row column vertex, mesh.vertex? row column = some vertex ↔
        row ≤ 2 ∧ column ≤ 2 ∧ vertex.x = coordinate ⟨-1.0, 1.0⟩ 2 column ∧
          vertex.y = coordinate ⟨-1.0, 1.0⟩ 2 row ∧ notched vertex.x vertex.y = some vertex.z ∧
          isFinite vertex.z = true ∧ ¬greatestHeight < abs vertex.z ∧ ¬vertex.z < -5.0 ∧
          ¬5.0 < vertex.z) ∧
      ∃ cells sides, mesh.Paved cells ∧ mesh.Wired sides ∧
        (∀ cell ∈ cells, ∀ side ∈ cell.sides, side ∈ sides) ∧
        ∀ side ∈ sides, cells.countP (fun cell => side ∈ cell.sides) ≤ 2 := by
  have drawn : (ofFunction notched ⟨-1.0, 1.0⟩ ⟨-1.0, 1.0⟩ 2 ⟨-5.0, 5.0⟩ greatestHeight).map
      (fun mesh => (mesh.faces.length, mesh.edges.length)) = .ok (3, 10) := by decide +kernel
  obtain ⟨mesh, made, vertices, agree⟩ := faces_agree_with_wireframe notched ⟨-1.0, 1.0⟩ ⟨-1.0, 1.0⟩
    ⟨-5.0, 5.0⟩ greatestHeight (show 0 < 2 by decide)
  rw [made] at drawn
  injection drawn with drawn
  injection drawn with faces edges
  exact ⟨by decide, mesh, made, faces, edges, vertices, agree⟩

end FormulaPlot.SurfaceMesh
