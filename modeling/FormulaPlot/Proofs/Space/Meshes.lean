import FormulaPlot.Proofs.Space.Depth
import FormulaPlot.Proofs.Plane.Resolution
import FormulaPlot.Scene.Graph

/-!
Meshes of surfaces. A vertex is a height that is taken over where two lines of the grid cross.
Without rounding, a mesh can always be sampled, over the part of the box that lies above both
domains, and what is sampled outside the box has no vertex: all vertices of a mesh are places of the
box.
-/

namespace FormulaPlot

open FormulaPlot.Binary64 FormulaPlot.Scalar

set_option autoImplicit false

/-- Every density but positive infinity gives a number of cells; what is not positive counts as
zero. -/
def Appearance.IsSampled (appearance : Appearance) : Prop :=
  0.0 < appearance.samples → appearance.samples.isFinite = true

namespace Surface

/-- The root of a density is finite, and so is what is made of it. -/
theorem resolution_of_finite {samples : Float} (finite : 0.0 < samples → samples.isFinite = true) :
    ∃ cells, resolution samples standardFineness = .ok cells ∧ 12 ≤ cells := by
  have root : Bounded 486 (opened (Scalar.maximum 0.0 samples).sqrt) := by
    -- the root is taken of a positive density, or of zero
    unfold Scalar.maximum
    split
    next above =>
      have order := (lt_iff _ _).mp above
      rw [opened_zero] at order
      rcases bounded_cases ((finite_iff_bounded samples).mp (finite above)) with
        ⟨sign, zero⟩ | ⟨sign, mantissa, exponent, positive, read, _, low⟩
      · rw [zero] at order
        exact absurd order (by cases sign <;> decide)
      · rw [read] at order
        cases sign with
        | positive => exact sqrt_bounded read low (by decide) (by decide) (by decide)
        | negative => exact absurd order nofun
    next => decide
  have factor : Bounded (-51) (opened standardFineness) := by decide
  rcases floor_of_root root factor with ⟨whole, floor⟩
  refine ⟨(max leastResolution (min greatestResolution whole)).toNat, ?_, ?_⟩
  · rw [resolution, sampleCount, floor]
    rfl
  · simp only [leastResolution, greatestResolution]
    omega

end Surface

namespace Interval

variable {interval visible common : Interval ℝ} {value : ℝ}

theorem clip_real (clipped : interval.clip? visible = some common) :
    visible.lo ≤ common.lo ∧ common.lo < common.hi ∧ common.hi ≤ visible.hi := by
  simp only [clip?] at clipped
  split at clipped
  · contradiction
  · next some =>
      injection clipped with same
      rw [isEmpty, same, decide_eq_true_iff, not_le] at some
      rw [overlap, maximum_real, minimum_real] at same
      refine ⟨?_, some, ?_⟩
      · rw [← same]
        exact le_max_right _ _
      · rw [← same]
        exact min_le_right _ _

theorem clip_contains (clipped : interval.clip? visible = some common)
    (inside : common.contains value = true) : visible.contains value = true := by
  obtain ⟨lower, _, upper⟩ := clip_real clipped
  obtain ⟨low, high⟩ := contains_real_iff.mp inside
  exact contains_real_iff.mpr ⟨lower.trans low, high.trans upper⟩

end Interval

namespace SurfaceMesh

section Vertices

variable {α : Type}

/-- A height is taken over from the surface as it is, or left out. -/
theorem sample_eq_some_iff [Scalar α] {surface : α → α → Option α} {heights : Interval α}
    {greatest x y z : α} :
    sample surface heights greatest x y = some z ↔
      surface x y = some z ∧ isFinite z = true ∧ ¬greatest < abs z ∧ ¬z < heights.lo ∧
        ¬heights.hi < z := by
  unfold sample
  constructor
  · intro sampled
    split at sampled
    · contradiction
    · next defined =>
        split at sampled
        · contradiction
        · next kept =>
            split at sampled
            · contradiction
            · next inside =>
                injection sampled with same
                subst same
                simpa [defined, and_assoc] using And.intro kept inside
  · rintro ⟨defined, finite, bounded, low, high⟩
    simp [defined, finite, bounded, low, high]

/-- A vertex stands at a crossing of the grid, at the height that was found there. -/
theorem vertex_eq_some_iff {xs ys : Array α} {place : α → α → Option α} {row column : Nat}
    {vertex : Point3D α} :
    (SurfaceMesh.mk xs ys (ys.map fun y => xs.map fun x => place x y)).vertex? row column =
        some vertex ↔
      xs[column]? = some vertex.x ∧ ys[row]? = some vertex.y ∧
        place vertex.x vertex.y = some vertex.z := by
  have height : ∀ {x y}, xs[column]? = some x → ys[row]? = some y →
      (SurfaceMesh.mk xs ys (ys.map fun y => xs.map fun x => place x y)).height? row column =
        place x y := by
    intro x y across along
    simp [height?, across, along]
  unfold vertex?
  constructor
  · intro here
    split at here
    · next x y z across along up =>
        injection here with same
        subst same
        exact ⟨across, along, (height across along).symm.trans up⟩
    · contradiction
  · rintro ⟨across, along, up⟩
    simp only [across, along, height across along, up]

end Vertices

section Grid

variable {interval : Interval ℝ} {resolution : Nat}

theorem grid_line_real (interval : Interval ℝ) (some : 0 < resolution) :
    ∃ line, gridLine interval resolution = .ok line := by
  have cells : (ofNat resolution : ℝ) ≠ 0 := (Step.whole_positive some).ne'
  exact ⟨_, by rw [gridLine, divide_real cells]; rfl⟩

theorem grid_line_within {line : Array ℝ} (proper : interval.lo ≤ interval.hi)
    (some : 0 < resolution) (made : gridLine interval resolution = .ok line) {place : ℝ}
    (mem : place ∈ line) : interval.contains place = true := by
  have positive : (0 : ℝ) < ofNat resolution := Step.whole_positive some
  rw [gridLine, divide_real positive.ne'] at made
  injection made with same
  subst same
  obtain ⟨index, inRange, here⟩ := Array.mem_map.mp mem
  have within : index ≤ resolution := Nat.le_of_lt_succ (Array.mem_range.mp inRange)
  have part : place = interval.lo + index * ((interval.hi - interval.lo) / resolution) := by
    rw [← here]
    show interval.lo + ((index : Int) : ℝ) * (interval.span / ((resolution : Int) : ℝ)) = _
    rw [Int.cast_natCast, Int.cast_natCast, Interval.span_real]
  rw [Interval.contains_real_iff, part]
  exact steps_within proper within some

end Grid

variable (height : ℝ → ℝ → Option ℝ) {x y heights : Interval ℝ} (greatest : ℝ)

theorem sample_within {across along z : ℝ}
    (sampled : sample height heights greatest across along = some z) :
    heights.contains z = true := by
  obtain ⟨_, _, _, low, high⟩ := sample_eq_some_iff.mp sampled
  exact Interval.contains_real_iff.mpr ⟨not_lt.mp low, not_lt.mp high⟩

theorem of_function_contains {viewport : Viewport3D ℝ} {resolution : Nat}
    (properX : x.lo ≤ x.hi) (properY : y.lo ≤ y.hi) (some : 0 < resolution)
    (insideX : ∀ place, x.contains place = true → viewport.x.contains place = true)
    (insideY : ∀ place, y.contains place = true → viewport.y.contains place = true) :
    ∃ mesh, ofFunction height x y resolution viewport.z greatest = .ok mesh ∧
      ∀ row column, ∀ vertex ∈ mesh.vertex? row column, viewport.Contains vertex := by
  obtain ⟨xs, across⟩ := grid_line_real x some
  obtain ⟨ys, along⟩ := grid_line_real y some
  refine ⟨_, by rw [ofFunction, across, along]; rfl, ?_⟩
  intro row column vertex here
  obtain ⟨foundX, foundY, sampled⟩ := vertex_eq_some_iff.mp here
  exact ⟨insideX _ (grid_line_within properX some across (Array.mem_of_getElem? foundX)),
    insideY _ (grid_line_within properY some along (Array.mem_of_getElem? foundY)),
    sample_within height greatest sampled⟩

end SurfaceMesh

/-- The vertices of the mesh of a surface, if any of it is in view, are places of the box. -/
theorem SurfaceGraph.mesh_contains {surface : SurfaceGraph ℝ}
    (samples : surface.appearance.IsSampled) (viewport : Viewport3D ℝ) :
    ∃ mesh?, surface.mesh? viewport = .ok mesh? ∧
      ∀ mesh ∈ mesh?, ∀ row column, ∀ vertex ∈ mesh.vertex? row column,
        viewport.Contains vertex := by
  cases shown : surface.domain? viewport with
  | none => exact ⟨none, by rw [mesh?, shown], nofun⟩
  | some domain =>
      obtain ⟨x, y⟩ := domain
      obtain ⟨cells, resolution, least⟩ := Surface.resolution_of_finite samples
      have clipped : surface.domainX.visible? viewport.x = some x ∧
          surface.domainY.visible? viewport.y = some y := by
        unfold SurfaceGraph.domain? visibleDomain? at shown
        split at shown
        · next across along =>
            injection shown with same
            injection same with sameX sameY
            exact ⟨sameX ▸ across, sameY ▸ along⟩
        · contradiction
      obtain ⟨mesh, made, inside⟩ := SurfaceMesh.of_function_contains
        surface.height SurfaceMesh.greatestHeight
        (Interval.clip_real clipped.1).2.1.le (Interval.clip_real clipped.2).2.1.le
        (show 0 < cells by omega) (fun _ => Interval.clip_contains clipped.1)
        (fun _ => Interval.clip_contains clipped.2)
      refine ⟨some mesh, ?_, ?_⟩
      · simp only [mesh?, shown, resolution, made, bind, Except.bind]
        rfl
      · intro other same
        injection same with same
        subst same
        exact inside

end FormulaPlot
