import FormulaPlot.Proofs.Numeric.Reals
import FormulaPlot.Space.Projection

/-!
How near the points of a box come to the camera. The box is brought to lengths from -1 to 1 and
turned, so that no point comes nearer than the half diagonal of a cube, and a camera farther away
sees all of them.
-/

namespace FormulaPlot

open FormulaPlot.Scalar

set_option autoImplicit false

/-- Both pairs are the cosine and sine of an angle. -/
structure Orientation.IsTurn (orientation : Orientation ℝ) : Prop where
  yaw : orientation.cosYaw ^ 2 + orientation.sinYaw ^ 2 = 1
  pitch : orientation.cosPitch ^ 2 + orientation.sinPitch ^ 2 = 1

namespace Interval

variable {interval : Interval ℝ} {value : ℝ}

theorem contains_real_iff :
    interval.contains value = true ↔ interval.lo ≤ value ∧ value ≤ interval.hi := by
  simp only [contains, Bool.and_eq_true, decide_eq_true_iff]

theorem span_real (interval : Interval ℝ) : interval.span = interval.hi - interval.lo := rfl

theorem center_real (interval : Interval ℝ) :
    interval.center = (interval.lo + interval.hi) / 2 := by
  show (interval.lo + interval.hi) / (2.0 : ℝ) = _
  norm_num

/-- Brought to a length at least as long as the interval, its points are within 1 of its center. -/
theorem normalized_within (inside : interval.contains value = true) {longest : ℝ}
    (positive : 0 < longest) (longer : interval.span ≤ longest) :
    ((value - interval.center) * (2 / longest)) ^ 2 ≤ 1 := by
  obtain ⟨low, high⟩ := contains_real_iff.mp inside
  rw [span_real] at longer
  rw [center_real, mul_div_assoc', sq_le_one_iff_abs_le_one, abs_div, abs_of_pos positive,
    div_le_one positive, abs_le]
  constructor <;> linarith

end Interval

/-- Places in the visible box. -/
structure Viewport3D.Contains (viewport : Viewport3D ℝ) (point : Point3D ℝ) : Prop where
  x : viewport.x.contains point.x = true
  y : viewport.y.contains point.y = true
  z : viewport.z.contains point.z = true

namespace Camera

/-- How far a point lies in front of the center, on the camera's axis. -/
def depth (camera : Camera ℝ) (point : Point3D ℝ) : ℝ :=
  ((point.x - camera.center.x) * camera.normalize * camera.orientation.sinYaw +
      (point.y - camera.center.y) * camera.normalize * camera.orientation.cosYaw) *
    camera.orientation.sinPitch +
  (point.z - camera.center.z) * camera.normalize * camera.orientation.cosPitch

theorem near_plane_real : (nearPlane : ℝ) = 0.08 := rfl

/-- Without rounding all points in front of the near plane have a picture. -/
theorem project_of_depth {camera : Camera ℝ} {point : Point3D ℝ}
    (front : camera.depth point + 0.08 < camera.distance) :
    (camera.project point).isSome = true := by
  have clear : decide ((nearPlane : ℝ) < camera.distance - camera.depth point) = true := by
    rw [decide_eq_true_iff, near_plane_real]
    linarith
  unfold depth at clear
  unfold project
  dsimp only
  rw [clear]
  rfl

/-- The square of a rotated coordinate is at most that of the length. -/
theorem turned_sq_le (first second : ℝ) {cosine sine : ℝ} (turn : cosine ^ 2 + sine ^ 2 = 1) :
    (first * sine + second * cosine) ^ 2 ≤ first ^ 2 + second ^ 2 := by
  have length : (first * sine + second * cosine) ^ 2 + (first * cosine - second * sine) ^ 2 =
      first ^ 2 + second ^ 2 := by
    calc (first * sine + second * cosine) ^ 2 + (first * cosine - second * sine) ^ 2
        = (first ^ 2 + second ^ 2) * (cosine ^ 2 + sine ^ 2) := by ring
      _ = first ^ 2 + second ^ 2 := by rw [turn, mul_one]
  have other := sq_nonneg (first * cosine - second * sine)
  linarith

theorem depth_sq_le (camera : Camera ℝ) (turn : camera.orientation.IsTurn) (point : Point3D ℝ) :
    camera.depth point ^ 2 ≤
      ((point.x - camera.center.x) * camera.normalize) ^ 2 +
      ((point.y - camera.center.y) * camera.normalize) ^ 2 +
      ((point.z - camera.center.z) * camera.normalize) ^ 2 := by
  -- pitching turns the yawed depth against the height
  have pitched := turned_sq_le
    ((point.x - camera.center.x) * camera.normalize * camera.orientation.sinYaw +
      (point.y - camera.center.y) * camera.normalize * camera.orientation.cosYaw)
    ((point.z - camera.center.z) * camera.normalize) turn.pitch
  have yawed := turned_sq_le ((point.x - camera.center.x) * camera.normalize)
    ((point.y - camera.center.y) * camera.normalize) turn.yaw
  unfold depth
  linarith

section Viewport

variable {viewport : Viewport3D ℝ} {orientation : Orientation ℝ} (canvas : Canvas ℝ)
  {point : Point3D ℝ}

/-- The longest side of the box. -/
noncomputable def longest (viewport : Viewport3D ℝ) : ℝ :=
  max (max (max leastSide viewport.x.span) (max leastSide viewport.y.span))
    (max leastSide viewport.z.span)

theorem normalize_of_viewport :
    (ofViewport viewport orientation canvas).normalize = 2 / longest viewport := by
  simp only [ofViewport, maximum_real, longest]
  norm_num

theorem longest_pos (viewport : Viewport3D ℝ) : 0 < longest viewport := by
  have least : (0 : ℝ) < leastSide := by
    show (0 : ℝ) < 1e-9
    norm_num
  unfold longest
  positivity

theorem depth_le (turn : orientation.IsTurn) (inside : viewport.Contains point) :
    (ofViewport viewport orientation canvas).depth point ≤ Real.sqrt 3 := by
  have bound := depth_sq_le (ofViewport viewport orientation canvas) turn point
  rw [normalize_of_viewport canvas] at bound
  have positive := longest_pos viewport
  have across := Interval.normalized_within inside.x positive
    ((le_max_right _ _).trans ((le_max_left _ _).trans (le_max_left _ _)))
  have along := Interval.normalized_within inside.y positive
    ((le_max_right _ _).trans ((le_max_right _ _).trans (le_max_left _ _)))
  have up := Interval.normalized_within inside.z positive
    ((le_max_right _ _).trans (le_max_right _ _))
  apply Real.le_sqrt_of_sq_le
  refine bound.trans ?_
  show ((point.x - viewport.x.center) * (2 / longest viewport)) ^ 2 +
    ((point.y - viewport.y.center) * (2 / longest viewport)) ^ 2 +
    ((point.z - viewport.z.center) * (2 / longest viewport)) ^ 2 ≤ 3
  linarith

/-- A distant camera has a picture of every point of the box. -/
theorem project_of_distant (turn : orientation.IsTurn)
    (distant : Real.sqrt 3 + 0.08 < viewport.distance) (inside : viewport.Contains point) :
    ((ofViewport viewport orientation canvas).project point).isSome = true := by
  apply project_of_depth
  have near := depth_le canvas turn inside
  show _ < viewport.distance
  linarith

end Viewport

end Camera

end FormulaPlot
