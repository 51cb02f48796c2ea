import FormulaPlot.Proofs.Numeric.Rationals
import FormulaPlot.Proofs.Plane.Cells
import Mathlib.Algebra.Order.Field.Basic
import Mathlib.Algebra.Order.Ring.Unbundled.Rat
import Mathlib.Tactic.FieldSimp
import Mathlib.Tactic.Linarith
import Mathlib.Tactic.NormNum
import Mathlib.Tactic.Ring

/-!
Crossings without rounding. Whether an edge is crossed depends only on the sides of zero that its
two ends lie on, and where it is crossed does not depend on the end it is read from.
-/

namespace FormulaPlot.Contour

open FormulaPlot.Scalar

set_option autoImplicit false

theorem zero_near_zero : isNearZero (0 : Rat) = true := by
  show decide (Rat.abs 0 < (1e-12 : Rat)) = true
  rw [Rat.abs]
  norm_num

/-- The side of zero that a value lies on, up to the tolerance. -/
inductive Side where
  | below
  | near
  | above
  deriving DecidableEq

def side (value : Rat) : Side :=
  if isNearZero value then .near else if 0 < value then .above else .below

section Sides

variable {value : Rat}

theorem near_of_side (near : side value = .near) : isNearZero value = true := by
  unfold side at near
  split at near
  · assumption
  · split at near <;> contradiction

theorem positive_of_side (above : side value = .above) : isNearZero value = false ∧ 0 < value := by
  unfold side at above
  split at above
  · contradiction
  · split at above
    · exact ⟨Bool.eq_false_of_not_eq_true ‹_›, ‹_›⟩
    · contradiction

theorem negative_of_side (below : side value = .below) : isNearZero value = false ∧ value < 0 := by
  unfold side at below
  split at below
  · contradiction
  · split at below
    · contradiction
    · next far low =>
        refine ⟨Bool.eq_false_of_not_eq_true far, lt_of_le_of_ne (not_lt.mp low) ?_⟩
        intro zero
        rw [zero, zero_near_zero] at far
        contradiction

end Sides

/-- Values of opposite signs lie on different sides unless both count as zero. -/
theorem sides_apart {first second : Rat}
    (opposite : first < 0 ∧ 0 < second ∨ 0 < first ∧ second < 0)
    (apart : ¬(isNearZero first = true ∧ isNearZero second = true)) : side first ≠ side second := by
  intro same
  cases here : side first with
  | near => exact apart ⟨near_of_side here, near_of_side (same.symm.trans here)⟩
  | above =>
      have one := (positive_of_side here).2
      have other := (positive_of_side (same.symm.trans here)).2
      rcases opposite with ⟨below, _⟩ | ⟨_, below⟩ <;> linarith
  | below =>
      have one := (negative_of_side here).2
      have other := (negative_of_side (same.symm.trans here)).2
      rcases opposite with ⟨_, above⟩ | ⟨above, _⟩ <;> linarith

section Edges

variable (start stop : Point Rat) {first second : Rat}

theorem crossing_near_both (here : isNearZero first = true) (there : isNearZero second = true) :
    crossing start first stop second = none := by
  simp [crossing, here, there, Scalar.isFinite]

theorem crossing_near_start (here : isNearZero first = true) (there : isNearZero second = false) :
    crossing start first stop second = some start := by
  simp [crossing, here, there, Scalar.isFinite]

theorem crossing_near_stop (here : isNearZero first = false) (there : isNearZero second = true) :
    crossing start first stop second = some stop := by
  simp [crossing, here, there, Scalar.isFinite]

theorem crossing_same_sign (here : isNearZero first = false) (there : isNearZero second = false)
    (same : 0 < first ∧ 0 < second ∨ first < 0 ∧ second < 0) :
    crossing start first stop second = none := by
  have together : sameSign first second = true := by
    simpa only [sameSign, zero_rat, Bool.or_eq_true, Bool.and_eq_true, decide_eq_true_iff]
      using same
  simp [crossing, here, there, together, Scalar.isFinite]

/-- The part of the edge that lies before the crossing. -/
theorem share_between (opposite : first < 0 ∧ 0 < second ∨ 0 < first ∧ second < 0) :
    0 ≤ first / (first - second) ∧ first / (first - second) ≤ 1 := by
  rcases opposite with ⟨below, above⟩ | ⟨above, below⟩
  · constructor
    · exact div_nonneg_of_nonpos (by linarith) (by linarith)
    · exact (div_le_one_of_neg (by linarith)).mpr (by linarith)
  · constructor
    · exact div_nonneg (by linarith) (by linarith)
    · exact (div_le_one (by linarith)).mpr (by linarith)

theorem crossing_opposite (here : isNearZero first = false) (there : isNearZero second = false)
    (opposite : first < 0 ∧ 0 < second ∨ 0 < first ∧ second < 0) :
    crossing start first stop second =
      some ⟨start.x + first / (first - second) * (stop.x - start.x),
        start.y + first / (first - second) * (stop.y - start.y)⟩ := by
  have apart : sameSign first second = false := by
    simp only [sameSign, zero_rat, Bool.or_eq_false_iff, Bool.and_eq_false_iff,
      decide_eq_false_iff_not]
    rcases opposite with ⟨below, above⟩ | ⟨above, below⟩
    · exact ⟨.inl (by linarith), .inr (by linarith)⟩
    · exact ⟨.inr (by linarith), .inl (by linarith)⟩
  have between := share_between opposite
  have low : ¬first / (first - second) < zero := by
    rw [zero_rat]
    exact not_lt.mpr between.1
  have high : ¬(1.0 : Rat) < first / (first - second) := by
    norm_num only
    exact not_lt.mpr between.2
  have kept : ¬(!isFinite (first / (first - second)) || decide (first / (first - second) < zero) ||
      decide (1.0 < first / (first - second))) = true := by
    simp only [Bool.or_eq_true, decide_eq_true_iff]
    rintro ((infinite | below) | above)
    · exact Bool.false_ne_true infinite
    · exact low below
    · exact high above
  simp only [crossing, here, there, apart]
  rw [if_neg kept]
  rfl

theorem share_swap (apart : first ≠ second) :
    second / (second - first) = 1 - first / (first - second) := by
  have forth : first - second ≠ 0 := sub_ne_zero.mpr apart
  have back : second - first ≠ 0 := sub_ne_zero.mpr apart.symm
  field_simp
  ring

theorem crossing_opposite_swap (here : isNearZero first = false)
    (there : isNearZero second = false)
    (opposite : first < 0 ∧ 0 < second ∨ 0 < first ∧ second < 0) :
    crossing stop second start first = crossing start first stop second := by
  have apart : first ≠ second := by
    rcases opposite with ⟨below, above⟩ | ⟨above, below⟩
    · exact ne_of_lt (below.trans above)
    · exact ne_of_gt (below.trans above)
  have turned : second < 0 ∧ 0 < first ∨ 0 < second ∧ first < 0 :=
    opposite.symm.imp And.symm And.symm
  rw [crossing_opposite start stop here there opposite,
    crossing_opposite stop start there here turned, share_swap apart]
  congr 2 <;> ring

/-- An edge is crossed at the same place from either end, and it is crossed exactly when its ends
lie on different sides. -/
theorem crossing_of_sides (first second : Rat) :
    crossing stop second start first = crossing start first stop second ∧
      (crossing start first stop second).isSome = decide (side first ≠ side second) := by
  cases one : side first with
  | near =>
      have here := near_of_side one
      cases other : side second with
      | near =>
          have there := near_of_side other
          rw [crossing_near_both start stop here there, crossing_near_both stop start there here]
          exact ⟨rfl, rfl⟩
      | above =>
          have there := (positive_of_side other).1
          rw [crossing_near_start start stop here there, crossing_near_stop stop start there here]
          exact ⟨rfl, rfl⟩
      | below =>
          have there := (negative_of_side other).1
          rw [crossing_near_start start stop here there, crossing_near_stop stop start there here]
          exact ⟨rfl, rfl⟩
  | above =>
      have ⟨here, sign⟩ := positive_of_side one
      cases other : side second with
      | near =>
          have there := near_of_side other
          rw [crossing_near_stop start stop here there, crossing_near_start stop start there here]
          exact ⟨rfl, rfl⟩
      | above =>
          have ⟨there, along⟩ := positive_of_side other
          rw [crossing_same_sign start stop here there (.inl ⟨sign, along⟩),
            crossing_same_sign stop start there here (.inl ⟨along, sign⟩)]
          exact ⟨rfl, rfl⟩
      | below =>
          have ⟨there, against⟩ := negative_of_side other
          rw [crossing_opposite_swap start stop here there (.inr ⟨sign, against⟩),
            crossing_opposite start stop here there (.inr ⟨sign, against⟩)]
          exact ⟨rfl, rfl⟩
  | below =>
      have ⟨here, sign⟩ := negative_of_side one
      cases other : side second with
      | near =>
          have there := near_of_side other
          rw [crossing_near_stop start stop here there, crossing_near_start stop start there here]
          exact ⟨rfl, rfl⟩
      | above =>
          have ⟨there, against⟩ := positive_of_side other
          rw [crossing_opposite_swap start stop here there (.inl ⟨sign, against⟩),
            crossing_opposite start stop here there (.inl ⟨sign, against⟩)]
          exact ⟨rfl, rfl⟩
      | below =>
          have ⟨there, along⟩ := negative_of_side other
          rw [crossing_same_sign start stop here there (.inr ⟨sign, along⟩),
            crossing_same_sign stop start there here (.inr ⟨along, sign⟩)]
          exact ⟨rfl, rfl⟩

theorem edge_crossing_comm (first second : Option Rat) :
    edgeCrossing stop second start first = edgeCrossing start first stop second := by
  cases first with
  | none => cases second <;> rfl
  | some value =>
      cases second with
      | none => rfl
      | some other => exact (crossing_of_sides start stop value other).1

end Edges

/-! Cells with a value at each corner -/

namespace Cell

/-- The values at the corners, counter-clockwise from the lower left one. -/
structure Corners (cell : Cell Rat) (a b c d : Rat) : Prop where
  lowerLeft : cell.lowerLeft = some a
  lowerRight : cell.lowerRight = some b
  upperRight : cell.upperRight = some c
  upperLeft : cell.upperLeft = some d

/-- Edges of a closed walk on which the side changes. -/
def changes (a b c d : Side) : Nat :=
  (decide (a ≠ b)).toNat + (decide (b ≠ c)).toNat + (decide (c ≠ d)).toNat +
    (decide (d ≠ a)).toNat

theorem length_filter_map_four {α : Type} (first second third fourth : Option α) :
    ([first, second, third, fourth].filterMap id).length =
      first.isSome.toNat + second.isSome.toNat + third.isSome.toNat + fourth.isSome.toNat := by
  cases first <;> cases second <;> cases third <;> cases fourth <;> rfl

variable {cell : Cell Rat} {a b c d : Rat}

theorem length_crossed (corners : cell.Corners a b c d) :
    cell.crossed.length = changes (side a) (side b) (side c) (side d) := by
  rw [crossed, crossings, length_filter_map_four, corners.lowerLeft, corners.lowerRight,
    corners.upperRight, corners.upperLeft]
  simp only [edgeCrossing, (crossing_of_sides _ _ _ _).2, changes]

/-- A closed walk does not change sides just once, and three changes visit every side. -/
theorem changes_cases (a b c d : Side) :
    changes a b c d = 0 ∨ changes a b c d = 2 ∨ changes a b c d = 4 ∨
      changes a b c d = 3 ∧ (a = .near ∨ b = .near ∨ c = .near ∨ d = .near) := by
  cases a <;> cases b <;> cases c <;> cases d <;> decide

end Cell

end FormulaPlot.Contour
