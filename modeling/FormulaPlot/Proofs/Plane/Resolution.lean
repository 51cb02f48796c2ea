import FormulaPlot.Plane.Contour
import FormulaPlot.Proofs.Numeric.Exponents
import Mathlib.Algebra.Order.Field.Basic
import Mathlib.Tactic.GCongr
import Mathlib.Tactic.Linarith
import Mathlib.Tactic.Positivity

/-!
The resolution of a contour. Every finite sample density has one, whatever rounding does to it, and
without rounding the lines of a grid lie within the interval that they divide.
-/

namespace FormulaPlot

open FormulaPlot.Binary64

set_option autoImplicit false

theorem steps_within {number : Type} [Field number] [LinearOrder number]
    [IsStrictOrderedRing number] {low high : number} (proper : low ≤ high) {index count : Nat}
    (within : index ≤ count) (some : 0 < count) :
    low ≤ low + index * ((high - low) / count) ∧ low + index * ((high - low) / count) ≤ high := by
  have length : 0 ≤ high - low := sub_nonneg.mpr proper
  have parts : (0 : number) < count := Nat.cast_pos.mpr some
  have most : index * ((high - low) / count) ≤ high - low := by
    calc index * ((high - low) / count)
        ≤ count * ((high - low) / count) := by gcongr
      _ = high - low := mul_div_cancel₀ _ parts.ne'
  have least : 0 ≤ index * ((high - low) / count) := by positivity
  constructor <;> linarith

theorem floor_of_finite {value : Float} (finite : value.isFinite = true) :
    ∃ whole, Scalar.floor value = .ok whole := by
  rcases read_finite finite with ⟨negative, magnitude, read⟩
  have same : Scalar.read value = .finite negative magnitude := read
  exact ⟨_, by rw [Scalar.floor, Scalar.toWhole, same]⟩

/-- Neither the factor nor rounding half up takes the root of a density out of range. -/
theorem floor_of_root {root factor : Float} (rooted : Bounded 486 (opened root))
    (small : Bounded (-51) (opened factor)) :
    ∃ whole, Scalar.floor (root * factor + 0.5) = .ok whole := by
  have scaled : Bounded 489 (opened (root * factor)) :=
    mul_bounded rooted small (by decide) (by decide) (by decide)
  have half : Bounded (-53) (opened 0.5) := by decide
  have moved : Bounded 971 (opened (root * factor + 0.5)) :=
    add_bounded scaled half (by decide) (by decide) (by decide) (by decide)
  exact floor_of_finite ((finite_iff_bounded _).mpr moved)

namespace Contour

/-- A density of at least one has an exponent and no sign. -/
theorem opened_density {samples : Float} (finite : samples.isFinite = true) :
    ∃ mantissa exponent, ∃ positive : 0 < mantissa,
      opened (Scalar.maximum 1.0 samples) = .finite .positive mantissa exponent positive ∧
        exponent ≤ 971 := by
  have one : opened 1.0 = .finite .positive (2 ^ 52) (-52) (by decide) := rfl
  unfold Scalar.maximum
  split
  next above =>
    have order := (lt_iff _ _).mp above
    rw [one] at order
    rcases bounded_cases ((finite_iff_bounded samples).mp finite) with
      ⟨sign, zero⟩ | ⟨sign, mantissa, exponent, positive, read, _, low⟩
    · rw [zero] at order
      exact absurd order (by cases sign <;> decide)
    · rw [read] at order
      cases sign with
      | positive => exact ⟨mantissa, exponent, positive, read, low⟩
      | negative => exact absurd order nofun
  next => exact ⟨2 ^ 52, -52, by decide, one, by decide⟩

theorem resolution_of_finite {samples : Float} (finite : samples.isFinite = true) :
    ∃ cells, resolution samples = .ok cells ∧ 30 ≤ cells ∧ cells ≤ 180 := by
  rcases opened_density finite with ⟨mantissa, exponent, positive, read, low⟩
  have root : Bounded 486 (opened (Scalar.maximum 1.0 samples).sqrt) :=
    sqrt_bounded read low (by decide) (by decide) (by decide)
  have factor : Bounded (-51) (opened 2.2) := by decide
  rcases floor_of_root root factor with ⟨whole, floor⟩
  refine ⟨(max leastResolution (min greatestResolution whole)).toNat, ?_, ?_, ?_⟩
  · rw [resolution, sampleCount, floor]
    rfl
  · simp only [leastResolution, greatestResolution]
    omega
  · simp only [leastResolution, greatestResolution]
    omega

end Contour

end FormulaPlot
