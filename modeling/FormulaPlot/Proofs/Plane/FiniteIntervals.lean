import FormulaPlot.Equation.Domain
import FormulaPlot.Proofs.Numeric.Accuracy

/-!
Intervals between finite doubles. Ends of a modest size give a sanitized interval that is still
about as long as the least span, whatever the rounding of its ends, and the visible part of a
declared domain has two finite ends in their order.
-/

namespace FormulaPlot

open FormulaPlot.Binary64 FormulaPlot.Scalar

set_option autoImplicit false

namespace Interval

/-- An interval between finite doubles. -/
structure IsFinite (interval : Interval Float) : Prop where
  lo : interval.lo.isFinite = true
  hi : interval.hi.isFinite = true

/-- Finite, and not beyond a thousand million. -/
structure IsModest (interval : Interval Float) : Prop extends interval.IsFinite where
  loSize : |toRat interval.lo| ≤ 1000000000
  hiSize : |toRat interval.hi| ≤ 1000000000

theorem least_span_eq : (leastSpan : Float).isFinite = true ∧
    toRat leastSpan = 4611686018427388 * 2 ^ (-62 : Int) := by
  have finite : (leastSpan : Float).isFinite = true := rfl
  have read : opened (leastSpan : Float) =
      .finite .positive 4611686018427388 (-62) (by decide) := rfl
  refine ⟨finite, ?_⟩
  rw [to_rat_eq finite, read]
  show ((4611686018427388 : Nat) : Rat) * 2 ^ (-62 : Int) = _
  norm_num

theorem greatest_span_eq : (greatestSpan : Float).isFinite = true ∧
    toRat greatestSpan = 1000000 := by
  have finite : (greatestSpan : Float).isFinite = true := rfl
  have read : opened (greatestSpan : Float) =
      .finite .positive 8589934592000000 (-33) (by decide) := rfl
  refine ⟨finite, ?_⟩
  rw [to_rat_eq finite, read]
  show ((8589934592000000 : Nat) : Rat) * 2 ^ (-33 : Int) = _
  norm_num

/-- A span brought into its limits. -/
theorem limited_span {span : Float} (finite : span.isFinite = true) :
    (minimum greatestSpan (maximum leastSpan span)).isFinite = true ∧
      toRat leastSpan ≤ toRat (minimum greatestSpan (maximum leastSpan span)) ∧
      toRat (minimum greatestSpan (maximum leastSpan span)) ≤ 1000000 := by
  obtain ⟨leastFinite, least⟩ := least_span_eq
  obtain ⟨mostFinite, most⟩ := greatest_span_eq
  have raised : (maximum leastSpan span).isFinite = true ∧
      toRat leastSpan ≤ toRat (maximum leastSpan span) := by
    unfold maximum
    split
    · next below => exact ⟨finite, ((lt_iff_value leastFinite finite).mp below).le⟩
    · exact ⟨leastFinite, le_rfl⟩
  obtain ⟨raisedFinite, above⟩ := raised
  unfold minimum
  split
  · next below =>
      refine ⟨raisedFinite, above, ?_⟩
      rw [← most]
      exact ((lt_iff_value raisedFinite mostFinite).mp below).le
  · refine ⟨mostFinite, ?_, most.le⟩
    rw [least, most]
    norm_num

theorem modest_center {interval : Interval Float} (modest : interval.IsModest) :
    interval.center.isFinite = true ∧ |toRat interval.center| ≤ 1000000001 := by
  obtain ⟨low, lower⟩ := abs_le.mp modest.loSize
  obtain ⟨high, higher⟩ := abs_le.mp modest.hiSize
  have sum := add_close 31 modest.lo modest.hi (by decide) (by decide)
    (abs_lt.mpr (by constructor <;> norm_num <;> linarith))
  obtain ⟨sumLow, sumHigh⟩ := abs_le.mp sum.error
  norm_num at sumLow sumHigh
  have half := half_close 30 sum.finite (by decide) (by decide)
    (abs_lt.mpr (by constructor <;> norm_num <;> linarith))
  obtain ⟨halfLow, halfHigh⟩ := abs_le.mp half.error
  norm_num at halfLow halfHigh
  refine ⟨half.finite, abs_le.mpr ?_⟩
  show -1000000001 ≤ toRat ((interval.lo + interval.hi) / 2.0) ∧
    toRat ((interval.lo + interval.hi) / 2.0) ≤ 1000000001
  constructor <;> linarith

/-- The rounding of both ends loses less than a tenth of the least span. -/
theorem around_spread {center span : Float} (centered : center.isFinite = true)
    (size : |toRat center| ≤ 1000000001) (finite : span.isFinite = true)
    (least : toRat leastSpan ≤ toRat span) (most : toRat span ≤ 1000000) :
    (around center span).IsFinite ∧
      toRat (around center span).lo + 9 / 10000 ≤ toRat (around center span).hi := by
  obtain ⟨low, high⟩ := abs_le.mp size
  rw [least_span_eq.2] at least
  norm_num at least
  have half := half_close 20 finite (by decide) (by decide)
    (abs_lt.mpr (by constructor <;> norm_num <;> linarith))
  obtain ⟨halfLow, halfHigh⟩ := abs_le.mp half.error
  norm_num at halfLow halfHigh
  have lo := sub_close 31 centered half.finite (by decide) (by decide)
    (abs_lt.mpr (by constructor <;> norm_num <;> linarith))
  have hi := add_close 31 centered half.finite (by decide) (by decide)
    (abs_lt.mpr (by constructor <;> norm_num <;> linarith))
  have loHigh := (abs_le.mp lo.error).2
  have hiLow := (abs_le.mp hi.error).1
  norm_num at loHigh hiLow
  refine ⟨⟨lo.finite, hi.finite⟩, ?_⟩
  show toRat (center - span / 2.0) + 9 / 10000 ≤ toRat (center + span / 2.0)
  linarith

theorem sanitized_spread {interval : Interval Float} (modest : interval.IsModest) :
    interval.sanitized.IsFinite ∧
      toRat interval.sanitized.lo + 9 / 10000 ≤ toRat interval.sanitized.hi := by
  obtain ⟨low, lower⟩ := abs_le.mp modest.loSize
  obtain ⟨high, higher⟩ := abs_le.mp modest.hiSize
  have span := sub_close 31 modest.hi modest.lo (by decide) (by decide)
    (abs_lt.mpr (by constructor <;> norm_num <;> linarith))
  obtain ⟨limited, least, most⟩ := limited_span (finite_abs span.finite)
  obtain ⟨centered, size⟩ := modest_center modest
  have both : (isFinite interval.lo && isFinite interval.hi) = true := by
    rw [Bool.and_eq_true]
    exact ⟨modest.lo, modest.hi⟩
  rw [sanitized, if_pos both]
  exact around_spread centered size limited least most

/-! Visible parts -/

section Visible

variable {first second : Float}

theorem finite_maximum (finite : first.isFinite = true) (other : second.isFinite = true) :
    (maximum first second).isFinite = true := by
  unfold maximum
  split
  · exact other
  · exact finite

theorem finite_minimum (finite : first.isFinite = true) (other : second.isFinite = true) :
    (minimum first second).isFinite = true := by
  unfold minimum
  split
  · exact other
  · exact finite

/-- The lower end of an ordered interval is finite; the upper one may be out of range. -/
theorem ordered_finite (finite : first.isFinite = true) (other : second.isFinite = true) :
    (ordered first second).lo.isFinite = true ∧
      opened (ordered first second).hi ≠ .notANumber := by
  have number {value : Float} (finite : value.isFinite = true) :
      opened value ≠ .notANumber := by
    intro undefined
    have read : (opened value).isFinite = true := finite
    rw [undefined] at read
    contradiction
  unfold ordered
  split
  · exact ⟨finite_minimum finite other, sum_is_number (finite_maximum finite other) rfl⟩
  · exact ⟨finite, number other⟩

theorem infinite_of_number (number : opened first ≠ .notANumber)
    (infinite : ¬first.isFinite = true) : ∃ sign, opened first = .infinity sign := by
  have unread : ¬(opened first).isFinite = true := infinite
  cases read : opened first with
  | notANumber => exact absurd read number
  | infinity sign => exact ⟨sign, rfl⟩
  | zero sign => exact absurd (by rw [read]; rfl) unread
  | finite => exact absurd (by rw [read]; rfl) unread

theorem lt_of_infinite (read : opened first = .infinity .positive)
    (finite : second.isFinite = true) : second < first := by
  rw [lt_iff, read]
  rcases finite_cases finite with ⟨sign, zero⟩ | ⟨sign, _, _, _, reread, _⟩
  · rw [zero]
    rfl
  · rw [reread]
    cases sign <;> rfl

theorem le_of_infinite (read : opened first = .infinity .negative)
    (finite : second.isFinite = true) : first ≤ second := by
  show decide ((opened first).le (opened second) = true) = true
  rw [read]
  rcases finite_cases finite with ⟨sign, zero⟩ | ⟨sign, _, _, _, reread, _⟩
  · rw [zero]
    rfl
  · rw [reread]
    cases sign <;> rfl

/-- An end out of range gives way to the visible one. -/
theorem clip_finite {interval visible common : Interval Float}
    (lower : interval.lo.isFinite = true) (upper : opened interval.hi ≠ .notANumber)
    (seen : visible.IsFinite) (clipped : interval.clip? visible = some common) :
    common.IsFinite ∧ toRat common.lo < toRat common.hi := by
  simp only [clip?] at clipped
  split at clipped
  · contradiction
  next some =>
    injection clipped with same
    rw [isEmpty, same, decide_eq_true_iff] at some
    have lo : common.lo.isFinite = true := by
      rw [← same]
      exact finite_maximum lower seen.lo
    have hi : common.hi.isFinite = true := by
      have least : common.hi = minimum interval.hi visible.hi := by
        rw [← same]
        rfl
      unfold minimum at least
      split at least
      · rw [least]
        exact seen.hi
      · next above =>
          by_contra infinite
          rw [least] at infinite
          obtain ⟨sign, read⟩ := infinite_of_number upper infinite
          cases sign with
          | positive => exact above (lt_of_infinite read seen.hi)
          | negative =>
              apply some
              rw [least]
              exact le_of_infinite read lo
    exact ⟨⟨lo, hi⟩, not_le.mp fun reversed => some ((le_iff_value hi lo).mpr reversed)⟩

end Visible

end Interval

theorem Domain.visible_finite {lo hi : String} {visible common : Interval Float}
    (seen : visible.IsFinite) (shown : Domain.visible? lo hi visible = some common) :
    common.IsFinite ∧ toRat common.lo < toRat common.hi := by
  have declared (text : String) {otherwise : Float} (finite : otherwise.isFinite = true) :
      ((Domain.leadingNumber? text).getD otherwise).isFinite = true := by
    unfold Domain.leadingNumber?
    split
    · exact finite
    · dsimp only
      split
      · next number => exact number
      · exact finite
  obtain ⟨lower, upper⟩ := Interval.ordered_finite (declared lo seen.lo) (declared hi seen.hi)
  exact Interval.clip_finite lower upper seen shown

end FormulaPlot
