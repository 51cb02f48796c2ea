import Mathlib
import FormulaPlot.Plane.Tick

/-!
Geometry in exact real arithmetic. Real numbers are scalars like doubles and rationals, so that what
holds without rounding, and for irrational cosines as well, can be stated of the same definitions.
-/

namespace FormulaPlot

open FormulaPlot.Scalar

set_option autoImplicit false

namespace Extended

/-- A rational between the same whole numbers: the number itself where it is rational. -/
noncomputable def nearReal (value : ℝ) : Rat :=
  open scoped Classical in
    if rational : ∃ same : Rat, (same : ℝ) = value then rational.choose
    else Int.floor value + 1 / 2

theorem ceil_near_real (value : ℝ) : Int.ceil (nearReal value) = Int.ceil value := by
  unfold nearReal
  split
  · next rational =>
      conv_rhs => rw [← rational.choose_spec]
      exact (Rat.ceil_cast _).symm
  · next irrational =>
      have between : (Int.floor value : ℝ) ≠ value := by
        intro whole
        exact irrational ⟨Int.floor value, by rw [← whole]; norm_num⟩
      have above := lt_of_le_of_ne (Int.floor_le value) between
      have below := Int.lt_floor_add_one value
      have here : Int.ceil value = Int.floor value + 1 := by
        rw [Int.ceil_eq_iff]
        push_cast
        constructor <;> linarith
      rw [here, Int.ceil_intCast_add]
      norm_num

theorem floor_near_real (value : ℝ) : Int.floor (nearReal value) = Int.floor value := by
  unfold nearReal
  split
  · next rational =>
      conv_rhs => rw [← rational.choose_spec]
      exact (Rat.floor_cast _).symm
  · next irrational =>
      rw [Int.floor_intCast_add]
      norm_num

end Extended

/-- The nearest multiple of `10 ^ (-places)`, of two the one with an even number of units. -/
noncomputable def roundReal (places : Nat) (value : ℝ) : ℝ :=
  let scaled := value * 10 ^ places
  let below := Int.floor scaled
  let rounded :=
    if Int.fract scaled < 1 / 2 ∨ Int.fract scaled = 1 / 2 ∧ Even below then below else below + 1
  rounded / 10 ^ places

noncomputable instance : Scalar ℝ where
  decidableLT := inferInstance
  decidableLE := inferInstance
  isFinite _ := true
  abs value := |value|
  read value := .ofRat (Extended.nearReal value)
  ofInt value := value
  ofNumeral numeral := numeral.value
  roundPlaces := roundReal

noncomputable instance : DecimalScale ℝ where
  leadingExponent value :=
    if value ≤ 0 then .error .outsideDomain else .ok (Int.log 10 value)
  powerOfTen exponent := 10 ^ exponent

namespace Scalar

theorem to_whole_real (round : Rat → Int) (value : ℝ) :
    toWhole round value = .ok (round (Extended.nearReal value)) := by
  have read : Scalar.read value = .ofRat (Extended.nearReal value) := rfl
  rw [toWhole, read]
  simp only [Extended.ofRat, decide_eq_true_eq]
  split
  · next negative => rw [Rat.abs_of_nonpos negative.le, neg_neg]
  · next positive => rw [Rat.abs_of_nonneg (not_lt.mp positive)]

theorem ceil_real (value : ℝ) : ceil value = .ok (Int.ceil value) := by
  have same : Rat.ceil (Extended.nearReal value) = Int.ceil (Extended.nearReal value) :=
    eq_of_forall_ge_iff fun bound => Rat.ceil_le_iff.trans Int.ceil_le.symm
  rw [ceil, to_whole_real, same, Extended.ceil_near_real]

theorem floor_real (value : ℝ) : floor value = .ok (Int.floor value) := by
  rw [floor, to_whole_real]
  exact congrArg Except.ok (Extended.floor_near_real value)

theorem zero_real : (zero : ℝ) = 0 := by
  show (0.0 : ℝ) = 0
  norm_num

theorem divide_real {numerator denominator : ℝ} (nonzero : denominator ≠ 0) :
    divide numerator denominator = .ok (numerator / denominator) := by
  have other : isZero denominator = false := by
    rw [isZero, zero_real, ← Bool.decide_and, decide_eq_false_iff_not]
    exact fun both => nonzero (le_antisymm both.1 both.2)
  rw [divide, other]
  rfl

theorem maximum_real (first second : ℝ) : maximum first second = max first second := by
  unfold maximum
  split
  · next below => exact (max_eq_right below.le).symm
  · next above => exact (max_eq_left (not_lt.mp above)).symm

theorem minimum_real (first second : ℝ) : minimum first second = min first second := by
  unfold minimum
  split
  · next below => exact (min_eq_right below.le).symm
  · next above => exact (min_eq_left (not_lt.mp above)).symm

end Scalar

/-! Ticks -/

namespace Step

theorem multiplier_pos (normalized : ℝ) : 0 < multiplier normalized := by
  unfold multiplier
  split_ifs <;> decide

theorem whole_positive {size : Nat} (positive : 0 < size) :
    0 < (Step.whole size : Step ℝ).size := by
  show (0 : ℝ) < ((size : Int) : ℝ)
  exact_mod_cast positive

theorem of_rough_real {rough : ℝ} (positive : 0 < rough) :
    ∃ step : Step ℝ, ofRough rough = .ok step ∧ 0 < step.size := by
  have exponent : DecimalScale.leadingExponent rough = .ok (Int.log 10 rough) :=
    if_neg (not_le.mpr positive)
  unfold ofRough
  rw [exponent]
  cases Int.log 10 rough with
  | ofNat exponent =>
      have power : 0 < Nat.pow 10 exponent := Nat.pow_pos (by decide)
      have nonzero : (ofNat (Nat.pow 10 exponent) : ℝ) ≠ 0 := (whole_positive power).ne'
      refine ⟨.whole (multiplier (rough / ofNat (Nat.pow 10 exponent)) * Nat.pow 10 exponent),
        ?_, whole_positive (Nat.mul_pos (multiplier_pos _) power)⟩
      show (divide rough (ofNat (Nat.pow 10 exponent))).bind _ = _
      rw [divide_real nonzero]
      rfl
  | negSucc exponent =>
      have power : (0 : ℝ) < DecimalScale.powerOfTen (Int.negSucc exponent) :=
        zpow_pos (by norm_num) _
      have many := multiplier_pos (rough / DecimalScale.powerOfTen (Int.negSucc exponent))
      simp only [bind, Except.bind, divide_real power.ne']
      split
      · exact ⟨_, rfl, power⟩
      · exact ⟨_, rfl, mul_pos (whole_positive many) power⟩

/-- A loop with a positive step gets past the limit. -/
theorem added_ticks_real {size limit : ℝ} (left : Nat) {tick : ℝ}
    (past : limit < tick + left * size) :
    ∃ ticks, addedTicks size limit left tick = .ok ticks := by
  induction left generalizing tick with
  | zero =>
      rw [Nat.cast_zero, zero_mul, add_zero] at past
      exact ⟨[], added_ticks_past 0 (not_le.mpr past)⟩
  | succ left induction =>
      by_cases reached : tick ≤ limit
      · have next : limit < tick + size + left * size := by
          push_cast at past
          linarith
        obtain ⟨ticks, added⟩ := induction next
        exact ⟨_, by rw [added_ticks_step left reached, added]; rfl⟩
      · exact ⟨[], added_ticks_past _ reached⟩

theorem tick_bound_real {size : ℝ} (positive : 0 < size) (first limit : ℝ) :
    limit < first + tickBound size first limit * size := by
  have most := Int.lt_floor_add_one ((limit - first) / size)
  rw [div_lt_iff₀ positive] at most
  have count : ((⌊(limit - first) / size⌋ : ℝ) + 1) ≤ tickBound size first limit := by
    rw [tickBound, floor_real]
    have whole := Int.self_le_toNat ⌊(limit - first) / size⌋
    have wider : ⌊(limit - first) / size⌋ + 1 ≤
        ((2 * (⌊(limit - first) / size⌋.toNat + 4) : Nat) : Int) := by
      push_cast
      omega
    exact_mod_cast wider
  have reach := mul_le_mul_of_nonneg_right count positive.le
  linarith

theorem ticks_from_real (step : Step ℝ) (positive : 0 < step.size) (interval : Interval ℝ) :
    ∃ ticks, step.ticksFrom interval = .ok ticks := by
  simp only [ticksFrom, bind, Except.bind, divide_real positive.ne', ceil_real]
  cases step with
  | whole size =>
      dsimp only
      rw [wholeTicks, floor_real]
      dsimp only
      split
      · exact ⟨_, rfl⟩
      · exact ⟨_, rfl⟩
  | fractional size => exact added_ticks_real _ (tick_bound_real positive _ _)

end Step

theorem Interval.ticks_real {interval : Interval ℝ} (proper : interval.lo < interval.hi)
    {most : Int} (some : 0 < most) : ∃ ticks, interval.ticks most = .ok ticks := by
  have range : 0 < interval.span / (Scalar.ofInt most : ℝ) := by
    apply div_pos (sub_pos.mpr proper)
    show (0 : ℝ) < (most : ℝ)
    exact_mod_cast some
  obtain ⟨step, rough, positive⟩ := Step.of_rough_real range
  have nice : Step.nice interval.span most = .ok step := by
    have length : decide (interval.span ≤ zero) = false := by
      rw [zero_real]
      exact decide_eq_false (not_le.mpr (sub_pos.mpr proper))
    have wanted : decide (most ≤ 0) = false := decide_eq_false (not_le.mpr some)
    rw [Step.nice, length, wanted]
    exact rough
  rw [Interval.ticks, nice]
  exact step.ticks_from_real positive interval

end FormulaPlot
