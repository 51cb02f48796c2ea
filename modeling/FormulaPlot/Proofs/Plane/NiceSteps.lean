import FormulaPlot.Plane.Tick
import FormulaPlot.Proofs.Decimal.Grid
import FormulaPlot.Proofs.Numeric.Rationals

/-!
Steps between ticks without rounding. The step for a range and a number of parts is the least of
all steps of one, two or five times a power of ten that leave no more than so many parts. It is
therefore less than two and a half times a part, grows with the range, and is moved by a decade with
it.
-/

namespace FormulaPlot.Step

open FormulaPlot.Decimal FormulaPlot.Scalar

set_option autoImplicit false

/-- One, two or five times a power of ten. -/
def IsNice (size : Rat) : Prop :=
  ∃ factor ∈ [(1 : Rat), 2, 5], ∃ exponent : Int, size = factor * 10 ^ exponent

/-- The least nice size that is not below another one. -/
def IsLeastNice (rough size : Rat) : Prop := IsLeast {size | IsNice size ∧ rough ≤ size} size

section Nice

variable {size rough : Rat} {exponent : Int}

theorem IsNice.cases (nice : IsNice size) :
    ∃ exponent : Int,
      size = 10 ^ exponent ∨ size = 2 * 10 ^ exponent ∨ size = 5 * 10 ^ exponent := by
  obtain ⟨factor, among, exponent, rfl⟩ := nice
  simp only [List.mem_cons, List.not_mem_nil, or_false] at among
  rcases among with rfl | rfl | rfl
  · exact ⟨exponent, .inl (one_mul _)⟩
  · exact ⟨exponent, .inr (.inl rfl)⟩
  · exact ⟨exponent, .inr (.inr rfl)⟩

theorem IsNice.of_one (exponent : Int) : IsNice (10 ^ exponent) :=
  ⟨1, by simp, exponent, (one_mul _).symm⟩

theorem IsNice.of_two (exponent : Int) : IsNice (2 * 10 ^ exponent) :=
  ⟨2, by simp, exponent, rfl⟩

theorem IsNice.of_five (exponent : Int) : IsNice (5 * 10 ^ exponent) :=
  ⟨5, by simp, exponent, rfl⟩

theorem next_decade (exponent : Int) : (10 : Rat) ^ (exponent + 1) = 10 * 10 ^ exponent := by
  rw [zpow_add_one₀ (by norm_num), mul_comm]

theorem decades_apart {lower upper : Int} (below : lower < upper) :
    10 * (10 : Rat) ^ lower ≤ 10 ^ upper := by
  rw [← next_decade]
  exact zpow_le_zpow_right₀ (by norm_num) below

theorem IsNice.positive (nice : IsNice size) : 0 < size := by
  obtain ⟨exponent, rfl | rfl | rfl⟩ := nice.cases <;> positivity

theorem IsNice.tenfold (nice : IsNice size) : IsNice (10 * size) := by
  obtain ⟨factor, among, exponent, rfl⟩ := nice
  exact ⟨factor, among, exponent + 1, by rw [next_decade, mul_left_comm]⟩

theorem IsNice.tenth (nice : IsNice size) : IsNice (size / 10) := by
  obtain ⟨factor, among, exponent, rfl⟩ := nice
  refine ⟨factor, among, exponent - 1, ?_⟩
  have decade := next_decade (exponent - 1)
  rw [Int.sub_add_cancel] at decade
  rw [decade]
  ring

/-- There are three nice sizes in each decade. -/
theorem IsNice.in_decade (nice : IsNice size) (least : 10 ^ exponent ≤ size) :
    size = 10 ^ exponent ∨ size = 2 * 10 ^ exponent ∨ size = 5 * 10 ^ exponent ∨
      10 * 10 ^ exponent ≤ size := by
  obtain ⟨power, shape⟩ := nice.cases
  have scale : (0 : Rat) < 10 ^ power := by positivity
  rcases lt_trichotomy power exponent with below | same | above
  · have apart := decades_apart below
    rcases shape with rfl | rfl | rfl <;> linarith
  · subst same
    rcases shape with rfl | rfl | rfl
    · exact .inl rfl
    · exact .inr (.inl rfl)
    · exact .inr (.inr (.inl rfl))
  · have apart := decades_apart above
    refine .inr (.inr (.inr ?_))
    rcases shape with rfl | rfl | rfl <;> linarith

/-! The least nice size in each part of a decade -/

theorem least_nice_self (nice : IsNice size) : IsLeastNice size size :=
  ⟨⟨nice, le_rfl⟩, fun _ inside => inside.2⟩

theorem least_nice_two (above : 10 ^ exponent < rough) (below : rough ≤ 2 * 10 ^ exponent) :
    IsLeastNice rough (2 * 10 ^ exponent) := by
  refine ⟨⟨.of_two exponent, below⟩, ?_⟩
  rintro size ⟨nice, reached⟩
  have power : (0 : Rat) < 10 ^ exponent := by positivity
  rcases nice.in_decade (above.le.trans reached) with same | same | same | beyond <;> linarith

theorem least_nice_five (above : 2 * 10 ^ exponent < rough) (below : rough ≤ 5 * 10 ^ exponent) :
    IsLeastNice rough (5 * 10 ^ exponent) := by
  refine ⟨⟨.of_five exponent, below⟩, ?_⟩
  rintro size ⟨nice, reached⟩
  have power : (0 : Rat) < 10 ^ exponent := by positivity
  rcases nice.in_decade (by linarith) with same | same | same | beyond <;> linarith

theorem least_nice_ten (above : 5 * 10 ^ exponent < rough) (below : rough ≤ 10 * 10 ^ exponent) :
    IsLeastNice rough (10 * 10 ^ exponent) := by
  refine ⟨⟨(IsNice.of_one exponent).tenfold, below⟩, ?_⟩
  rintro size ⟨nice, reached⟩
  have power : (0 : Rat) < 10 ^ exponent := by positivity
  rcases nice.in_decade (by linarith) with same | same | same | beyond <;> linarith

end Nice

/-! The step of a range -/

theorem multiplier_eq (normalized : Rat) :
    multiplier normalized =
      if normalized ≤ 1 then 1 else if normalized ≤ 2 then 2 else if normalized ≤ 5 then 5
      else 10 := by
  have one : (1.0 : Rat) = 1 := by norm_num
  have two : (2.0 : Rat) = 2 := by norm_num
  have five : (5.0 : Rat) = 5 := by norm_num
  rw [← one, ← two, ← five]
  rfl

/-- The multiplier brings the start of its decade to the least nice size. -/
theorem multiplier_least {rough : Rat} {exponent : Int} (least : 10 ^ exponent ≤ rough)
    (most : rough < 10 ^ (exponent + 1)) :
    IsLeastNice rough ((multiplier (rough / 10 ^ exponent) : Rat) * 10 ^ exponent) := by
  have power : (0 : Rat) < 10 ^ exponent := by positivity
  rw [next_decade] at most
  simp only [multiplier_eq, div_le_one power, div_le_iff₀ power]
  split_ifs with one two five
  · have same : rough = 10 ^ exponent := le_antisymm one least
    rw [Nat.cast_one, one_mul, same]
    exact least_nice_self (.of_one exponent)
  · exact least_nice_two (not_le.mp one) two
  · exact least_nice_five (not_le.mp two) five
  · exact least_nice_ten (not_le.mp five) most.le

theorem of_rough_rat {rough : Rat} (positive : 0 < rough) :
    ∃ step : Step Rat, ofRough rough = .ok step ∧ IsLeastNice rough step.size := by
  obtain ⟨least, most⟩ := leading_exponent_spec positive
  have best := multiplier_least least most
  have exponent : DecimalScale.leadingExponent rough = .ok (leadingExponent rough) :=
    if_neg (not_le.mpr positive)
  unfold ofRough
  rw [exponent]
  generalize leadingExponent rough = power at best
  -- powers of ten from one on are whole numbers, those below one are fractions
  cases power with
  | ofNat power =>
      have value : ((Nat.pow 10 power : Nat) : Rat) = 10 ^ Int.ofNat power := by
        rw [Int.ofNat_eq_natCast, zpow_natCast]
        exact Nat.cast_pow 10 power
      have nonzero : (ofNat (Nat.pow 10 power) : Rat) ≠ 0 := by
        rw [of_nat_rat, value]
        positivity
      refine ⟨.whole (multiplier (rough / ofNat (Nat.pow 10 power)) * Nat.pow 10 power), ?_, ?_⟩
      · show (divide rough (ofNat (Nat.pow 10 power))).bind _ = _
        rw [divide_rat nonzero]
        rfl
      · show IsLeastNice rough (ofNat _)
        rw [of_nat_rat, of_nat_rat, Nat.cast_mul, value]
        exact best
  | negSucc power =>
      have value : (DecimalScale.powerOfTen (Int.negSucc power) : Rat) = 10 ^ Int.negSucc power :=
        power_of_ten_eq _
      simp only [bind, Except.bind, value, divide_rat (zpow_ne_zero (Int.negSucc power)
        (by norm_num : (10 : Rat) ≠ 0))]
      generalize multiplier (rough / 10 ^ Int.negSucc power) = times at best
      split
      · refine ⟨_, rfl, ?_⟩
        rw [Nat.cast_one, one_mul] at best
        exact best
      · refine ⟨_, rfl, ?_⟩
        show IsLeastNice rough (ofNat times * 10 ^ Int.negSucc power)
        rw [of_nat_rat]
        exact best

theorem nice_rat {range : Rat} {most : Int} (positive : 0 < range) (some : 0 < most) :
    ∃ step : Step Rat, nice range most = .ok step ∧ IsLeastNice (range / most) step.size := by
  have rough : 0 < range / (most : Rat) := div_pos positive (by exact_mod_cast some)
  obtain ⟨step, made, best⟩ := of_rough_rat rough
  refine ⟨step, ?_, best⟩
  have length : decide (range ≤ zero) = false := by
    rw [zero_rat]
    exact decide_eq_false (not_le.mpr positive)
  have wanted : decide (most ≤ 0) = false := decide_eq_false (not_le.mpr some)
  rw [nice, length, wanted]
  exact made

/-- Only one size is the least. -/
theorem size_of_nice {range size : Rat} {most : Int} {step : Step Rat} (positive : 0 < range)
    (some : 0 < most) (made : nice range most = .ok step)
    (best : IsLeastNice (range / most) size) : step.size = size := by
  obtain ⟨other, same, least⟩ := nice_rat positive some
  rw [made] at same
  cases same
  exact least.unique best

/-! Consequences -/

section Least

variable {rough size : Rat}

/-- The next nice size is at most two and a half times as large. -/
theorem IsNice.gap (nice : IsNice size) :
    ∃ smaller, IsNice smaller ∧ smaller < size ∧ size ≤ 5 / 2 * smaller := by
  obtain ⟨exponent, shape⟩ := nice.cases
  have power : (0 : Rat) < 10 ^ exponent := by positivity
  rcases shape with rfl | rfl | rfl
  · have decade := next_decade (exponent - 1)
    rw [Int.sub_add_cancel] at decade
    refine ⟨5 * 10 ^ (exponent - 1), .of_five _, ?_⟩
    constructor <;> linarith
  · refine ⟨10 ^ exponent, .of_one _, ?_⟩
    constructor <;> linarith
  · refine ⟨2 * 10 ^ exponent, .of_two _, ?_⟩
    constructor <;> linarith

theorem IsLeastNice.small (best : IsLeastNice rough size) : size < 5 / 2 * rough := by
  obtain ⟨smaller, nice, less, close⟩ := best.1.1.gap
  have below : smaller < rough := by
    by_contra reached
    exact absurd (best.2 ⟨nice, not_lt.mp reached⟩) (not_le.mpr less)
  linarith

/-- Half a decade asks for all of the next one. -/
theorem IsLeastNice.reaches_iff {exponent : Int} (best : IsLeastNice rough size) :
    10 * 10 ^ exponent ≤ size ↔ 5 * 10 ^ exponent < rough := by
  have power : (0 : Rat) < 10 ^ exponent := by positivity
  constructor
  · intro reached
    by_contra below
    have least := best.2 ⟨.of_five exponent, not_lt.mp below⟩
    linarith
  · intro above
    have enough := best.1.2
    rcases best.1.1.in_decade (by linarith : 10 ^ exponent ≤ size) with same | same | same | beyond
    all_goals linarith

theorem IsLeastNice.mono {other coarser : Rat} (best : IsLeastNice rough size)
    (next : IsLeastNice other coarser) (more : rough ≤ other) : size ≤ coarser :=
  best.2 ⟨next.1.1, more.trans next.1.2⟩

theorem IsLeastNice.tenfold (best : IsLeastNice rough size) :
    IsLeastNice (10 * rough) (10 * size) := by
  refine ⟨⟨best.1.1.tenfold, by linarith [best.1.2]⟩, ?_⟩
  intro other inside
  have tenth : size ≤ other / 10 := best.2 ⟨inside.1.tenth, by linarith [inside.2]⟩
  linarith

end Least

/-- As many multiples as there are whole numbers between the two ends in steps. -/
theorem multiples_counted {size lo hi : Rat} (positive : 0 < size) (counted : Finset Rat)
    (inside : ∀ tick ∈ counted, IsMultiple size tick ∧ lo ≤ tick ∧ tick ≤ hi) :
    counted.card ≤ (⌊hi / size⌋ + 1 - ⌈lo / size⌉).toNat := by
  have among : counted ⊆
      (Finset.Icc ⌈lo / size⌉ ⌊hi / size⌋).image fun (count : Int) => count * size := by
    intro tick one
    obtain ⟨⟨count, rfl⟩, above, below⟩ := inside tick one
    refine Finset.mem_image.mpr ⟨count, Finset.mem_Icc.mpr ⟨?_, ?_⟩, rfl⟩
    · exact Int.ceil_le.mpr ((div_le_iff₀ positive).mpr above)
    · exact Int.le_floor.mpr ((le_div_iff₀ positive).mpr below)
  calc counted.card
      ≤ ((Finset.Icc ⌈lo / size⌉ ⌊hi / size⌋).image fun (count : Int) => count * size).card :=
        Finset.card_le_card among
    _ ≤ (Finset.Icc ⌈lo / size⌉ ⌊hi / size⌋).card := Finset.card_image_le
    _ = (⌊hi / size⌋ + 1 - ⌈lo / size⌉).toNat := Int.card_Icc _ _

/-- No interval of the range holds more multiples than one more than was asked for. -/
theorem few_multiples {range size lo : Rat} {most : Int} (positive : 0 < size) (some : 0 < most)
    (enough : range / most ≤ size) (counted : Finset Rat)
    (inside : ∀ tick ∈ counted, IsMultiple size tick ∧ lo ≤ tick ∧ tick ≤ lo + range) :
    (counted.card : Int) ≤ most + 1 := by
  have wanted : (0 : Rat) < most := by exact_mod_cast some
  have parts : range / size ≤ most := by
    rw [div_le_iff₀ positive, mul_comm]
    exact (div_le_iff₀ wanted).mp enough
  have last : ((⌊(lo + range) / size⌋ : Int) : Rat) ≤ ((⌈lo / size⌉ + most : Int) : Rat) := by
    calc ((⌊(lo + range) / size⌋ : Int) : Rat)
        ≤ (lo + range) / size := Int.floor_le _
      _ = lo / size + range / size := add_div ..
      _ ≤ ⌈lo / size⌉ + most := add_le_add (Int.le_ceil _) parts
      _ = ((⌈lo / size⌉ + most : Int) : Rat) := (Int.cast_add ..).symm
  have bound := multiples_counted positive counted inside
  have whole : ⌊(lo + range) / size⌋ ≤ ⌈lo / size⌉ + most := by exact_mod_cast last
  omega

/-- The step of a range is the least nice one that leaves no more parts than were asked for. So it
is less than two and a half parts, does not shrink when the range grows, is ten times as large for
ten times the range, and an interval of this length holds at most one more of its multiples. -/
theorem nice_step_is_best {range : Rat} {most : Int} (positive : 0 < range) (some : 0 < most) :
    ∃ step : Step Rat, nice range most = .ok step ∧
      IsLeast {size | IsNice size ∧ range / most ≤ size} step.size ∧
      step.size < 5 / 2 * (range / most) ∧
      (∀ wider, range ≤ wider →
        ∃ coarser : Step Rat, nice wider most = .ok coarser ∧ step.size ≤ coarser.size) ∧
      (∃ tenfold : Step Rat, nice (10 * range) most = .ok tenfold ∧
        tenfold.size = 10 * step.size) ∧
      ∀ (lo : Rat) (counted : Finset Rat),
        (∀ tick ∈ counted, IsMultiple step.size tick ∧ lo ≤ tick ∧ tick ≤ lo + range) →
        (counted.card : Int) ≤ most + 1 := by
  obtain ⟨step, made, best⟩ := nice_rat positive some
  have wanted : (0 : Rat) < most := by exact_mod_cast some
  refine ⟨step, made, best, best.small, ?_, ?_, ?_⟩
  · intro wider more
    obtain ⟨coarser, next, least⟩ := nice_rat (positive.trans_le more) some
    exact ⟨coarser, next, best.mono least (div_le_div_of_nonneg_right more wanted.le)⟩
  · obtain ⟨tenfold, next, least⟩ := nice_rat (by linarith : 0 < 10 * range) some
    refine ⟨tenfold, next, ?_⟩
    rw [mul_div_assoc] at least
    exact least.unique best.tenfold
  · intro lo counted inside
    exact few_multiples best.1.1.positive some best.1.2 counted inside

/-- Twenty in at most sixteen parts are steps of two. -/
theorem nice_step_is_best_for_twenty :
    ∃ step : Step Rat, nice (20 : Rat) 16 = .ok step ∧ step.size = 2 ∧
      ∀ (lo : Rat) (counted : Finset Rat),
        (∀ tick ∈ counted, IsMultiple step.size tick ∧ lo ≤ tick ∧ tick ≤ lo + 20) →
        (counted.card : Int) ≤ 16 + 1 := by
  obtain ⟨step, made, best, _, _, _, few⟩ :=
    nice_step_is_best (by norm_num : (0 : Rat) < 20) (by norm_num : (0 : Int) < 16)
  have two : IsLeastNice ((20 : Rat) / (16 : Int)) (2 * 10 ^ (0 : Int)) :=
    least_nice_two (by norm_num) (by norm_num)
  rw [zpow_zero, mul_one] at two
  exact ⟨step, made, best.unique two, few⟩

end FormulaPlot.Step
