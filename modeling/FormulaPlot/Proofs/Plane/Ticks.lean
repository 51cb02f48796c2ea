import FormulaPlot.Proofs.Plane.NiceSteps

/-!
Ticks without rounding. The ticks of an interval are the multiples of its step from the lower end up
to half a step beyond the upper one, rounded to ten places. They are therefore the multiples in the
interval exactly when the upper end is less than half a step past the last of them and the step is
on the grid that ticks are rounded to.
-/

namespace FormulaPlot

open FormulaPlot.Decimal FormulaPlot.Scalar

set_option autoImplicit false

namespace Step

/-! Multiples in an interval -/

/-- All multiples of a size from one place to another, once each and in ascending order. -/
structure Lists (size lo hi : Rat) (ticks : List Rat) : Prop where
  ascending : ticks.Pairwise (· < ·)
  mem_iff : ∀ tick, tick ∈ ticks ↔ IsMultiple size tick ∧ lo ≤ tick ∧ tick ≤ hi

/-- The multiples counted from the first one on. -/
def multiples (size lo hi : Rat) : List Rat :=
  (List.range (⌊hi / size⌋ + 1 - ⌈lo / size⌉).toNat).map fun (index : Nat) =>
    ((⌈lo / size⌉ + index : Int) : Rat) * size

section Multiples

variable {size lo hi : Rat}

theorem lists_multiples (positive : 0 < size) : Lists size lo hi (multiples size lo hi) := by
  constructor
  · rw [multiples, List.pairwise_map]
    refine List.pairwise_lt_range.imp ?_
    intro first second less
    have counts : ((⌈lo / size⌉ + first : Int) : Rat) < (⌈lo / size⌉ + second : Int) := by
      exact_mod_cast Int.add_lt_add_left (Int.ofNat_lt.mpr less) _
    exact mul_lt_mul_of_pos_right counts positive
  · intro tick
    rw [multiples, List.mem_map]
    constructor
    · rintro ⟨index, among, rfl⟩
      have bound := List.mem_range.mp among
      refine ⟨.mul_right _, ?_, ?_⟩
      · rw [← div_le_iff₀ positive, ← Int.ceil_le]
        omega
      · rw [← le_div_iff₀ positive, ← Int.le_floor]
        omega
    · rintro ⟨⟨count, rfl⟩, above, below⟩
      rw [← div_le_iff₀ positive, ← Int.ceil_le] at above
      rw [← le_div_iff₀ positive, ← Int.le_floor] at below
      refine ⟨(count - ⌈lo / size⌉).toNat, List.mem_range.mpr (by omega), ?_⟩
      have whole : (⌈lo / size⌉ + ((count - ⌈lo / size⌉).toNat : Nat) : Int) = count := by omega
      rw [whole]

/-- A multiple of the unit that ticks are rounded to has its multiples kept. -/
theorem rounded_multiples {places : Nat} (on : IsMultiple (10 ^ (-(places : Int))) size) :
    (multiples size lo hi).map (roundRat places) = multiples size lo hi := by
  refine (List.map_congr_left ?_).trans (List.map_id _)
  intro tick among
  obtain ⟨index, _, rfl⟩ := List.mem_map.mp among
  exact round_rat_self (on.trans (.mul_right _))

end Multiples

/-! Running through the ticks -/

theorem whole_ticks_eq {size : Nat} (positive : 0 < size) (lo limit : Rat) :
    wholeTicks size (⌈lo / (size : Rat)⌉ * size) limit = .ok (multiples size lo limit) := by
  have top : ⌊limit / (size : Rat)⌋ = ⌊limit⌋ / (size : Int) := Int.floor_div_natCast limit size
  have scale : (0 : Int) < size := by exact_mod_cast positive
  rw [wholeTicks, floor_rat, multiples, top]
  generalize ⌈lo / (size : Rat)⌉ = first
  generalize ⌊limit⌋ = last
  dsimp only
  split
  · next short =>
      have none : last / (size : Int) < first := Int.ediv_lt_of_lt_mul scale short
      have empty : (last / (size : Int) + 1 - first).toNat = 0 := by omega
      rw [empty]
      rfl
  · next long =>
      have some : first ≤ last / (size : Int) :=
        (Int.le_ediv_iff_mul_le scale).mpr (not_lt.mp long)
      have parts : (last - first * size) / (size : Int) = last / size - first :=
        Int.sub_mul_ediv_right _ _ scale.ne'
      have count : (last - first * size).toNat / size + 1 =
          (last / (size : Int) + 1 - first).toNat := by
        have whole : (((last - first * size).toNat / size : Nat) : Int) = last / size - first := by
          rw [Int.natCast_ediv, Int.toNat_of_nonneg (by omega), parts]
        omega
      rw [count]
      refine congrArg Except.ok (List.map_congr_left ?_)
      intro index _
      show ((first * size + index * size : Int) : Rat) = ((first + index : Int) : Rat) * size
      push_cast
      ring

/-- The loop stops at the first tick past the limit. -/
theorem added_ticks_eq {size limit : Rat} (left : Nat) {tick : Rat} {count : Nat}
    (enough : count ≤ left) (reach : ∀ index : Nat, tick + index * size ≤ limit ↔ index < count) :
    addedTicks size limit left tick =
      .ok (((List.range count).map fun (index : Nat) => tick + index * size).map
        (roundRat tickPlaces)) := by
  -- by induction on the ticks there are, each of which may be added
  induction count generalizing left tick with
  | zero =>
      have past := reach 0
      rw [Nat.cast_zero, zero_mul, add_zero] at past
      rw [added_ticks_past left (mt past.mp (lt_irrefl 0))]
      rfl
  | succ count ih =>
      obtain ⟨left, rfl⟩ := Nat.exists_eq_add_one_of_ne_zero (Nat.ne_of_gt
        (Nat.lt_of_lt_of_le count.succ_pos enough))
      have first := reach 0
      rw [Nat.cast_zero, zero_mul, add_zero] at first
      have next (index : Nat) :
          tick + size + index * size = tick + (index + 1 : Nat) * size := by
        push_cast
        ring
      have after (index : Nat) : tick + size + index * size ≤ limit ↔ index < count := by
        rw [next, reach, Nat.succ_lt_succ_iff]
      have rest := ih left (Nat.le_of_succ_le_succ enough) after
      rw [added_ticks_step left (first.mpr count.succ_pos), rest, List.range_succ_eq_map]
      simp only [Except.map, List.map_cons, List.map_map, Nat.cast_zero, zero_mul, add_zero]
      refine congrArg (fun ticks => Except.ok (_ :: ticks)) (List.map_congr_left ?_)
      intro index _
      exact congrArg _ (next index)

theorem tick_bound_enough {size lo limit : Rat} (positive : 0 < size) :
    (⌊limit / size⌋ + 1 - ⌈lo / size⌉).toNat ≤
      tickBound size ((⌈lo / size⌉ : Rat) * size) limit := by
  have quotient : (limit - ⌈lo / size⌉ * size) / size = limit / size - ⌈lo / size⌉ := by
    rw [sub_div, mul_div_cancel_right₀ _ positive.ne']
  rw [tickBound, quotient, floor_rat, Int.floor_sub_intCast]
  dsimp only
  omega

theorem added_multiples {size : Rat} (positive : 0 < size) (lo limit : Rat) :
    addedTicks size limit (tickBound size ((⌈lo / size⌉ : Rat) * size) limit)
        ((⌈lo / size⌉ : Rat) * size) =
      .ok ((multiples size lo limit).map (roundRat tickPlaces)) := by
  have place (index : Nat) : (⌈lo / size⌉ : Rat) * size + index * size =
      ((⌈lo / size⌉ + index : Int) : Rat) * size := by
    push_cast
    ring
  rw [added_ticks_eq _ (tick_bound_enough positive), multiples]
  · simp only [place]
  · intro index
    rw [place, ← le_div_iff₀ positive, ← Int.le_floor]
    omega

/-- Ticks run over the multiples from the lower end to half a step past the upper one. -/
theorem ticks_from_rat (step : Step Rat) (positive : 0 < step.size) (interval : Interval Rat) :
    step.ticksFrom interval =
      .ok ((multiples step.size interval.lo (interval.hi + step.size / 2)).map
        (roundRat tickPlaces)) := by
  have half : interval.hi + step.size * 0.5 = interval.hi + step.size / 2 := by
    norm_num
    ring
  simp only [ticksFrom, half, divide_rat positive.ne', ceil_rat, bind, Except.bind]
  cases step with
  | whole size =>
      have value : (Step.whole size : Step Rat).size = size := of_nat_rat size
      rw [value] at positive ⊢
      have unit : IsMultiple (10 ^ (-(tickPlaces : Int))) (size : Rat) := by
        have one := multiple_power (by decide : -(tickPlaces : Int) ≤ 0)
        rw [zpow_zero] at one
        exact one.trans ⟨size, by rw [mul_one, Int.cast_natCast]⟩
      dsimp only
      rw [whole_ticks_eq (by exact_mod_cast positive), rounded_multiples unit]
  | fractional size => exact added_multiples positive _ _

/-! Ticks in view -/

theorem IsNice.multiple_of_power {size : Rat} {power : Int} (nice : IsNice size)
    (least : 10 ^ power ≤ size) : IsMultiple (10 ^ power) size := by
  obtain ⟨exponent, shape⟩ := nice.cases
  have scale : (0 : Rat) < 10 ^ exponent := by positivity
  have order : power ≤ exponent := by
    by_contra above
    have apart := decades_apart (not_le.mp above)
    rcases shape with rfl | rfl | rfl <;> linarith
  refine (multiple_power order).trans ?_
  rcases shape with rfl | rfl | rfl
  · exact ⟨1, by norm_num⟩
  · exact .mul_right 2
  · exact .mul_right 5

section View

variable {size lo hi : Rat}

/-- Half a step of tolerance lets no tick past the end that is less than half a step past the last
multiple, and one past any other. -/
theorem within_iff (positive : 0 < size) (order : lo ≤ hi) :
    (∀ tick ∈ multiples size lo (hi + size / 2), tick ≤ hi) ↔ Int.fract (hi / size) < 1 / 2 := by
  have parts : Int.fract (hi / size) = hi / size - ⌊hi / size⌋ := rfl
  have listed := (lists_multiples positive : Lists size lo (hi + size / 2) _)
  constructor
  · intro within
    by_contra high
    have past : hi < ((⌊hi / size⌋ + 1 : Int) : Rat) * size := by
      rw [← div_lt_iff₀ positive]
      exact_mod_cast Int.lt_floor_add_one (hi / size)
    have reached : ((⌊hi / size⌋ + 1 : Int) : Rat) * size ≤ hi + size / 2 := by
      have sum : (hi + size / 2) / size = hi / size + 1 / 2 := by
        field_simp
      rw [← le_div_iff₀ positive, sum]
      push_cast
      linarith
    have among := (listed.mem_iff _).mpr ⟨.mul_right _, by linarith, reached⟩
    exact absurd (within _ among) (not_le.mpr past)
  · intro low tick among
    obtain ⟨⟨count, rfl⟩, _, below⟩ := (listed.mem_iff tick).mp among
    have sum : hi + size / 2 = (hi / size + 1 / 2) * size := by
      field_simp
    rw [sum] at below
    have close : (count : Rat) < (⌊hi / size⌋ + 1 : Int) := by
      have most := le_of_mul_le_mul_right below positive
      push_cast
      linarith
    have last : count ≤ ⌊hi / size⌋ := Int.le_of_lt_add_one (by exact_mod_cast close)
    exact (le_div_iff₀ positive).mp (Int.le_floor.mp last)

/-- A step below the grid has two multiples in view that cannot both be on it. -/
theorem Lists.coarse {places : Nat} {others : List Rat} (positive : 0 < size)
    (long : 2 * size ≤ hi - lo) (lists : Lists size lo hi (others.map (roundRat places))) :
    10 ^ (-(places : Int)) ≤ size := by
  have first : IsMultiple size (⌈lo / size⌉ * size) := .mul_right _
  have second : IsMultiple size ((⌈lo / size⌉ + 1 : Int) * size) := .mul_right _
  have next : ((⌈lo / size⌉ + 1 : Int) : Rat) * size = ⌈lo / size⌉ * size + size := by
    push_cast
    ring
  have least : lo ≤ ⌈lo / size⌉ * size := (div_le_iff₀ positive).mp (Int.le_ceil _)
  have most : (⌈lo / size⌉ : Rat) * size < lo + size := by
    have close := mul_lt_mul_of_pos_right (Int.ceil_lt_add_one (lo / size)) positive
    rwa [add_mul, div_mul_cancel₀ _ positive.ne', one_mul] at close
  -- whatever is listed has been rounded
  have kept {tick : Rat} (one : IsMultiple size tick) (above : lo ≤ tick) (below : tick ≤ hi) :
      IsMultiple (10 ^ (-(places : Int))) tick := by
    obtain ⟨other, _, rfl⟩ := List.mem_map.mp ((lists.mem_iff tick).mpr ⟨one, above, below⟩)
    exact round_rat_multiple places other
  have apart := (kept first least (by linarith)).apart (by positivity)
    (kept second (by linarith) (by linarith)) (by linarith)
  linarith

/-- The rounded multiples up to half a step past the end are those in view exactly when the end is
less than half a step past the last of them and the step is on the grid of the rounding. -/
theorem rounded_lists_iff {places : Nat} (nice : IsNice size) (order : lo ≤ hi)
    (long : 10 ^ (-(places : Int)) ≤ size ∨ 2 * size ≤ hi - lo) :
    Lists size lo hi ((multiples size lo (hi + size / 2)).map (roundRat places)) ↔
      Int.fract (hi / size) < 1 / 2 ∧ 10 ^ (-(places : Int)) ≤ size := by
  have positive := nice.positive
  have listed := (lists_multiples positive : Lists size lo (hi + size / 2) _)
  constructor
  · intro lists
    have coarse : 10 ^ (-(places : Int)) ≤ size := long.elim id (lists.coarse positive)
    refine ⟨(within_iff positive order).mp ?_, coarse⟩
    rw [rounded_multiples (nice.multiple_of_power coarse)] at lists
    intro tick among
    exact ((lists.mem_iff tick).mp among).2.2
  · rintro ⟨low, coarse⟩
    rw [rounded_multiples (nice.multiple_of_power coarse)]
    refine ⟨listed.ascending, fun tick => ?_⟩
    constructor
    · intro among
      obtain ⟨one, above, _⟩ := (listed.mem_iff tick).mp among
      exact ⟨one, above, (within_iff positive order).mpr low tick among⟩
    · rintro ⟨one, above, below⟩
      exact (listed.mem_iff tick).mpr ⟨one, above, by linarith⟩

end View

end Step

/-- The ticks of an interval are multiples of its step, the least nice one. -/
theorem Interval.ticks_rat {interval : Interval Rat} {most : Int} (long : 0 < interval.span)
    (some : 0 < most) :
    ∃ step : Step Rat, Step.nice interval.span most = .ok step ∧
      Step.IsLeastNice (interval.span / most) step.size ∧
      interval.ticks most = .ok
        ((Step.multiples step.size interval.lo (interval.hi + step.size / 2)).map
          (roundRat Step.tickPlaces)) := by
  obtain ⟨step, made, best⟩ := Step.nice_rat long some
  refine ⟨step, made, best, ?_⟩
  rw [Interval.ticks, made]
  exact Step.ticks_from_rat step best.1.1.positive interval

end FormulaPlot
