import FormulaPlot.Decimal.Rounding
import Mathlib

/-!
Decimal grids. A magnitude counted in units of a power of ten is the nearest whole count, a half
going to the even one, so that counts keep the order of the magnitudes; the leading exponent of a
magnitude is that of the decade it lies in.
-/

namespace FormulaPlot.Decimal

set_option autoImplicit false

/-! Nearest whole numbers -/

/-- The nearest whole number, of two the even one. -/
structure IsNearest (whole : Nat) (number : Rat) : Prop where
  below : (whole : Rat) ≤ number + 1 / 2
  above : number ≤ whole + 1 / 2
  even : (whole : Rat) = number + 1 / 2 ∨ number = whole + 1 / 2 → whole % 2 = 0

namespace IsNearest

variable {whole other : Nat} {number more : Rat}

theorem mono (first : IsNearest whole number) (second : IsNearest other more)
    (least : number ≤ more) : whole ≤ other := by
  by_contra greater
  have step : (other : Rat) + 1 ≤ whole := by exact_mod_cast Nat.succ_le_of_lt (not_le.mp greater)
  have below := first.below
  have above := second.above
  -- both are ties, between neighbours
  have tie : (whole : Rat) = number + 1 / 2 := by linarith
  have turn : more = other + 1 / 2 := by linarith
  have next : (whole : Rat) = (other + 1 : Nat) := by
    push_cast
    linarith
  have same : whole = other + 1 := Nat.cast_injective next
  have one := first.even (.inl tie)
  have two := second.even (.inr turn)
  omega

theorem self (whole : Nat) : IsNearest whole (whole : Rat) := by
  constructor
  · linarith
  · linarith
  · rintro (tie | tie) <;> linarith

theorem error (nearest : IsNearest whole number) : |(whole : Rat) - number| ≤ 1 / 2 := by
  have below := nearest.below
  have above := nearest.above
  rw [abs_le]
  constructor <;> linarith

/-! The whole numbers next to one with a fraction -/

variable {rest : Rat}

theorem of_small (whole : Nat) (least : 0 ≤ rest) (small : rest < 1 / 2) :
    IsNearest whole (whole + rest) := by
  constructor
  · linarith
  · linarith
  · rintro (tie | tie) <;> linarith

theorem of_large (whole : Nat) (large : 1 / 2 < rest) (most : rest < 1) :
    IsNearest (whole + 1) (whole + rest) := by
  have next : ((whole + 1 : Nat) : Rat) = whole + 1 := Nat.cast_succ whole
  constructor
  · linarith
  · linarith
  · rintro (tie | tie) <;> linarith

theorem of_half (whole : Nat) : IsNearest (whole + whole % 2) (whole + 1 / 2) := by
  have least : (0 : Rat) ≤ (whole % 2 : Nat) := Nat.cast_nonneg _
  have most : ((whole % 2 : Nat) : Rat) ≤ 1 := by
    exact_mod_cast Nat.le_of_lt_succ (Nat.mod_lt whole two_pos)
  have sum : ((whole + whole % 2 : Nat) : Rat) = whole + (whole % 2 : Nat) := Nat.cast_add _ _
  constructor
  · linarith
  · linarith
  · intro _
    omega

end IsNearest

theorem round_quotient_nearest (numerator : Nat) {denominator : Nat} (positive : 0 < denominator) :
    IsNearest (roundQuotient numerator denominator) ((numerator : Rat) / denominator) := by
  have scale : (0 : Rat) < denominator := Nat.cast_pos.mpr positive
  have parts : (denominator : Rat) * (numerator / denominator : Nat) +
      (numerator % denominator : Nat) = numerator := by
    exact_mod_cast Nat.div_add_mod numerator denominator
  have split : (numerator : Rat) / denominator = (numerator / denominator : Nat) +
      (numerator % denominator : Nat) / denominator := by
    rw [← parts]
    field_simp
  have least : (0 : Rat) ≤ (numerator % denominator : Nat) / denominator := by positivity
  have most : ((numerator % denominator : Nat) : Rat) / denominator < 1 := by
    rw [div_lt_one scale]
    exact_mod_cast Nat.mod_lt _ positive
  unfold roundQuotient
  dsimp only
  rw [split]
  generalize share : ((numerator % denominator : Nat) : Rat) / denominator = rest at least most
  split
  · next small =>
      have cast : ((2 * (numerator % denominator) : Nat) : Rat) < denominator := by
        exact_mod_cast small
      have less : rest < 1 / 2 := by
        rw [← share, div_lt_div_iff₀ scale two_pos]
        push_cast at cast
        linarith
      exact .of_small _ least less
  · split
    · next large =>
        have cast : (denominator : Rat) < (2 * (numerator % denominator) : Nat) := by
          exact_mod_cast large
        have greater : 1 / 2 < rest := by
          rw [← share, div_lt_div_iff₀ two_pos scale]
          push_cast at cast
          linarith
        exact .of_large _ greater most
    · next small large =>
        have same : 2 * (numerator % denominator) = denominator := by omega
        have cast : ((2 * (numerator % denominator) : Nat) : Rat) = denominator := by
          exact_mod_cast congrArg Nat.cast same
        have half : rest = 1 / 2 := by
          rw [← share, div_eq_div_iff scale.ne' two_ne_zero]
          push_cast at cast
          linarith
        rw [half]
        exact .of_half _

/-! Counts -/

theorem power_of_ten_eq (exponent : Int) : powerOfTen exponent = (10 : Rat) ^ exponent := by
  cases exponent with
  | ofNat exponent =>
      show ((Nat.pow 10 exponent : Nat) : Rat) = 10 ^ (exponent : Int)
      rw [zpow_natCast]
      exact Nat.cast_pow 10 exponent
  | negSucc exponent =>
      show mkRat 1 (Nat.pow 10 (exponent + 1)) = _
      rw [zpow_negSucc, Rat.mkRat_eq_div, Int.cast_one, one_div]
      exact congrArg _ (Nat.cast_pow 10 _)

theorem magnitude_parts {magnitude : Rat} (least : 0 ≤ magnitude) :
    (magnitude.num.natAbs : Rat) / magnitude.den = magnitude := by
  have size : (magnitude.num.natAbs : Int) = magnitude.num :=
    Int.natAbs_of_nonneg (Rat.num_nonneg.mpr least)
  have cast : ((magnitude.num.natAbs : Int) : Rat) = magnitude.num := congrArg _ size
  rw [Int.cast_natCast] at cast
  rw [cast, Rat.num_div_den]

/-- Both counts come from one quotient. -/
theorem quotient_of_units {magnitude : Rat} (least : 0 ≤ magnitude) (places : Int) :
    ∃ numerator denominator, 0 < denominator ∧
      units magnitude places = roundQuotient numerator denominator ∧
      wholeUnits magnitude places = numerator / denominator ∧
      (numerator : Rat) / denominator = magnitude * 10 ^ places := by
  have parts := magnitude_parts least
  have power (exponent : Nat) : ((Nat.pow 10 exponent : Nat) : Rat) = 10 ^ exponent :=
    Nat.cast_pow 10 exponent
  cases places with
  | ofNat places =>
      refine ⟨magnitude.num.natAbs * Nat.pow 10 places, magnitude.den, magnitude.den_pos, rfl,
        rfl, ?_⟩
      rw [Nat.cast_mul, power, mul_div_right_comm, parts, Int.ofNat_eq_natCast, zpow_natCast]
  | negSucc places =>
      refine ⟨magnitude.num.natAbs, magnitude.den * Nat.pow 10 (places + 1),
        Nat.mul_pos magnitude.den_pos (Nat.pow_pos (by decide)), rfl, rfl, ?_⟩
      rw [Nat.cast_mul, power, ← div_div, parts, zpow_negSucc, div_eq_mul_inv]

theorem units_nearest {magnitude : Rat} (least : 0 ≤ magnitude) (places : Int) :
    IsNearest (units magnitude places) (magnitude * 10 ^ places) := by
  obtain ⟨numerator, denominator, positive, rounded, _, value⟩ := quotient_of_units least places
  rw [rounded, ← value]
  exact round_quotient_nearest numerator positive

theorem whole_units_zero_iff {magnitude : Rat} (least : 0 ≤ magnitude) (places : Int) :
    wholeUnits magnitude places = 0 ↔ magnitude * 10 ^ places < 1 := by
  obtain ⟨numerator, denominator, positive, _, cut, value⟩ := quotient_of_units least places
  have scale : (0 : Rat) < denominator := Nat.cast_pos.mpr positive
  rw [cut, Nat.div_eq_zero_iff_lt positive, ← value, div_lt_one scale]
  exact Nat.cast_lt.symm

/-! Decades -/

theorem digit_count_spec {number : Nat} (positive : 0 < number) :
    10 ^ (digitCount number - 1) ≤ number ∧ number < 10 ^ digitCount number := by
  have some : 0 < digitCount number := Nat.length_toDigits_pos
  refine ⟨?_, (Nat.length_toDigits_le_iff (by decide) some).mp le_rfl⟩
  by_contra below
  have less : number < 10 ^ (digitCount number - 1) := not_le.mp below
  rcases Nat.eq_zero_or_pos (digitCount number - 1) with one | more
  · rw [one] at less
    omega
  · have short := (Nat.length_toDigits_le_iff (by decide) more).mpr less
    have same : (Nat.toDigits 10 number).length = digitCount number := rfl
    omega

/-- A magnitude lies in the decade of its leading exponent. -/
theorem leading_exponent_spec {magnitude : Rat} (positive : 0 < magnitude) :
    10 ^ leadingExponent magnitude ≤ magnitude ∧
      magnitude < 10 ^ (leadingExponent magnitude + 1) := by
  have numerator : 0 < magnitude.num.natAbs :=
    Int.natAbs_pos.mpr (Rat.num_pos.mpr positive).ne'
  obtain ⟨numLeast, numMost⟩ := digit_count_spec numerator
  obtain ⟨denLeast, denMost⟩ := digit_count_spec magnitude.den_pos
  have someDen : 0 < digitCount magnitude.den := Nat.length_toDigits_pos
  have someNum : 0 < digitCount magnitude.num.natAbs := Nat.length_toDigits_pos
  have parts := magnitude_parts positive.le
  have scale : (0 : Rat) < magnitude.den := Nat.cast_pos.mpr magnitude.den_pos
  unfold leadingExponent
  dsimp only
  generalize estimated : (digitCount magnitude.num.natAbs : Int) - digitCount magnitude.den =
    estimate
  have above : magnitude < 10 ^ (estimate + 1) := by
    rw [← parts, div_lt_iff₀ scale]
    calc (magnitude.num.natAbs : Rat)
        < 10 ^ digitCount magnitude.num.natAbs := by exact_mod_cast numMost
      _ = (10 : Rat) ^ (estimate + 1) * 10 ^ (digitCount magnitude.den - 1) := by
        rw [← zpow_natCast, ← zpow_natCast, ← zpow_add₀ (by decide)]
        congr 1
        omega
      _ ≤ 10 ^ (estimate + 1) * magnitude.den := by
        have cast : (10 : Rat) ^ (digitCount magnitude.den - 1) ≤ magnitude.den := by
          exact_mod_cast denLeast
        gcongr
  have below : (10 : Rat) ^ (estimate - 1) ≤ magnitude := by
    have cast : (magnitude.den : Rat) ≤ 10 ^ digitCount magnitude.den := by
      exact_mod_cast denMost.le
    rw [← parts, le_div_iff₀ scale]
    calc (10 : Rat) ^ (estimate - 1) * magnitude.den
        ≤ 10 ^ (estimate - 1) * 10 ^ digitCount magnitude.den := by gcongr
      _ = 10 ^ (digitCount magnitude.num.natAbs - 1) := by
        rw [← zpow_natCast, ← zpow_natCast, ← zpow_add₀ (by decide)]
        congr 1
        omega
      _ ≤ magnitude.num.natAbs := by exact_mod_cast numLeast
  have power : (0 : Rat) < 10 ^ estimate := by positivity
  split
  · next none =>
      have less := (whole_units_zero_iff positive.le (-estimate)).mp none
      rw [zpow_neg, ← div_eq_mul_inv, div_lt_one power] at less
      rw [Int.sub_add_cancel]
      exact ⟨below, less⟩
  · next some =>
      have more := mt (whole_units_zero_iff positive.le (-estimate)).mpr some
      rw [zpow_neg, ← div_eq_mul_inv, div_lt_one power, not_lt] at more
      exact ⟨more, above⟩

/-! Rounding to a grid -/

/-- A whole number of units away from zero. -/
def IsMultiple (unit value : Rat) : Prop := ∃ count : Int, value = count * unit

section Multiple

variable {unit value other : Rat}

theorem IsMultiple.mul_right (count : Int) : IsMultiple unit (count * unit) := ⟨count, rfl⟩

theorem IsMultiple.neg (on : IsMultiple unit value) : IsMultiple unit (-value) := by
  obtain ⟨count, rfl⟩ := on
  exact ⟨-count, by rw [Int.cast_neg, neg_mul]⟩

/-- The multiples of a multiple. -/
theorem IsMultiple.trans (on : IsMultiple unit value) (more : IsMultiple value other) :
    IsMultiple unit other := by
  obtain ⟨count, rfl⟩ := on
  obtain ⟨times, rfl⟩ := more
  exact ⟨times * count, by rw [Int.cast_mul, mul_assoc]⟩

/-- Different multiples are a whole unit apart. -/
theorem IsMultiple.apart (positive : 0 < unit) (on : IsMultiple unit value)
    (also : IsMultiple unit other) (less : value < other) : value + unit ≤ other := by
  obtain ⟨count, rfl⟩ := on
  obtain ⟨next, rfl⟩ := also
  have counts : count < next := by exact_mod_cast lt_of_mul_lt_mul_right less positive.le
  have step : (count : Rat) + 1 ≤ next := by exact_mod_cast counts
  calc (count : Rat) * unit + unit = (count + 1) * unit := by ring
    _ ≤ next * unit := by gcongr

theorem multiple_power {finer coarser : Int} (order : finer ≤ coarser) :
    IsMultiple (10 ^ finer) (10 ^ coarser) := by
  obtain ⟨exponent, whole⟩ := Int.eq_ofNat_of_zero_le (Int.sub_nonneg.mpr order)
  refine ⟨(10 ^ exponent : Nat), ?_⟩
  have sum : coarser = exponent + finer := by omega
  rw [sum, zpow_add₀ (by decide), zpow_natCast]
  push_cast
  rfl

end Multiple

/-- A magnitude rounded to so many places. -/
def rounded (places : Int) (magnitude : Rat) : Rat :=
  units magnitude places * powerOfTen (-places)

section Rounded

variable {places others power : Int} {magnitude greater : Rat}

theorem rounded_eq (places : Int) (magnitude : Rat) :
    rounded places magnitude = units magnitude places * 10 ^ (-places) := by
  rw [rounded, power_of_ten_eq]

theorem rounded_nonneg (places : Int) (magnitude : Rat) : 0 ≤ rounded places magnitude := by
  rw [rounded_eq]
  positivity

theorem rounded_error (least : 0 ≤ magnitude) :
    |rounded places magnitude - magnitude| ≤ 10 ^ (-places) / 2 := by
  have error := (units_nearest least places).error
  have scale : (0 : Rat) < 10 ^ (-places) := by positivity
  have value : rounded places magnitude - magnitude =
      (units magnitude places - magnitude * 10 ^ places) * 10 ^ (-places) := by
    have cancel : (10 : Rat) ^ places * 10 ^ (-places) = 1 := by
      rw [← zpow_add₀ (by decide), Int.add_right_neg, zpow_zero]
    rw [rounded_eq, sub_mul, mul_assoc, cancel, mul_one]
  rw [value, abs_mul, abs_of_pos scale]
  calc |(units magnitude places : Rat) - magnitude * 10 ^ places| * 10 ^ (-places)
      ≤ 1 / 2 * 10 ^ (-places) := by gcongr
    _ = 10 ^ (-places) / 2 := by ring

theorem rounded_mono (least : 0 ≤ magnitude) (order : magnitude ≤ greater) :
    rounded places magnitude ≤ rounded places greater := by
  have counts := (units_nearest least places).mono (units_nearest (least.trans order) places)
    (by gcongr)
  rw [rounded_eq, rounded_eq]
  gcongr

/-- What is on the grid is kept. -/
theorem rounded_self (least : 0 ≤ magnitude) (on : IsMultiple (10 ^ (-places)) magnitude) :
    rounded places magnitude = magnitude := by
  obtain ⟨count, rfl⟩ := on
  have scale : (0 : Rat) < 10 ^ (-places) := by positivity
  have positive : 0 ≤ count := by exact_mod_cast nonneg_of_mul_nonneg_left least scale
  obtain ⟨number, rfl⟩ := Int.eq_ofNat_of_zero_le positive
  have counted : ((number : Int) : Rat) * 10 ^ (-places) * 10 ^ places = number := by
    rw [mul_assoc, ← zpow_add₀ (by decide), Int.add_left_neg, zpow_zero, mul_one,
      Int.cast_natCast]
  have nearest := units_nearest least places
  rw [counted] at nearest
  have same : units (((number : Int) : Rat) * 10 ^ (-places)) places = number :=
    le_antisymm (nearest.mono (.self _) le_rfl) ((IsNearest.self _).mono nearest le_rfl)
  rw [rounded_eq, same, Int.cast_natCast]

/-- Powers of ten on the grid are kept. -/
theorem rounded_power (on : 0 ≤ power + places) : rounded places (10 ^ power) = 10 ^ power :=
  rounded_self (by positivity) (multiple_power (by omega))

/-- Rounding to two grids keeps the order across a power of ten that is on both of them. -/
theorem rounded_across (least : 0 ≤ magnitude) (low : magnitude ≤ 10 ^ power)
    (high : 10 ^ power ≤ greater) (on : 0 ≤ power + places) (also : 0 ≤ power + others) :
    rounded places magnitude ≤ rounded others greater := by
  calc rounded places magnitude
      ≤ rounded places (10 ^ power) := rounded_mono least low
    _ = rounded others (10 ^ power) := by rw [rounded_power on, rounded_power also]
    _ ≤ rounded others greater := rounded_mono (by positivity) high

end Rounded

end FormulaPlot.Decimal
