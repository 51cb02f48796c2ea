import FormulaPlot.Numeric.Scalar
import FormulaPlot.Proofs.Decimal.Grid

/-!
Scalars without rounding. Over the rationals the operations of scalars are the exact ones, and
rounding to decimal places moves exactly the numbers that are not on their grid.
-/

namespace FormulaPlot

open FormulaPlot.Decimal

set_option autoImplicit false

namespace Scalar

theorem zero_rat : (zero : Rat) = 0 := by
  show (0.0 : Rat) = 0
  norm_num

theorem of_nat_rat (number : Nat) : (ofNat number : Rat) = number := Int.cast_natCast number

theorem abs_rat (value : Rat) : Scalar.abs value = |value| := by
  show value.abs = |value|
  rcases le_total 0 value with positive | negative
  · rw [Rat.abs_of_nonneg positive, abs_of_nonneg positive]
  · rw [Rat.abs_of_nonpos negative, abs_of_nonpos negative]

theorem divide_rat {numerator denominator : Rat} (nonzero : denominator ≠ 0) :
    divide numerator denominator = .ok (numerator / denominator) := by
  have other : isZero denominator = false := by
    rw [isZero, zero_rat, ← Bool.decide_and, decide_eq_false_iff_not]
    exact fun both => nonzero (le_antisymm both.1 both.2)
  rw [divide, other]
  rfl

theorem to_whole_rat (round : Rat → Int) (value : Rat) :
    toWhole round value = .ok (round value) := by
  have read : Scalar.read value = .ofRat value := rfl
  rw [toWhole, read]
  simp only [Extended.ofRat, decide_eq_true_eq]
  split
  · next negative => rw [Rat.abs_of_nonpos negative.le, neg_neg]
  · next positive => rw [Rat.abs_of_nonneg (not_lt.mp positive)]

theorem floor_rat (value : Rat) : floor value = .ok (Int.floor value) :=
  to_whole_rat Rat.floor value

theorem ceil_rat (value : Rat) : ceil value = .ok (Int.ceil value) := by
  have same : Rat.ceil value = Int.ceil value :=
    eq_of_forall_ge_iff fun bound => Rat.ceil_le_iff.trans Int.ceil_le.symm
  rw [ceil, to_whole_rat, same]

end Scalar

/-! Rounding to decimal places -/

section Places

variable {places : Nat} {value : Rat}

theorem round_rat_eq (places : Nat) (value : Rat) :
    roundRat places value =
      if value < 0 then -rounded places value.abs else rounded places value.abs := by
  have quotient (count : Nat) :
      mkRat count (Nat.pow 10 places) = count * powerOfTen (-(places : Int)) := by
    rw [power_of_ten_eq, zpow_neg, zpow_natCast, Rat.mkRat_eq_div, div_eq_mul_inv]
    congr 2
    exact Nat.cast_pow 10 places
  rw [roundRat, quotient]
  rfl

theorem round_rat_multiple (places : Nat) (value : Rat) :
    IsMultiple (10 ^ (-(places : Int))) (roundRat places value) := by
  have on : IsMultiple (10 ^ (-(places : Int))) (rounded places value.abs) := by
    rw [rounded_eq]
    exact .mul_right (units value.abs places : Int)
  rw [round_rat_eq]
  split
  · exact on.neg
  · exact on

theorem round_rat_self (on : IsMultiple (10 ^ (-(places : Int))) value) :
    roundRat places value = value := by
  rw [round_rat_eq]
  split
  · next negative =>
      rw [Rat.abs_of_nonpos negative.le, rounded_self (neg_nonneg.mpr negative.le) on.neg, neg_neg]
  · next positive =>
      rw [Rat.abs_of_nonneg (not_lt.mp positive), rounded_self (not_lt.mp positive) on]

end Places

end FormulaPlot
