import FormulaPlot.Proofs.Numeric.Fields

/-!
Opposite doubles. They have the same size and are finite together, and a quotient keeps its value
when its parts are replaced by their opposites.
-/

namespace FormulaPlot.Binary64

open Float.Model Float.Model.UnpackedFloat

set_option autoImplicit false

theorem opened_neg (value : Float) : opened (-value) = (opened value).neg := by
  have packed := unpack_pack_neg (opened value)
  have kept := unpack_pack_unpack value.toModel.toBits.toBitVec
  rw [opened, Float.Model.unpack, kept] at packed
  exact packed

theorem finite_neg (value : Float) : (-value).isFinite = value.isFinite := by
  show (opened (-value)).isFinite = (opened value).isFinite
  rw [opened_neg]
  cases opened value <;> rfl

theorem abs_neg (value : Float) : (-value).abs = value.abs := by
  have same : (opened (-value)).abs = (opened value).abs := by
    rw [opened_neg]
    cases opened value <;> rfl
  exact eq_of_model (congrArg Float.Model.pack same)

theorem positive_neg_iff (value : Float) : 0.0 < -value ↔ value < 0.0 := by
  rw [lt_iff, lt_iff, opened_neg, opened_zero]
  cases opened value with
  | notANumber => exact Iff.rfl
  | infinity sign => cases sign <;> decide
  | zero sign => cases sign <;> decide
  | finite sign mantissa exponent positive => cases sign <;> exact Iff.rfl

theorem negative_neg_iff (value : Float) : -value < 0.0 ↔ 0.0 < value := by
  rw [lt_iff, lt_iff, opened_neg, opened_zero]
  cases opened value with
  | notANumber => exact Iff.rfl
  | infinity sign => cases sign <;> decide
  | zero sign => cases sign <;> decide
  | finite sign mantissa exponent positive => cases sign <;> exact Iff.rfl

theorem not_negative_of_positive {value : Float} (above : 0.0 < value) : ¬value < 0.0 := by
  rw [lt_iff, opened_zero] at above ⊢
  generalize opened value = unpacked at above
  cases unpacked with
  | notANumber => exact nofun
  | infinity sign =>
      cases sign with
      | positive => exact nofun
      | negative => exact absurd above nofun
  | zero sign => exact nofun
  | finite sign mantissa exponent positive =>
      cases sign with
      | positive => exact nofun
      | negative => exact absurd above nofun

theorem round_neg (sign : Sign) (mantissa : Nat) (exponent : Int) :
    UnpackedFloat.round format (-sign) mantissa exponent =
      (UnpackedFloat.round format sign mantissa exponent).neg := by
  unfold UnpackedFloat.round roundWithAccuracy
  dsimp only
  split <;> rfl

/-- Away from zero, a number and its opposite are rounded alike. -/
theorem normalize_neg {mantissa : Int} (nonzero : mantissa ≠ 0) (exponent : Int) (zero : Sign) :
    UnpackedFloat.normalize format (-mantissa) exponent zero =
      (UnpackedFloat.normalize format mantissa exponent zero).neg := by
  unfold UnpackedFloat.normalize
  rcases Int.lt_or_gt_of_ne nonzero with below | above
  · have turned : compare (-mantissa) 0 = .gt := Int.compare_eq_gt.mpr (by omega)
    rw [turned, Int.compare_eq_lt.mpr below]
    exact round_neg .negative _ exponent
  · have turned : compare (-mantissa) 0 = .lt := Int.compare_eq_lt.mpr (by omega)
    rw [turned, Int.compare_eq_gt.mpr above]
    dsimp only
    rw [Int.neg_neg]
    exact round_neg .positive _ exponent

theorem apply_neg (sign : Sign) (magnitude : Int) :
    (-sign).apply magnitude = -sign.apply magnitude := by
  cases sign
  · exact (Int.neg_neg magnitude).symm
  · rfl

theorem neg_div_neg_sign (first second : Sign) : -first / -second = first / second := by
  cases first <;> cases second <;> rfl

/-- The difference of two opposites is the opposite difference, unless both differences are a
positive zero. -/
theorem sub_neg_neg (first second : UnpackedFloat) :
    UnpackedFloat.sub format first.neg second.neg =
        (UnpackedFloat.sub format first second).neg ∨
      UnpackedFloat.sub format first.neg second.neg = .zero .positive ∧
        UnpackedFloat.sub format first second = .zero .positive := by
  cases first with
  | notANumber => cases second <;> exact .inl rfl
  | infinity sign =>
      cases second with
      | infinity other => cases sign <;> cases other <;> exact .inl rfl
      | _ => exact .inl rfl
  | zero sign =>
      cases second with
      | zero other =>
          cases sign <;> cases other
          · exact .inr ⟨rfl, rfl⟩
          · exact .inl rfl
          · exact .inl rfl
          · exact .inr ⟨rfl, rfl⟩
      | _ => exact .inl rfl
  | finite sign mantissa exponent positive =>
      cases second with
      | finite other size power large =>
          simp only [UnpackedFloat.neg, UnpackedFloat.sub, apply_neg]
          generalize sign.apply _ = left
          generalize other.apply _ = right
          have turned : -left - -right = -(left - right) := by omega
          rw [turned]
          by_cases equal : left - right = 0
          · rw [equal]
            exact .inr ⟨rfl, rfl⟩
          · exact .inl (normalize_neg equal _ _)
      | _ => exact .inl rfl

theorem div_neg_neg (first second : UnpackedFloat) :
    UnpackedFloat.div format first.neg second.neg = UnpackedFloat.div format first second := by
  cases first <;> cases second <;>
    simp only [UnpackedFloat.neg, UnpackedFloat.div, neg_div_neg_sign]

theorem div_zero (first : UnpackedFloat) (sign : Sign) :
    UnpackedFloat.div format first (.zero sign) = .notANumber ∨
      ∃ other, UnpackedFloat.div format first (.zero sign) = .infinity other := by
  cases first with
  | notANumber => exact .inl rfl
  | infinity other => exact .inr ⟨_, rfl⟩
  | zero other => exact .inl rfl
  | finite other mantissa exponent positive => exact .inr ⟨_, rfl⟩

theorem not_finite_div {first second : Float} {sign : Sign}
    (zero : opened second = .zero sign) : (first / second).isFinite = false := by
  show (UnpackedFloat.unpack format (UnpackedFloat.pack format
    (UnpackedFloat.div format (opened first) (opened second)))).isFinite = false
  rw [zero]
  rcases div_zero (opened first) sign with undefined | ⟨other, infinite⟩
  · rw [undefined]
    decide
  · rw [infinite]
    cases other <;> decide

theorem opened_sub (first second : Float) :
    opened (first - second) = UnpackedFloat.unpack format
      (UnpackedFloat.pack format (UnpackedFloat.sub format (opened first) (opened second))) := rfl

/-- A number divided by its distance from another one is the same for their opposites, as far as
it is finite. -/
theorem share_neg (first second : Float) :
    -first / (-first - -second) = first / (first - second) ∨
      (-first / (-first - -second)).isFinite = false ∧
        (first / (first - second)).isFinite = false := by
  rcases sub_neg_neg (opened first) (opened second) with opposite | ⟨turned, straight⟩
  · have difference : opened (-first - -second) = (opened (first - second)).neg := by
      rw [opened_sub, opened_sub, opened_neg, opened_neg, opposite, unpack_pack_neg]
    refine .inl (eq_of_model ?_)
    show Float.Model.pack (UnpackedFloat.div format (opened (-first)) (opened (-first - -second))) =
      Float.Model.pack (UnpackedFloat.div format (opened first) (opened (first - second)))
    rw [difference, opened_neg, div_neg_neg]
  · have turnedZero : opened (-first - -second) = .zero .positive := by
      rw [opened_sub, opened_neg, opened_neg, turned]
      rfl
    have straightZero : opened (first - second) = .zero .positive := by
      rw [opened_sub, straight]
      rfl
    exact .inr ⟨not_finite_div turnedZero, not_finite_div straightZero⟩

end FormulaPlot.Binary64
