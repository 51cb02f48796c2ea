import FormulaPlot.Proofs.Numeric.Order

/-!
Counts as doubles. Adding a half takes no finite double out of range, so that each can be rounded
half up, and no count from one on is a zero.
-/

namespace FormulaPlot.Binary64

open Float.Model Float.Model.UnpackedFloat

set_option autoImplicit false

/-! Adding a half -/

/-- The last bit that is shifted out. -/
theorem shifted_round_bit (shift : Nat) (extended : ExtendedMantissa) :
    (extended >>> (shift + 1)).roundBit = (extended.mantissa / 2 ^ shift % 2 != 0) := by
  rw [← shifted_mantissa]
  rfl

theorem rounded_of_clear {extended : ExtendedMantissa} (clear : extended.roundBit = false) :
    extended.roundedMantissa = extended.mantissa := by
  obtain ⟨mantissa, round, sticky⟩ := extended
  cases clear
  cases sticky <;> rfl

/-- A mantissa of more than 53 bits is cut, and keeps its size unless rounding runs over. -/
theorem round_without_carry (sign : Sign) {mantissa : Nat} (shift : Nat) (exponent : Int)
    {limit : Int} (long : 2 ^ (52 + shift) ≤ mantissa) (size : mantissa < 2 ^ (53 + shift))
    (kept : (ExtendedMantissa.ofMantissaAndAccuracy mantissa .exact >>> shift).roundedMantissa <
      2 ^ 53)
    (least : -1074 ≤ exponent + shift) (total : exponent + shift ≤ limit) :
    Bounded limit (UnpackedFloat.round format sign mantissa exponent) := by
  have positive : mantissa ≠ 0 := (Nat.lt_of_lt_of_le (Nat.two_pow_pos _) long).ne'
  have bits : 52 + shift + 1 = 53 + shift := by omega
  have log : mantissa.log2 = 52 + shift := (Nat.log2_eq_iff positive).mpr ⟨long, bits ▸ size⟩
  have aim : target mantissa exponent = exponent + shift := by
    unfold target
    omega
  have same : format.targetExponent (totalExponent mantissa exponent) = exponent + shift :=
    (target_exponent_eq _).trans aim
  have raised : (exponent - (exponent + shift)).toNat = 0 := by omega
  have lowered : (target mantissa exponent - exponent).toNat = shift := by omega
  unfold UnpackedFloat.round decreaseExponent
  dsimp only
  rw [same, raised, Nat.shiftLeft_zero, Int.natCast_zero, Int.sub_zero, roundWithAccuracy,
    shift_to_target .exact (by omega), lowered, aim]
  unfold shiftToTargetExponent shiftToExponent
  dsimp only
  have log := log_lt kept (by decide)
  split
  · trivial
  · simp only [target_exponent_eq, totalExponent, Bounded]
    omega

theorem half_opened : opened 0.5 = .finite .positive (2 ^ 52) (-53) (by decide) := rfl

section Half

variable {mantissa shift : Nat}

/-- Far below the last bit of a mantissa, a half is cut off again. -/
theorem half_above (sign : Sign) (full : 2 ^ 52 ≤ mantissa) (short : mantissa < 2 ^ 53)
    (far : 53 < shift) (near : shift ≤ 1024) :
    Bounded 971 (UnpackedFloat.round format sign (mantissa * 2 ^ shift + 2 ^ 52) (-53)) := by
  obtain ⟨before, same⟩ : ∃ before, shift = before + 1 := ⟨shift - 1, by omega⟩
  subst same
  have small : 2 ^ 52 < 2 ^ before := Nat.pow_lt_pow_right (by decide) (by omega)
  have twice : mantissa * 2 ^ (before + 1) = 2 ^ before * (2 * mantissa) := by
    rw [Nat.pow_succ]
    ring
  have last : (mantissa * 2 ^ (before + 1) + 2 ^ 52) / 2 ^ before = 2 * mantissa := by
    rw [twice, Nat.mul_add_div (Nat.two_pow_pos _), Nat.div_eq_of_lt small, Nat.add_zero]
  have cut : (mantissa * 2 ^ (before + 1) + 2 ^ 52) / 2 ^ (before + 1) = mantissa := by
    rw [Nat.pow_succ 2 before, ← Nat.div_div_eq_div_mul, ← Nat.pow_succ, last]
    omega
  have clear : (ExtendedMantissa.ofMantissaAndAccuracy (mantissa * 2 ^ (before + 1) + 2 ^ 52)
      .exact >>> (before + 1)).roundBit = false := by
    rw [shifted_round_bit, mantissa_of_accuracy, last, Nat.mul_mod_right]
    rfl
  apply round_without_carry sign (before + 1) (-53)
  · rw [Nat.pow_add]
    exact (Nat.mul_le_mul_right _ full).trans (Nat.le_add_right _ _)
  · rw [Nat.pow_add 2 53]
    exact (Nat.div_lt_iff_lt_mul (Nat.two_pow_pos _)).mp (cut.trans_lt short)
  · rw [rounded_of_clear clear, shifted_mantissa, mantissa_of_accuracy, cut]
    exact short
  · omega
  · omega

/-- Rounding what is a half below a mantissa gives at most that mantissa. -/
theorem half_below (sign : Sign) {rest : Nat} (short : mantissa < 2 ^ 53)
    (below : rest + 2 ^ 52 = mantissa * 2 ^ shift) (far : 53 < shift) (near : shift ≤ 1024) :
    Bounded 971 (UnpackedFloat.round format sign rest (-53)) := by
  have fits : rest < mantissa * 2 ^ shift := by omega
  have cut : rest / 2 ^ shift < mantissa :=
    (Nat.div_lt_iff_lt_mul (Nat.two_pow_pos _)).mpr fits
  rcases Nat.lt_or_ge rest (2 ^ (52 + shift)) with less | long
  · exact round_bounded sign _ less (by omega) (by omega) (by decide)
  · apply round_without_carry sign shift (-53) long
    · refine fits.trans ?_
      rw [Nat.pow_add]
      exact Nat.mul_lt_mul_of_pos_right short (Nat.two_pow_pos _)
    · have above := rounded_le (rest / 2 ^ shift)
        (ExtendedMantissa.ofMantissaAndAccuracy rest .exact >>> shift).accuracy
      rw [ExtendedMantissa.roundedMantissa, shifted_mantissa, mantissa_of_accuracy]
      omega
    · omega
    · omega

end Half

theorem normalize_of_pos {size : Nat} (some : 0 < size) (exponent : Int) (zero : Sign) :
    UnpackedFloat.normalize format (size : Int) exponent zero =
      UnpackedFloat.round format .positive size exponent := by
  have above : compare (size : Int) 0 = .gt := compare_gt_iff_gt.mpr (by omega)
  rw [UnpackedFloat.normalize, above]
  rfl

theorem normalize_of_neg {size : Nat} (some : 0 < size) (exponent : Int) (zero : Sign) :
    UnpackedFloat.normalize format (-(size : Int)) exponent zero =
      UnpackedFloat.round format .negative size exponent := by
  have below : compare (-(size : Int)) 0 = .lt := compare_lt_iff_lt.mpr (by omega)
  rw [UnpackedFloat.normalize, below]
  dsimp only
  rw [Int.neg_neg, Int.toNat_natCast]

/-- Adding a half takes no finite double out of range. -/
theorem finite_add_half {value : Float} (finite : value.isFinite = true) :
    (value + 0.5).isFinite = true := by
  apply (finite_iff_bounded _).mpr
  have half : Bounded (-53) (opened 0.5) := by decide
  rcases finite_cases finite with ⟨sign, zero⟩ | ⟨sign, mantissa, exponent, positive, read, shape⟩
  · have none : Bounded 0 (opened value) := by
      rw [zero]
      trivial
    exact add_bounded none half (by decide) (by decide) (by decide) (by decide)
  rcases le_or_gt exponent 969 with low | high
  · have bounded : Bounded 969 (opened value) := by
      rw [read]
      exact low
    exact add_bounded bounded half (by decide) (by decide) (by decide) (by decide)
  -- the half lies more than a thousand bits below the last one of the mantissa
  have most : exponent ≤ 971 := by
    have bounded := (finite_iff_bounded value).mp finite
    rw [read] at bounded
    exact bounded
  have full : 2 ^ 52 ≤ mantissa := shape.full.resolve_right (by omega)
  have size : 2 ^ 52 < mantissa * 2 ^ (exponent + 53).toNat := by
    have less : 2 ^ 52 < 2 ^ 52 * 2 ^ (exponent + 53).toNat :=
      lt_mul_of_one_lt_right (by decide) (Nat.one_lt_two_pow (by omega))
    exact less.trans_le (Nat.mul_le_mul_right _ full)
  show Bounded 971 (UnpackedFloat.unpack format (UnpackedFloat.pack format
    (UnpackedFloat.add format (opened value) (opened 0.5))))
  apply unpack_pack_bounded (by decide) (by decide)
  have lesser : min exponent (-53) = -53 := by omega
  rw [read, half_opened]
  simp only [UnpackedFloat.add, decreaseExponent, lesser, Nat.shiftLeft_eq, Int.sub_neg,
    Int.sub_self, Int.toNat_zero, Nat.pow_zero, Nat.mul_one]
  generalize shifted : (exponent + 53).toNat = shift at size
  cases sign with
  | positive =>
      have sum : Sign.positive.apply (mantissa * 2 ^ shift : Nat) +
            Sign.positive.apply (2 ^ 52 : Nat) =
          ((mantissa * 2 ^ shift + 2 ^ 52 : Nat) : Int) := rfl
      rw [sum, normalize_of_pos (Nat.add_pos_right _ (by decide))]
      exact half_above _ full shape.short (by omega) (by omega)
  | negative =>
      obtain ⟨rest, below⟩ : ∃ rest, rest + 2 ^ 52 = mantissa * 2 ^ shift :=
        ⟨_, Nat.sub_add_cancel size.le⟩
      have sum : Sign.negative.apply (mantissa * 2 ^ shift : Nat) +
            Sign.positive.apply (2 ^ 52 : Nat) =
          -(rest : Int) := by
        show -((mantissa * 2 ^ shift : Nat) : Int) + ((2 ^ 52 : Nat) : Int) = _
        omega
      rw [sum, normalize_of_neg (by omega)]
      exact half_below _ shape.short below (by omega) (by omega)

/-! Counts as doubles -/

/-- Patterns of bits above zero and up to that of infinity are those of the positive doubles. -/
theorem opened_of_bits {pattern : Nat} (some : 0 < pattern) (small : pattern ≤ infinityBits) :
    opened (Float.ofBits (UInt64.ofNat pattern)) = .infinity .positive ∨
      ∃ mantissa exponent, ∃ positive : 0 < mantissa,
        opened (Float.ofBits (UInt64.ofNat pattern)) =
          .finite .positive mantissa exponent positive := by
  have most : pattern ≤ 2047 * 2 ^ 52 := small
  let bits : BitVec format.numBits := (UInt64.ofNat pattern).toBitVec
  have whole : bits.toNat = pattern := Nat.mod_eq_of_lt (show pattern < 2 ^ 64 by omega)
  have sign : Sign.ofBitVec (unpackSign bits) = .positive := by
    have bit : (unpackSign bits).toNat = bits.toNat / 2 ^ 63 % 2 := by
      unfold unpackSign
      rw [BitVec.toNat_cast, BitVec.extractLsb_toNat, Nat.shiftRight_eq_div_pow]
      rfl
    have clear : unpackSign bits = 0#1 := by
      apply BitVec.eq_of_toNat_eq
      rw [bit, whole]
      show pattern / 2 ^ 63 % 2 = 0
      omega
    rw [clear]
    rfl
  have exponent : (unpackExponent bits).toNat = pattern / 2 ^ 52 % 2 ^ 11 := by
    rw [← whole]
    unfold unpackExponent
    rw [BitVec.toNat_cast, BitVec.extractLsb_toNat, Nat.shiftRight_eq_div_pow]
    rfl
  have mantissa : (unpackMantissa bits).toNat = pattern % 2 ^ 52 := by
    rw [← whole]
    unfold unpackMantissa
    rw [BitVec.toNat_cast, BitVec.extractLsb_toNat, Nat.shiftRight_eq_div_pow]
    show bits.toNat / 2 ^ 0 % 2 ^ 52 = _
    rw [Nat.pow_zero, Nat.div_one]
  have read : opened (Float.ofBits (UInt64.ofNat pattern)) =
      ofFields .positive (unpackExponent bits) (unpackMantissa bits) := by
    rw [← sign]
    exact (unpack_pack_unpack bits).trans (unpack_eq bits)
  rw [read, ofFields]
  split
  · next full =>
      have field : (unpackExponent bits).toNat = 2047 := by rw [full]; rfl
      rw [if_pos (BitVec.eq_of_toNat_eq (show _ = 0 by omega))]
      exact .inl rfl
  · right
    split
    · next none =>
        have field : (unpackExponent bits).toNat = 0 := by rw [none]; rfl
        have other : unpackMantissa bits ≠ 0#_ := by
          intro nothing
          have zero : (unpackMantissa bits).toNat = 0 := by rw [nothing]; rfl
          omega
        rw [dif_neg other]
        exact ⟨_, _, Nat.pos_of_ne_zero fun zero => other (BitVec.eq_of_toNat_eq zero), rfl⟩
    · exact ⟨_, _, by rw [hidden_bit]; omega, rfl⟩

theorem pattern_of_count {count : Nat} (some : 0 < count) :
    ∃ pattern, 0 < pattern ∧ pattern ≤ infinityBits ∧
      ofInt count = Float.ofBits (UInt64.ofNat pattern) := by
  have sign : decide ((count : Int) < 0) = false := decide_eq_false (by omega)
  have bias : (exponentBias : Int) = 1075 := rfl
  have unit : Nat.log2 1 = 0 := rfl
  unfold ofInt
  rw [sign, Int.natAbs_natCast]
  unfold ofQuotient
  rw [if_neg (show ¬count = 0 by omega)]
  dsimp only
  refine ⟨_, ?_, ?_, rfl⟩
  · -- a whole number has a greater exponent than the least one
    refine Nat.lt_of_lt_of_le ?_ (Nat.le_add_left _ _)
    refine lt_min (Nat.add_pos_left (Nat.mul_pos ?_ (Nat.two_pow_pos 52)) _) (by decide)
    split <;> omega
  · rw [if_neg Bool.false_ne_true, Nat.zero_add]
    exact min_le_right _ _

theorem of_count_positive {count : Nat} (some : 0 < count) : 0.0 < ofInt count := by
  obtain ⟨pattern, positive, small, same⟩ := pattern_of_count some
  rw [lt_iff, same, opened_zero]
  rcases opened_of_bits positive small with read | ⟨mantissa, exponent, large, read⟩
  · rw [read]
    rfl
  · rw [read]
    rfl

theorem count_not_zero {count : Nat} (some : 0 < count) :
    Scalar.isZero (Scalar.ofNat count : Float) = false := by
  rw [Scalar.isZero, Bool.and_eq_false_iff]
  exact .inl (decide_eq_false (positive_iff.mp (of_count_positive some)).2)

end FormulaPlot.Binary64
