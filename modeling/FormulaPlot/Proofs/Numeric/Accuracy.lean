import FormulaPlot.Proofs.Numeric.Negation
import FormulaPlot.Proofs.Numeric.Values

/-!
How far results of arithmetic on doubles are from the exact ones. Rounding goes to one of the two
neighbouring multiples of the power of two that the last bit of the result stands for.
-/

namespace FormulaPlot.Binary64

open Float.Model Float.Model.UnpackedFloat

set_option autoImplicit false

/-- Zero, or a canonical number with an exponent up to a limit. -/
def Settled (limit : Int) : UnpackedFloat → Prop
  | .zero _ => True
  | .finite _ mantissa exponent _ => Canonical mantissa exponent ∧ exponent ≤ limit
  | _ => False

/-! Packing -/

/-- Packing loses nothing of a canonical number within the range of doubles. -/
theorem unpack_pack_canonical {sign : Sign} {mantissa : Nat} {exponent : Int}
    {positive : 0 < mantissa} (canonical : Canonical mantissa exponent) (most : exponent ≤ 971) :
    UnpackedFloat.unpack format
        (UnpackedFloat.pack format (.finite sign mantissa exponent positive)) =
      .finite sign mantissa exponent positive := by
  have least := canonical.least
  have short := canonical.short
  have biased : (exponent + format.exponentBias + format.mantissaBitsWithoutImplicit).toNat =
      (exponent + 1075).toNat := by
    show (exponent + 1023 + 52).toNat = _
    omega
  have fits : ¬2 ^ format.exponentBits ≤ (exponent + 1075).toNat + 1 := by
    show ¬2048 ≤ _
    omega
  simp only [UnpackedFloat.pack]
  rw [biased, if_neg fits]
  -- a normal number hides its first bit, a subnormal one has the exponent field zero
  by_cases long : 2 ^ 52 ≤ mantissa
  · have log : mantissa.log2 + 1 = format.mantissaBits := by
      have same : mantissa.log2 = 52 := (Nat.log2_eq_iff (by omega)).mpr ⟨long, short⟩
      rw [same]
      rfl
    have field : (BitVec.ofNat format.exponentBits (exponent + 1075).toNat).toNat =
        (exponent + 1075).toNat := by
      rw [BitVec.toNat_ofNat]
      show _ % 2048 = _
      omega
    have ordinary : BitVec.ofNat format.exponentBits (exponent + 1075).toNat ≠ -1#_ := by
      rw [ordinary_iff, field]
      omega
    have normal : BitVec.ofNat format.exponentBits (exponent + 1075).toNat ≠ 0#_ := by
      intro none
      rw [none, BitVec.toNat_zero] at field
      omega
    rw [if_pos log, unpack_components, ofFields, if_neg ordinary, if_neg normal]
    have size : (1#1 ++ BitVec.ofNat format.mantissaBitsWithoutImplicit mantissa).toNat =
        mantissa := by
      rw [hidden_bit, BitVec.toNat_ofNat]
      show 2 ^ 52 + mantissa % 2 ^ 52 = _
      omega
    congr 1
    rw [field]
    omega
  · have log : mantissa.log2 + 1 ≠ format.mantissaBits := by
      have below : mantissa.log2 < 52 := (Nat.log2_lt (by omega)).mpr (by omega)
      show mantissa.log2 + 1 ≠ 53
      omega
    have size : (BitVec.ofNat format.mantissaBitsWithoutImplicit mantissa).toNat = mantissa := by
      rw [BitVec.toNat_ofNat]
      show mantissa % 2 ^ 52 = mantissa
      omega
    have some : BitVec.ofNat format.mantissaBitsWithoutImplicit mantissa ≠ 0#_ := by
      intro none
      rw [none, BitVec.toNat_zero] at size
      omega
    rw [if_neg log, unpack_components, ofFields, if_neg (by decide), if_pos rfl, dif_neg some]
    congr 1
    exact (canonical.full.resolve_left long).symm

theorem unpack_pack_settled {value : UnpackedFloat} (settled : Settled 971 value) :
    UnpackedFloat.unpack format (UnpackedFloat.pack format value) = value := by
  cases value with
  | notANumber => exact settled.elim
  | infinity => exact settled.elim
  | zero sign => cases sign <;> rfl
  | finite => exact unpack_pack_canonical settled.1 settled.2

/-- Packing turns a number into no undefined one, even where it is out of range. -/
theorem unpack_pack_number {value : UnpackedFloat} (finite : value.isFinite = true) :
    UnpackedFloat.unpack format (UnpackedFloat.pack format value) ≠ .notANumber := by
  have ordinary {sign : Sign} {exponent : BitVec format.exponentBits}
      {mantissa : BitVec format.mantissaBitsWithoutImplicit} (below : exponent ≠ -1#_) :
      ofFields sign exponent mantissa ≠ .notANumber := by
    rw [ofFields, if_neg below]
    split
    · split <;> exact UnpackedFloat.noConfusion
    · exact UnpackedFloat.noConfusion
  cases value with
  | notANumber => contradiction
  | infinity => contradiction
  | zero sign =>
      rw [UnpackedFloat.pack, packedZero, unpack_components]
      exact ordinary (by decide)
  | finite sign mantissa exponent positive =>
      simp only [UnpackedFloat.pack]
      generalize (exponent + format.exponentBias + format.mantissaBitsWithoutImplicit).toNat =
        biased
      split
      · rw [packedInfinity, unpack_components, ofFields, if_pos rfl]
        split
        · exact UnpackedFloat.noConfusion
        · next some => exact absurd rfl some
      · next fits =>
          have small : ¬2048 ≤ biased + 1 := fits
          split
          · rw [unpack_components]
            apply ordinary
            rw [ordinary_iff, BitVec.toNat_ofNat]
            show biased % 2048 ≤ 2046
            omega
          · rw [unpack_components]
            exact ordinary (by decide)

/-! Rounding -/

/-- The exponent that a number is rounded to. -/
def target (mantissa : Nat) (exponent : Int) : Int :=
  max ((mantissa.log2 : Int) + 1 + exponent - 53) (-1074)

theorem shift_to_target {mantissa : Nat} {exponent : Int} (accuracy : Accuracy)
    (low : exponent ≤ target mantissa exponent) :
    shiftToTargetExponent format mantissa exponent accuracy =
      (ExtendedMantissa.ofMantissaAndAccuracy mantissa accuracy >>>
        (target mantissa exponent - exponent).toNat, target mantissa exponent) := by
  have same : format.targetExponent (totalExponent mantissa exponent) =
      target mantissa exponent := target_exponent_eq _
  unfold shiftToTargetExponent shiftToExponent
  dsimp only
  rw [same]
  congr 1
  omega

theorem not_below_floor (mantissa : Nat) (accuracy : Accuracy) :
    mantissa ≤ accuracy.roundToNearestEven mantissa := by
  cases accuracy with
  | exact => exact Nat.le_refl _
  | inexact ordering =>
      cases ordering with
      | lt => exact Nat.le_refl _
      | eq => exact Nat.le_add_right _ _
      | gt => exact Nat.le_succ _

theorem log_of_pos {mantissa : Nat} (positive : 0 < mantissa) :
    2 ^ mantissa.log2 ≤ mantissa ∧ mantissa < 2 ^ (mantissa.log2 + 1) :=
  ⟨Nat.log2_self_le (by omega), Nat.lt_log2_self⟩

/-- Shifting leaves 53 bits, or fewer at the least exponent. -/
theorem cut_size {mantissa : Nat} {exponent : Int} (some : 0 < mantissa ∨ exponent ≤ -1074)
    (low : exponent ≤ target mantissa exponent) :
    mantissa / 2 ^ (target mantissa exponent - exponent).toNat < 2 ^ 53 ∧
      (2 ^ 52 ≤ mantissa / 2 ^ (target mantissa exponent - exponent).toNat ∨
        target mantissa exponent = -1074) := by
  rcases Nat.eq_zero_or_pos mantissa with none | positive
  · have subnormal : exponent ≤ -1074 := some.resolve_left (by omega)
    have log : (0 : Nat).log2 = 0 := rfl
    rw [none, Nat.zero_div]
    refine ⟨by decide, .inr ?_⟩
    unfold target
    omega
  obtain ⟨least, most⟩ := log_of_pos positive
  unfold target at low ⊢
  generalize shifted :
    (max ((mantissa.log2 : Int) + 1 + exponent - 53) (-1074) - exponent).toNat = shift
  constructor
  · apply Nat.div_lt_of_lt_mul
    rw [← Nat.pow_add]
    exact most.trans_le (Nat.pow_le_pow_right (by decide) (by omega))
  · by_cases normal : -1074 ≤ (mantissa.log2 : Int) + 1 + exponent - 53
    · left
      rw [Nat.le_div_iff_mul_le (Nat.two_pow_pos shift), ← Nat.pow_add]
      exact (Nat.pow_le_pow_right (by decide) (by omega)).trans least
    · right
      omega

theorem target_of_rounded {rounded : Nat} {exponent : Int} (least : -1074 ≤ exponent)
    (short : rounded < 2 ^ 53) (full : 2 ^ 52 ≤ rounded ∨ exponent = -1074) :
    target rounded exponent = exponent := by
  have log := log_lt short (by decide)
  unfold target
  rcases full with long | subnormal
  · have same : rounded.log2 = 52 := (Nat.log2_eq_iff (by omega)).mpr ⟨long, short⟩
    omega
  · omega

/-- A rounded mantissa is kept, unless it has run over into a further bit. -/
theorem settle {rounded : Nat} {exponent : Int} (least : -1074 ≤ exponent)
    (short : rounded ≤ 2 ^ 53) (full : 2 ^ 52 ≤ rounded ∨ exponent = -1074) :
    (rounded < 2 ^ 53 ∧
        shiftToTargetExponent format rounded exponent .exact =
          (⟨rounded, false, false⟩, exponent)) ∨
      rounded = 2 ^ 53 ∧ shiftToTargetExponent format rounded exponent .exact =
        (⟨2 ^ 52, false, false⟩, exponent + 1) := by
  rcases Nat.lt_or_ge rounded (2 ^ 53) with below | above
  · have same := target_of_rounded least below full
    refine .inl ⟨below, ?_⟩
    rw [shift_to_target .exact same.ge, same, Int.sub_self]
    rfl
  · have carried : rounded = 2 ^ 53 := by omega
    have same : target (2 ^ 53) exponent = exponent + 1 := by
      have log : (2 ^ 53 : Nat).log2 = 53 := Nat.log2_two_pow
      unfold target
      omega
    have one : exponent + 1 - exponent = 1 := by omega
    refine .inr ⟨carried, ?_⟩
    rw [carried, shift_to_target .exact (by omega), same, one]
    rfl

/-- The neighbours of a number among the multiples of a power of two. -/
theorem near_of_floor {mantissa shift rounded : Nat} {number : Rat}
    (least : (mantissa : Rat) ≤ number)
    (most : number < mantissa + 1) (below : mantissa / 2 ^ shift ≤ rounded)
    (above : rounded ≤ mantissa / 2 ^ shift + 1) :
    |(rounded : Rat) * 2 ^ shift - number| ≤ 2 ^ shift := by
  have positive : 0 < 2 ^ shift := Nat.two_pow_pos shift
  have whole : 2 ^ shift * (mantissa / 2 ^ shift) + mantissa % 2 ^ shift = mantissa :=
    Nat.div_add_mod _ _
  have rest : mantissa % 2 ^ shift + 1 ≤ 2 ^ shift := Nat.mod_lt _ positive
  have wholeRat : (2 ^ shift : Rat) * (mantissa / 2 ^ shift : Nat) + (mantissa % 2 ^ shift : Nat) =
      mantissa := by exact_mod_cast whole
  have restRat : ((mantissa % 2 ^ shift : Nat) : Rat) + 1 ≤ 2 ^ shift := by exact_mod_cast rest
  have restLeast : (0 : Rat) ≤ (mantissa % 2 ^ shift : Nat) := Nat.cast_nonneg _
  have belowRat : ((mantissa / 2 ^ shift : Nat) : Rat) ≤ rounded := by exact_mod_cast below
  have aboveRat : (rounded : Rat) ≤ (mantissa / 2 ^ shift : Nat) + 1 := by exact_mod_cast above
  have scale : (0 : Rat) < 2 ^ shift := by positivity
  have lower := mul_le_mul_of_nonneg_right belowRat scale.le
  have upper := mul_le_mul_of_nonneg_right aboveRat scale.le
  rw [abs_le]
  constructor <;> linarith

theorem round_with_accuracy_near (sign : Sign) {mantissa : Nat} {exponent : Int}
    (accuracy : Accuracy) (some : 0 < mantissa ∨ exponent ≤ -1074)
    (low : exponent ≤ target mantissa exponent) {number : Rat}
    (least : (mantissa : Rat) ≤ number) (most : number < mantissa + 1) :
    ∃ result, 0 ≤ result ∧ |result - number * 2 ^ exponent| ≤ 2 ^ target mantissa exponent ∧
      Settled (target mantissa exponent + 1)
        (roundWithAccuracy format sign mantissa exponent accuracy) ∧
      worth (roundWithAccuracy format sign mantissa exponent accuracy) =
        if sign == .negative then -result else result := by
  obtain ⟨cut, full⟩ := cut_size some low
  have floor : -1074 ≤ target mantissa exponent := le_max_right _ _
  generalize shifted : (target mantissa exponent - exponent).toNat = shift at cut full
  have spread : exponent + shift = target mantissa exponent := by omega
  obtain ⟨rounded, atLeast, atMost, made⟩ : ∃ rounded, mantissa / 2 ^ shift ≤ rounded ∧
      rounded ≤ mantissa / 2 ^ shift + 1 ∧
      roundWithAccuracy format sign mantissa exponent accuracy =
        (let final := shiftToTargetExponent format rounded (target mantissa exponent) .exact
        if zero : final.1.mantissa = 0 then UnpackedFloat.zero sign
        else .finite sign final.1.mantissa final.2 (Nat.pos_of_ne_zero zero)) := by
    refine ⟨(ExtendedMantissa.ofMantissaAndAccuracy mantissa accuracy >>> shift).roundedMantissa,
      ?_, ?_, ?_⟩
    · rw [ExtendedMantissa.roundedMantissa, shifted_mantissa, mantissa_of_accuracy]
      exact not_below_floor _ _
    · rw [ExtendedMantissa.roundedMantissa, shifted_mantissa, mantissa_of_accuracy]
      exact rounded_le _ _
    · rw [roundWithAccuracy, shift_to_target accuracy low, shifted]
  have near : |(rounded : Rat) * 2 ^ target mantissa exponent - number * 2 ^ exponent| ≤
      2 ^ target mantissa exponent := by
    have error := near_of_floor least most atLeast atMost
    have scale : (0 : Rat) < 2 ^ exponent := by positivity
    rw [← spread, zpow_add₀ (by decide), zpow_natCast, mul_comm ((2 : Rat) ^ exponent), ← mul_assoc,
      ← sub_mul, abs_mul, abs_of_pos scale]
    gcongr
  refine ⟨rounded * 2 ^ target mantissa exponent, by positivity, near, ?_⟩
  rw [made]
  -- rounding up may run over into a 54th bit, which is shifted out as a zero
  rcases settle floor (by omega) (full.imp_left fun long => long.trans atLeast) with
    ⟨short, kept⟩ | ⟨carried, grown⟩
  · rw [kept]
    dsimp only
    split
    · next zero =>
        refine ⟨trivial, ?_⟩
        rw [zero]
        simp [worth]
    · refine ⟨⟨⟨short, floor, full.imp_left fun long => long.trans atLeast⟩, by omega⟩, ?_⟩
      exact worth_finite _ _ _ _
  · rw [grown]
    have long : ¬(2 ^ 52 = 0) := by decide
    dsimp only
    rw [dif_neg long]
    refine ⟨⟨⟨by decide, by omega, .inl le_rfl⟩, le_rfl⟩, ?_⟩
    rw [worth_finite, carried, zpow_add_one₀ (by decide)]
    have same : ((2 ^ 52 : Nat) : Rat) * (2 ^ target mantissa exponent * 2) =
        ((2 ^ 53 : Nat) : Rat) * 2 ^ target mantissa exponent := by
      push_cast
      ring
    rw [same]

theorem target_le {mantissa : Nat} {exponent bits : Int}
    (some : 0 < mantissa ∨ exponent ≤ -1074) (least : -1021 ≤ bits)
    (small : (mantissa : Rat) * 2 ^ exponent < 2 ^ bits) :
    target mantissa exponent ≤ bits - 53 := by
  rcases Nat.eq_zero_or_pos mantissa with none | positive
  · have subnormal : exponent ≤ -1074 := some.resolve_left (by omega)
    have log : (0 : Nat).log2 = 0 := rfl
    rw [none]
    unfold target
    omega
  have leading : (2 : Rat) ^ ((mantissa.log2 : Int) + exponent) < 2 ^ bits := by
    calc (2 : Rat) ^ ((mantissa.log2 : Int) + exponent)
        = 2 ^ mantissa.log2 * 2 ^ exponent := by rw [zpow_add₀ (by decide), zpow_natCast]
      _ ≤ mantissa * 2 ^ exponent := by
        have log : (2 : Rat) ^ mantissa.log2 ≤ mantissa := by
          exact_mod_cast (log_of_pos positive).1
        gcongr
      _ < 2 ^ bits := small
  have order := (zpow_lt_zpow_iff_right₀ (by decide : (1 : Rat) < 2)).mp leading
  unfold target
  omega

/-- What rounding to so many bits may give for a number. -/
structure Near (result : UnpackedFloat) (number : Rat) (bits : Int) : Prop where
  settled : Settled 971 result
  error : |worth result - number| ≤ 2 ^ (bits - 53)

theorem near_of_rounded {result : UnpackedFloat} {number magnitude : Rat} {sign : Sign}
    {limit bits : Int} (settled : Settled (limit + 1) result) (low : limit ≤ bits - 53)
    (most : bits ≤ 1023) (close : |magnitude - number| ≤ 2 ^ limit)
    (value : worth result = if sign == .negative then -magnitude else magnitude) :
    Near result (if sign == .negative then -number else number) bits := by
  constructor
  · cases result with
    | notANumber => exact settled.elim
    | infinity => exact settled.elim
    | zero => trivial
    | finite => exact ⟨settled.1, settled.2.trans (by omega)⟩
  · have scale : (2 : Rat) ^ limit ≤ 2 ^ (bits - 53) := zpow_le_zpow_right₀ (by decide) low
    rw [value]
    cases sign with
    | positive => exact close.trans scale
    | negative =>
        show |-magnitude - -number| ≤ _
        rw [neg_sub_neg, abs_sub_comm]
        exact close.trans scale

theorem log_shifted {mantissa : Nat} (positive : 0 < mantissa) (shift : Nat) :
    (mantissa <<< shift).log2 = mantissa.log2 + shift := by
  obtain ⟨least, most⟩ := log_of_pos positive
  rw [Nat.shiftLeft_eq]
  apply (Nat.log2_eq_iff (by positivity)).mpr
  constructor
  · rw [Nat.pow_add]
    gcongr
  · rw [Nat.add_right_comm, Nat.pow_add]
    gcongr

theorem round_near (sign : Sign) {mantissa : Nat} {exponent bits : Int} (positive : 0 < mantissa)
    (least : -1021 ≤ bits) (most : bits ≤ 1023)
    (small : (mantissa : Rat) * 2 ^ exponent < 2 ^ bits) :
    Near (UnpackedFloat.round format sign mantissa exponent)
      (if sign == .negative then -((mantissa : Rat) * 2 ^ exponent)
        else (mantissa : Rat) * 2 ^ exponent) bits := by
  have below := target_le (.inl positive) least small
  have same : format.targetExponent (totalExponent mantissa exponent) =
      target mantissa exponent := target_exponent_eq _
  unfold UnpackedFloat.round decreaseExponent
  dsimp only
  rw [same]
  generalize shifted : (exponent - target mantissa exponent).toNat = shift
  have grown : 0 < mantissa <<< shift := by
    rw [Nat.shiftLeft_eq]
    exact Nat.mul_pos positive (Nat.two_pow_pos shift)
  have kept : target (mantissa <<< shift) (exponent - shift) = target mantissa exponent := by
    unfold target
    rw [log_shifted positive]
    push_cast
    congr 1
    omega
  have value : ((mantissa <<< shift : Nat) : Rat) * 2 ^ (exponent - shift) =
      mantissa * 2 ^ exponent := by
    rw [Nat.shiftLeft_eq, zpow_sub₀ (by decide), zpow_natCast]
    push_cast
    field_simp
  obtain ⟨result, _, error, settled, worth⟩ := round_with_accuracy_near sign .exact (.inl grown)
    (by rw [kept]; omega) (le_refl ((mantissa <<< shift : Nat) : Rat)) (lt_add_one _)
  rw [kept] at error settled
  rw [value] at error
  exact near_of_rounded settled below most error worth

theorem normalize_near {mantissa : Int} {exponent bits : Int} (zero : Sign) (least : -1021 ≤ bits)
    (most : bits ≤ 1023) (small : |(mantissa : Rat) * 2 ^ exponent| < 2 ^ bits) :
    Near (UnpackedFloat.normalize format mantissa exponent zero) (mantissa * 2 ^ exponent)
      bits := by
  have scale : (0 : Rat) < 2 ^ exponent := by positivity
  rw [abs_mul, abs_of_pos scale] at small
  rcases lt_trichotomy mantissa 0 with below | none | above
  · have size : ((-mantissa).toNat : Int) = -mantissa := by omega
    have cast : ((-mantissa).toNat : Rat) = -mantissa := by exact_mod_cast size
    rw [abs_of_neg (by exact_mod_cast below), ← cast] at small
    have near := round_near .negative (by omega) least most small
    rw [UnpackedFloat.normalize, Int.compare_eq_lt.mpr below]
    rw [cast] at near
    simpa using near
  · rw [none, UnpackedFloat.normalize]
    refine ⟨trivial, ?_⟩
    show |(0 : Rat) - (0 : Int) * 2 ^ exponent| ≤ _
    simp only [Int.cast_zero, zero_mul, sub_zero, abs_zero]
    positivity
  · have size : (mantissa.toNat : Int) = mantissa := by omega
    have cast : (mantissa.toNat : Rat) = mantissa := by exact_mod_cast size
    rw [abs_of_pos (by exact_mod_cast above), ← cast] at small
    have near := round_near .positive (by omega) least most small
    rw [UnpackedFloat.normalize, Int.compare_eq_gt.mpr above]
    rw [cast] at near
    simpa using near

/-! Operations -/

/-- A double that is as near to a number as rounding to so many bits brings it. -/
structure Close (result : Float) (number : Rat) (bits : Int) : Prop where
  finite : result.isFinite = true
  error : |toRat result - number| ≤ 2 ^ (bits - 53)

theorem close_of_near {result : Float} {unpacked : UnpackedFloat} {number : Rat} {bits : Int}
    (packed : opened result = UnpackedFloat.unpack format (UnpackedFloat.pack format unpacked))
    (near : Near unpacked number bits) : Close result number bits := by
  rw [unpack_pack_settled near.settled] at packed
  have finite : result.isFinite = true := by
    show (opened result).isFinite = true
    have settled := near.settled
    rw [packed]
    cases unpacked with
    | notANumber => exact settled.elim
    | infinity => exact settled.elim
    | zero => rfl
    | finite => rfl
  refine ⟨finite, ?_⟩
  rw [to_rat_eq finite, packed]
  exact near.error

theorem settled_of_finite {value : Float} (finite : value.isFinite = true) :
    Settled 971 (opened value) := by
  have bounded := (finite_iff_bounded value).mp finite
  rcases finite_cases finite with ⟨sign, zero⟩ | ⟨sign, mantissa, exponent, positive, read, shape⟩
  · rw [zero]
    trivial
  · rw [read] at bounded ⊢
    exact ⟨shape, bounded⟩

theorem near_of_finite {value : Float} (finite : value.isFinite = true) (bits : Int) :
    Near (opened value) (worth (opened value)) bits := by
  refine ⟨settled_of_finite finite, ?_⟩
  rw [sub_self, abs_zero]
  positivity

/-- Mantissas brought down to a lesser exponent. -/
theorem aligned_worth (sign : Sign) (mantissa : Nat) {exponent lesser : Int}
    (less : lesser ≤ exponent) :
    (sign.apply (mantissa <<< (exponent - lesser).toNat : Nat) : Rat) * 2 ^ lesser =
      sign.apply mantissa * 2 ^ exponent := by
  have spread : exponent = lesser + (exponent - lesser).toNat := by omega
  have shifted : (sign.apply (mantissa <<< (exponent - lesser).toNat : Nat) : Rat) =
      sign.apply mantissa * 2 ^ (exponent - lesser).toNat := by
    cases sign <;> simp [Sign.apply, Nat.shiftLeft_eq]
  conv_rhs => rw [spread]
  rw [shifted, zpow_add₀ (by decide), zpow_natCast]
  ring

section Operations

variable {first second : Float} (bits : Int)

theorem add_close (finite : first.isFinite = true) (other : second.isFinite = true)
    (least : -1021 ≤ bits) (most : bits ≤ 1023) (small : |toRat first + toRat second| < 2 ^ bits) :
    Close (first + second) (toRat first + toRat second) bits := by
  have packed : opened (first + second) = UnpackedFloat.unpack format (UnpackedFloat.pack format
    (UnpackedFloat.add format (opened first) (opened second))) := rfl
  apply close_of_near packed
  have whole := near_of_finite finite bits
  have more := near_of_finite other bits
  rw [to_rat_eq finite, to_rat_eq other] at small ⊢
  rcases finite_cases finite with ⟨sign, zero⟩ | ⟨sign, mantissa, exponent, positive, read, here⟩
  · rcases finite_cases other with ⟨turn, nothing⟩ | ⟨turn, size, power, large, reread, there⟩
    · rw [zero, nothing]
      show Near (if sign == turn then .zero sign else .zero .positive) ((0 : Rat) + 0) bits
      rw [add_zero]
      split
      · rw [zero] at whole
        cases sign <;> exact ⟨trivial, whole.error⟩
      · rw [zero] at whole
        exact ⟨trivial, whole.error⟩
    · rw [reread] at more
      rw [zero, reread]
      show Near (.finite turn size power large) ((0 : Rat) + _) bits
      rw [zero_add]
      exact more
  · rcases finite_cases other with ⟨turn, nothing⟩ | ⟨turn, size, power, large, reread, there⟩
    · rw [read] at whole
      rw [read, nothing]
      show Near (.finite sign mantissa exponent positive) (_ + (0 : Rat)) bits
      rw [add_zero]
      exact whole
    · rw [read, reread] at small ⊢
      have sum : ((sign.apply (mantissa <<< (exponent - min exponent power).toNat : Nat) +
            turn.apply (size <<< (power - min exponent power).toNat : Nat) : Int) : Rat) *
              2 ^ min exponent power =
          worth (.finite sign mantissa exponent positive) +
            worth (.finite turn size power large) := by
        rw [Int.cast_add, add_mul, aligned_worth sign mantissa (min_le_left exponent power),
          aligned_worth turn size (min_le_right exponent power)]
        rfl
      rw [← sum] at small ⊢
      exact normalize_near .positive least most small

theorem round_finite (sign : Sign) (mantissa : Nat) (exponent : Int) :
    (UnpackedFloat.round format sign mantissa exponent).isFinite = true := by
  unfold UnpackedFloat.round roundWithAccuracy
  dsimp only
  split <;> rfl

/-- A sum may be out of range, but it is defined. -/
theorem sum_is_number (finite : first.isFinite = true) (other : second.isFinite = true) :
    opened (first + second) ≠ .notANumber := by
  have packed : opened (first + second) = UnpackedFloat.unpack format (UnpackedFloat.pack format
    (UnpackedFloat.add format (opened first) (opened second))) := rfl
  rw [packed]
  apply unpack_pack_number
  rcases finite_cases finite with ⟨sign, zero⟩ | ⟨sign, mantissa, exponent, positive, read, here⟩
  · rcases finite_cases other with ⟨turn, nothing⟩ | ⟨turn, size, power, large, reread, there⟩
    · rw [zero, nothing]
      cases sign <;> cases turn <;> rfl
    · rw [zero, reread]
      rfl
  · rcases finite_cases other with ⟨turn, nothing⟩ | ⟨turn, size, power, large, reread, there⟩
    · rw [read, nothing]
      rfl
    · rw [read, reread]
      show (UnpackedFloat.normalize format _ _ _).isFinite = true
      unfold UnpackedFloat.normalize
      split
      · exact round_finite _ _ _
      · rfl
      · exact round_finite _ _ _

theorem to_rat_neg (finite : first.isFinite = true) : toRat (-first) = -toRat first := by
  rw [to_rat_eq ((finite_neg first).trans finite), to_rat_eq finite, opened_neg]
  cases opened first with
  | finite sign mantissa exponent positive =>
      rw [UnpackedFloat.neg, worth_finite, worth_finite]
      cases sign
      · exact (neg_neg _).symm
      · rfl
  | _ => exact neg_zero.symm

theorem opened_abs (finite : first.isFinite = true) : opened first.abs = (opened first).abs := by
  have packed : opened first.abs = UnpackedFloat.unpack format
    (UnpackedFloat.pack format (opened first).abs) := rfl
  have settled := settled_of_finite finite
  rw [packed]
  apply unpack_pack_settled
  rcases finite_cases finite with ⟨sign, zero⟩ | ⟨sign, mantissa, exponent, positive, read, here⟩
  · rw [zero]
    trivial
  · rw [read] at settled ⊢
    exact settled

theorem finite_abs (finite : first.isFinite = true) : first.abs.isFinite = true := by
  show (opened first.abs).isFinite = true
  rw [opened_abs finite]
  rcases finite_cases finite with ⟨sign, zero⟩ | ⟨sign, mantissa, exponent, positive, read, here⟩
  · rw [zero]
    rfl
  · rw [read]
    rfl

/-- A difference is the sum with the opposite. -/
theorem sub_eq_add_opposite (first second : Float) : first - second = first + -second := by
  apply eq_of_model
  show Float.Model.pack (UnpackedFloat.sub format (opened first) (opened second)) =
    Float.Model.pack (UnpackedFloat.add format (opened first) (opened (-second)))
  rw [opened_neg]
  congr 1
  cases opened first with
  | finite sign mantissa exponent positive =>
      cases opened second with
      | finite turn size power large =>
          simp only [UnpackedFloat.neg, UnpackedFloat.sub, UnpackedFloat.add, apply_neg]
          rfl
      | _ => rfl
  | _ => cases opened second <;> rfl

theorem sub_close (finite : first.isFinite = true) (other : second.isFinite = true)
    (least : -1021 ≤ bits) (most : bits ≤ 1023) (small : |toRat first - toRat second| < 2 ^ bits) :
    Close (first - second) (toRat first - toRat second) bits := by
  rw [sub_eq_add_neg, ← to_rat_neg other] at small ⊢
  rw [sub_eq_add_opposite]
  exact add_close bits finite ((finite_neg second).trans other) least most small

/-- A mantissa is divided by that of two after it is shifted. -/
theorem halved_core {mantissa : Nat} {exponent : Int} (canonical : Canonical mantissa exponent) :
    ∃ quotient lesser accuracy, ∃ number : Rat,
      divCore format mantissa exponent (2 ^ 52) (-51) = (quotient, lesser, accuracy) ∧
        quotient ≤ number ∧ number < quotient + 1 ∧
        number * 2 ^ lesser = mantissa * 2 ^ exponent / 2 ∧
        (0 < quotient ∨ lesser ≤ -1074) ∧ lesser ≤ target quotient lesser := by
  have floor := canonical.least
  have total : format.targetExponent (totalExponent mantissa exponent -
      totalExponent (2 ^ 52) (-51)) = max ((mantissa.log2 : Int) + exponent - 54) (-1074) := by
    have log : (2 ^ 52 : Nat).log2 = 52 := Nat.log2_two_pow
    rw [target_exponent_eq, totalExponent, totalExponent, log]
    omega
  have log : mantissa.log2 ≤ 52 := Nat.le_of_lt_succ (log_lt canonical.short (by decide))
  have core : divCore format mantissa exponent (2 ^ 52) (-51) =
      (mantissa <<< (exponent + 51 - max ((mantissa.log2 : Int) + exponent - 54) (-1074)).toNat /
          2 ^ 52,
        max ((mantissa.log2 : Int) + exponent - 54) (-1074),
        accuracyOfFraction (mantissa <<<
          (exponent + 51 - max ((mantissa.log2 : Int) + exponent - 54) (-1074)).toNat % 2 ^ 52)
          (2 ^ 52)) := by
    unfold divCore
    dsimp only
    rw [total, Int.sub_neg, min_eq_right (by omega)]
  generalize bottom : max ((mantissa.log2 : Int) + exponent - 54) (-1074) = lesser at core
  generalize shifted : (exponent + 51 - lesser).toNat = shift at core
  have spread : exponent + 51 = shift + lesser := by omega
  have product : mantissa <<< shift = mantissa * 2 ^ shift := Nat.shiftLeft_eq _ _
  refine ⟨_, _, _, ((mantissa <<< shift : Nat) : Rat) / 2 ^ 52, core, ?_, ?_, ?_, ?_, ?_⟩
  · exact_mod_cast Nat.cast_div_le
  · have below : mantissa <<< shift < (mantissa <<< shift / 2 ^ 52 + 1) * 2 ^ 52 := by omega
    rw [div_lt_iff₀ (by positivity)]
    exact_mod_cast below
  · have power : (2 : Rat) ^ shift * 2 ^ lesser = 2 ^ exponent * 2 ^ 51 := by
      rw [← zpow_natCast, ← zpow_add₀ (by decide), ← spread, zpow_add₀ (by decide)]
      rfl
    rw [product, Nat.cast_mul, Nat.cast_pow, Nat.cast_ofNat]
    calc (mantissa : Rat) * 2 ^ shift / 2 ^ 52 * 2 ^ lesser
        = mantissa * ((2 : Rat) ^ shift * 2 ^ lesser) / 2 ^ 52 := by ring
      _ = mantissa * (2 : Rat) ^ exponent / 2 := by
        rw [power]
        ring
  -- the quotient vanishes for the least subnormal number only
  · rcases canonical.full with full | subnormal
    · left
      rw [product]
      apply Nat.div_pos _ (by decide)
      exact full.trans (Nat.le_mul_of_pos_right _ (Nat.two_pow_pos shift))
    · right
      omega
  · by_cases subnormal : lesser ≤ -1074
    · exact subnormal.trans (le_max_right _ _)
    · have full : 2 ^ 52 ≤ mantissa := canonical.full.resolve_right (by omega)
      have log : mantissa.log2 = 52 := (Nat.log2_eq_iff (by omega)).mpr ⟨full, canonical.short⟩
      have up : shift = 53 := by omega
      have long : 2 ^ 52 ≤ mantissa <<< shift / 2 ^ 52 := by
        rw [product, up]
        omega
      have bits : 52 ≤ (mantissa <<< shift / 2 ^ 52).log2 := (Nat.le_log2 (by omega)).mpr long
      unfold target
      omega

theorem half_close (finite : first.isFinite = true) (least : -1021 ≤ bits) (most : bits ≤ 1023)
    (small : |toRat first / 2| < 2 ^ bits) : Close (first / 2.0) (toRat first / 2) bits := by
  have two : opened 2.0 = .finite .positive (2 ^ 52) (-51) (by decide) := rfl
  have packed : opened (first / 2.0) = UnpackedFloat.unpack format (UnpackedFloat.pack format
    (UnpackedFloat.div format (opened first) (opened 2.0))) := rfl
  apply close_of_near packed
  rw [two]
  rw [to_rat_eq finite] at small ⊢
  rcases finite_cases finite with ⟨sign, zero⟩ | ⟨sign, mantissa, exponent, positive, read, here⟩
  · rw [zero]
    show Near (.zero _) ((0 : Rat) / 2) bits
    rw [zero_div]
    refine ⟨trivial, ?_⟩
    show |(0 : Rat) - 0| ≤ _
    rw [sub_zero, abs_zero]
    positivity
  · rw [read] at small ⊢
    obtain ⟨quotient, lesser, accuracy, number, core, floor, ceiling, value, some, low⟩ :=
      halved_core here
    have made : UnpackedFloat.div format (.finite sign mantissa exponent positive)
        (.finite .positive (2 ^ 52) (-51) (by decide)) =
          roundWithAccuracy format sign quotient lesser accuracy := by
      rw [UnpackedFloat.div, core]
      cases sign <;> rfl
    have half : worth (.finite sign mantissa exponent positive) / 2 =
        if sign == .negative then -(number * 2 ^ lesser) else number * 2 ^ lesser := by
      rw [worth_finite, value]
      cases sign
      · exact neg_div 2 _
      · rfl
    have size : number * 2 ^ lesser < 2 ^ bits := by
      rw [half] at small
      cases sign with
      | negative =>
          have opposite : |-(number * 2 ^ lesser)| < 2 ^ bits := small
          have above := neg_le_abs (-(number * 2 ^ lesser))
          rw [neg_neg] at above
          exact above.trans_lt opposite
      | positive => exact (le_abs_self _).trans_lt small
    have below : target quotient lesser ≤ bits - 53 := by
      refine target_le some least (lt_of_le_of_lt ?_ size)
      gcongr
    obtain ⟨result, _, error, settled, worth⟩ :=
      round_with_accuracy_near sign accuracy some low floor ceiling
    rw [made, half]
    exact near_of_rounded settled below most error worth

end Operations

end FormulaPlot.Binary64
