import FormulaPlot.Proofs.Numeric.Fields

/-!
Exponents of doubles. A double is finite as long as its exponent is at most 971, and the exponent
of a result is bounded by those of the arguments.
-/

namespace FormulaPlot.Binary64

open Float.Model Float.Model.UnpackedFloat

set_option autoImplicit false

/-- Zero, or finite with an exponent up to a limit. -/
def Bounded (limit : Int) : UnpackedFloat → Prop
  | .zero _ => True
  | .finite _ _ exponent _ => exponent ≤ limit
  | _ => False

instance (limit : Int) : (value : UnpackedFloat) → Decidable (Bounded limit value)
  | .zero _ => inferInstanceAs (Decidable True)
  | .finite _ _ exponent _ => inferInstanceAs (Decidable (exponent ≤ limit))
  | .infinity _ => inferInstanceAs (Decidable False)
  | .notANumber => inferInstanceAs (Decidable False)

/-! Fields -/

section Fields

variable (sign : Sign) (exponent : BitVec format.exponentBits)
  (mantissa : BitVec format.mantissaBitsWithoutImplicit)

theorem of_fields_bounded {limit : Int} (ordinary : exponent ≠ -1#_)
    (normal : (exponent.toNat : Int) - 1075 ≤ limit) (subnormal : -1074 ≤ limit) :
    Bounded limit (ofFields sign exponent mantissa) := by
  rw [ofFields, if_neg ordinary]
  split
  · split
    · trivial
    · exact subnormal
  · exact normal

theorem of_fields_mantissa {other : Sign} {size : Nat} {power : Int} {positive : 0 < size}
    (read : ofFields sign exponent mantissa = .finite other size power positive) :
    size < 2 ^ 53 := by
  have below : mantissa.toNat < 2 ^ 52 := mantissa.isLt
  have hidden := hidden_bit mantissa
  revert read
  unfold ofFields
  split
  · split <;> exact UnpackedFloat.noConfusion
  · split
    · split
      · exact UnpackedFloat.noConfusion
      · intro read
        injection read with _ same
        omega
    · intro read
      injection read with _ same
      omega

theorem ordinary_iff : exponent ≠ -1#_ ↔ exponent.toNat ≤ 2046 := by
  have limit : exponent.toNat < 2048 := exponent.isLt
  constructor
  · intro ordinary
    have other : exponent.toNat ≠ 2047 := fun same => ordinary (BitVec.eq_of_toNat_eq same)
    omega
  · intro small same
    rw [same] at small
    exact absurd small (by decide)

theorem ordinary_of_finite (finite : (ofFields sign exponent mantissa).isFinite = true) :
    exponent ≠ -1#_ := by
  intro special
  rw [ofFields, if_pos special] at finite
  split at finite <;> contradiction

theorem bounded_of_fields (finite : (ofFields sign exponent mantissa).isFinite = true) :
    Bounded 971 (ofFields sign exponent mantissa) := by
  have ordinary := ordinary_of_finite sign exponent mantissa finite
  have small := (ordinary_iff exponent).mp ordinary
  exact of_fields_bounded sign exponent mantissa ordinary (by omega) (by decide)

end Fields

theorem Bounded.finite {limit : Int} {value : UnpackedFloat} (bounded : Bounded limit value) :
    value.isFinite = true := by
  cases value with
  | finite => rfl
  | zero => rfl
  | infinity => exact bounded.elim
  | notANumber => exact bounded.elim

/-- A double is finite exactly when its exponent is at most 971. -/
theorem finite_iff_bounded (value : Float) :
    value.isFinite = true ↔ Bounded 971 (opened value) := by
  constructor
  · intro finite
    have read : (opened value).isFinite = true := finite
    rw [opened, Float.Model.unpack, unpack_eq] at read ⊢
    exact bounded_of_fields _ _ _ read
  · exact Bounded.finite

theorem opened_mantissa {value : Float} {sign : Sign} {mantissa : Nat} {exponent : Int}
    {positive : 0 < mantissa} (read : opened value = .finite sign mantissa exponent positive) :
    mantissa < 2 ^ 53 := by
  rw [opened, Float.Model.unpack, unpack_eq] at read
  exact of_fields_mantissa _ _ _ read

/-- Packing a result within the range of doubles keeps the bound on its exponent. -/
theorem unpack_pack_bounded {limit : Int} (least : -1074 ≤ limit) (greatest : limit ≤ 971)
    {value : UnpackedFloat} (bounded : Bounded limit value) :
    Bounded limit (UnpackedFloat.unpack format (UnpackedFloat.pack format value)) := by
  cases value with
  | notANumber => exact bounded.elim
  | infinity => exact bounded.elim
  | zero sign =>
      rw [UnpackedFloat.pack, packedZero, unpack_components]
      exact of_fields_bounded _ _ _ (by decide) (Int.le_trans (by decide) least) least
  | finite sign mantissa exponent positive =>
      have small : exponent ≤ limit := bounded
      have biased : (exponent + format.exponentBias + format.mantissaBitsWithoutImplicit).toNat =
          (exponent + 1075).toNat := by
        show (exponent + 1023 + 52).toNat = _
        omega
      have fits : ¬2 ^ format.exponentBits ≤ (exponent + 1075).toNat + 1 := by
        show ¬2048 ≤ _
        omega
      have field : (BitVec.ofNat format.exponentBits (exponent + 1075).toNat).toNat =
          (exponent + 1075).toNat := by
        rw [BitVec.toNat_ofNat]
        show _ % 2048 = _
        omega
      simp only [UnpackedFloat.pack]
      rw [biased, if_neg fits]
      split
      · rw [unpack_components]
        apply of_fields_bounded
        · rw [ordinary_iff, field]
          omega
        · rw [field]
          omega
        · exact least
      · rw [unpack_components]
        exact of_fields_bounded _ _ _ (by decide) (Int.le_trans (by decide) least) least

/-! Rounding -/

theorem shifted_mantissa (shift : Nat) (extended : ExtendedMantissa) :
    (extended >>> shift).mantissa = extended.mantissa / 2 ^ shift := by
  induction shift with
  | zero => exact (Nat.div_one _).symm
  | succ shift ih =>
      show (ExtendedMantissa.shiftRightOne (extended >>> shift)).mantissa = _
      rw [Nat.pow_succ, ← Nat.div_div_eq_div_mul, ← ih]
      rfl

theorem mantissa_of_accuracy (mantissa : Nat) (accuracy : Accuracy) :
    (ExtendedMantissa.ofMantissaAndAccuracy mantissa accuracy).mantissa = mantissa := by
  cases accuracy with
  | exact => rfl
  | inexact ordering => cases ordering <;> rfl

theorem rounded_le (mantissa : Nat) (accuracy : Accuracy) :
    accuracy.roundToNearestEven mantissa ≤ mantissa + 1 := by
  cases accuracy with
  | exact => exact Nat.le_succ _
  | inexact ordering =>
      cases ordering with
      | lt => exact Nat.le_succ _
      | eq =>
          show mantissa + mantissa % 2 ≤ mantissa + 1
          omega
      | gt => exact Nat.le_refl _

theorem target_exponent_eq (total : Int) :
    format.targetExponent total = max (total - 53) (-1074) := by
  rfl

theorem log_lt {mantissa bits : Nat} (size : mantissa < 2 ^ bits) (some : 0 < bits) :
    mantissa.log2 < bits := by
  rcases Nat.eq_zero_or_pos mantissa with zero | positive
  · rw [zero]
    exact some
  · exact (Nat.log2_lt (by omega)).mpr size

/-- Rounding a mantissa of some bits leaves room for a carry. -/
theorem rounded_log {mantissa bits : Nat} (size : mantissa < 2 ^ bits) (shift : Nat)
    (accuracy : Accuracy) :
    (accuracy.roundToNearestEven (mantissa / 2 ^ shift)).log2 ≤ bits - shift := by
  have cut : mantissa / 2 ^ shift < 2 ^ (bits - shift) := by
    apply Nat.div_lt_of_lt_mul
    rw [← Nat.pow_add]
    exact Nat.lt_of_lt_of_le size (Nat.pow_le_pow_right (by decide) (by omega))
  have above := rounded_le (mantissa / 2 ^ shift) accuracy
  have grown : accuracy.roundToNearestEven (mantissa / 2 ^ shift) < 2 ^ (bits - shift + 1) := by
    have room := Nat.two_pow_pos (bits - shift)
    rw [Nat.pow_succ]
    omega
  have log := log_lt grown (Nat.succ_pos _)
  omega

theorem round_with_accuracy_bounded (sign : Sign) {mantissa bits : Nat} (exponent : Int)
    (accuracy : Accuracy) {limit : Int} (size : mantissa < 2 ^ bits) (some : 0 < bits)
    (start : exponent ≤ limit) (total : bits + exponent - 52 ≤ limit) (least : -1074 ≤ limit) :
    Bounded limit (roundWithAccuracy format sign mantissa exponent accuracy) := by
  have log := log_lt size some
  unfold roundWithAccuracy shiftToTargetExponent shiftToExponent
  dsimp only
  split
  · trivial
  · simp only [target_exponent_eq, totalExponent, ExtendedMantissa.roundedMantissa,
      shifted_mantissa, mantissa_of_accuracy, Bounded]
    generalize shifted :
      (max ((mantissa.log2 : Int) + 1 + exponent - 53) (-1074) - exponent).toNat = shift
    have carried := rounded_log size shift
      ((ExtendedMantissa.ofMantissaAndAccuracy mantissa accuracy >>> shift).accuracy)
    omega

theorem round_bounded (sign : Sign) {mantissa bits : Nat} (exponent : Int) {limit : Int}
    (size : mantissa < 2 ^ bits) (some : 0 < bits) (total : bits + exponent - 52 ≤ limit)
    (least : -1074 ≤ limit) :
    Bounded limit (UnpackedFloat.round format sign mantissa exponent) := by
  have log := log_lt size some
  unfold UnpackedFloat.round decreaseExponent
  dsimp only
  rw [target_exponent_eq, totalExponent]
  generalize shifted :
    (exponent - max ((mantissa.log2 : Int) + 1 + exponent - 53) (-1074)).toNat = shift
  have grown : mantissa <<< shift < 2 ^ (bits + shift) := by
    rw [Nat.shiftLeft_eq, Nat.pow_add]
    exact Nat.mul_lt_mul_of_pos_right size (Nat.two_pow_pos shift)
  exact round_with_accuracy_bounded sign _ .exact grown (by omega) (by omega) (by omega) least

/-! Operations -/

theorem bounded_cases {limit : Int} {value : Float} (bounded : Bounded limit (opened value)) :
    (∃ sign, opened value = .zero sign) ∨
      ∃ sign mantissa exponent, ∃ positive : 0 < mantissa,
        opened value = .finite sign mantissa exponent positive ∧ mantissa < 2 ^ 53 ∧
          exponent ≤ limit := by
  cases read : opened value with
  | notANumber =>
      rw [read] at bounded
      exact bounded.elim
  | infinity sign =>
      rw [read] at bounded
      exact bounded.elim
  | zero sign => exact .inl ⟨sign, rfl⟩
  | finite sign mantissa exponent positive =>
      rw [read] at bounded
      exact .inr ⟨sign, mantissa, exponent, positive, rfl, opened_mantissa read, bounded⟩

section Operations

variable {first second : Float} {one other limit : Int}

theorem mul_bounded (left : Bounded one (opened first)) (right : Bounded other (opened second))
    (total : one + other + 54 ≤ limit) (least : -1074 ≤ limit) (greatest : limit ≤ 971) :
    Bounded limit (opened (first * second)) := by
  show Bounded limit (UnpackedFloat.unpack format (UnpackedFloat.pack format
    (UnpackedFloat.mul format (opened first) (opened second))))
  apply unpack_pack_bounded least greatest
  rcases bounded_cases left with
    ⟨sign, zero⟩ | ⟨sign, mantissa, exponent, positive, read, short, low⟩
  · rcases bounded_cases right with ⟨turn, nothing⟩ | ⟨turn, size, power, large, reread, _⟩
    · rw [zero, nothing]
      trivial
    · rw [zero, reread]
      trivial
  · rcases bounded_cases right with
      ⟨turn, nothing⟩ | ⟨turn, size, power, large, reread, brief, high⟩
    · rw [read, nothing]
      trivial
    · have product : mantissa * size < 2 ^ 53 * 2 ^ 53 := Nat.mul_lt_mul'' short brief
      rw [← Nat.pow_add] at product
      rw [read, reread]
      exact round_with_accuracy_bounded _ _ .exact product (by decide) (by omega) (by omega) least

theorem normalize_bounded {mantissa : Int} {bits : Nat} (exponent : Int) (zero : Sign)
    (size : mantissa.natAbs < 2 ^ bits) (some : 0 < bits) (total : bits + exponent - 52 ≤ limit)
    (least : -1074 ≤ limit) :
    Bounded limit (UnpackedFloat.normalize format mantissa exponent zero) := by
  unfold UnpackedFloat.normalize
  split
  · have short : (-mantissa).toNat < 2 ^ bits := by omega
    exact round_bounded _ exponent short some total least
  · trivial
  · have short : mantissa.toNat < 2 ^ bits := by omega
    exact round_bounded _ exponent short some total least

theorem apply_magnitude (sign : Sign) (magnitude : Nat) :
    (sign.apply (magnitude : Int)).natAbs = magnitude := by
  cases sign
  · exact Int.natAbs_neg _
  · rfl

/-- A mantissa brought down to a lesser exponent. -/
theorem aligned_size {mantissa : Nat} (short : mantissa < 2 ^ 53) {exponent greater : Int}
    (lesser : Int) (most : exponent ≤ greater) :
    mantissa <<< (exponent - lesser).toNat < 2 ^ (53 + (greater - lesser).toNat) := by
  rw [Nat.shiftLeft_eq, Nat.pow_add]
  apply Nat.mul_lt_mul_of_lt_of_le short
  · exact Nat.pow_le_pow_right (by decide) (by omega)
  · exact Nat.two_pow_pos _

theorem add_bounded (left : Bounded one (opened first)) (right : Bounded other (opened second))
    (most : one + 2 ≤ limit) (more : other + 2 ≤ limit) (least : -1074 ≤ limit)
    (greatest : limit ≤ 971) : Bounded limit (opened (first + second)) := by
  show Bounded limit (UnpackedFloat.unpack format (UnpackedFloat.pack format
    (UnpackedFloat.add format (opened first) (opened second))))
  apply unpack_pack_bounded least greatest
  rcases bounded_cases left with
    ⟨sign, zero⟩ | ⟨sign, mantissa, exponent, positive, read, short, low⟩
  · rcases bounded_cases right with ⟨turn, nothing⟩ | ⟨turn, size, power, large, reread, _, high⟩
    · rw [zero, nothing]
      cases sign <;> cases turn <;> trivial
    · rw [zero, reread]
      show power ≤ limit
      omega
  · rcases bounded_cases right with
      ⟨turn, nothing⟩ | ⟨turn, size, power, large, reread, brief, high⟩
    · rw [read, nothing]
      show exponent ≤ limit
      omega
    · rw [read, reread]
      simp only [UnpackedFloat.add, decreaseExponent]
      generalize bottom : min exponent power = lesser
      generalize top : max exponent power = greater
      have here := aligned_size short lesser (show exponent ≤ greater by omega)
      have there := aligned_size brief lesser (show power ≤ greater by omega)
      have sum := Int.natAbs_add_le (sign.apply ↑(mantissa <<< (exponent - lesser).toNat))
        (turn.apply ↑(size <<< (power - lesser).toNat))
      rw [apply_magnitude, apply_magnitude] at sum
      have total : (sign.apply ↑(mantissa <<< (exponent - lesser).toNat) +
          turn.apply ↑(size <<< (power - lesser).toNat)).natAbs <
            2 ^ (53 + (greater - lesser).toNat + 1) := by
        rw [Nat.pow_succ]
        omega
      exact normalize_bounded _ _ total (by omega) (by omega) least

theorem sqrt_bounded {mantissa : Nat} {exponent : Int} {positive : 0 < mantissa}
    (read : opened first = .finite .positive mantissa exponent positive) (low : exponent ≤ one)
    (total : one ≤ limit + limit) (least : 0 ≤ limit) (greatest : limit ≤ 971) :
    Bounded limit (opened first.sqrt) := by
  show Bounded limit (UnpackedFloat.unpack format (UnpackedFloat.pack format
    (UnpackedFloat.sqrt format (opened first))))
  apply unpack_pack_bounded (by omega) greatest
  rw [read]
  simp only [UnpackedFloat.sqrt, sqrtCore]
  generalize middle : min (exponent.ediv 2)
    (format.targetExponent ((totalExponent mantissa exponent + 1).ediv 2)) = half
  have below : half ≤ exponent / 2 := by
    rw [← middle]
    exact Int.min_le_left _ _
  generalize doubled : (exponent - 2 * half).toNat = shift
  have grown : mantissa <<< shift < 2 ^ (53 + shift) := by
    rw [Nat.shiftLeft_eq, Nat.pow_add]
    exact Nat.mul_lt_mul_of_pos_right (opened_mantissa read) (Nat.two_pow_pos shift)
  have root : Nat.sqrt (mantissa <<< shift) < 2 ^ ((54 + shift) / 2) := by
    rw [Nat.sqrt_lt', ← Nat.pow_mul]
    exact Nat.lt_of_lt_of_le grown (Nat.pow_le_pow_right (by decide) (by omega))
  exact round_with_accuracy_bounded _ half _ root (by omega) (by omega) (by omega) (by omega)

end Operations

/-! Reading -/

theorem exponent_field (value : Float) :
    value.toBits.toNat / Nat.pow 2 52 % Nat.pow 2 11 =
      (unpackExponent (word value)).toNat := by
  unfold unpackExponent
  rw [BitVec.toNat_cast, BitVec.extractLsb_toNat, Nat.shiftRight_eq_div_pow]
  rfl

theorem read_finite {value : Float} (finite : value.isFinite = true) :
    ∃ negative magnitude, read value = .finite negative magnitude := by
  have unpacked : (opened value).isFinite = true := finite
  rw [opened, Float.Model.unpack, unpack_eq] at unpacked
  have ordinary := (ordinary_iff _).mp (ordinary_of_finite _ _ _ unpacked)
  rw [← exponent_field] at ordinary
  unfold read
  dsimp only
  rw [if_neg (by omega)]
  split
  · exact ⟨_, _, rfl⟩
  · split <;> exact ⟨_, _, rfl⟩

end FormulaPlot.Binary64
