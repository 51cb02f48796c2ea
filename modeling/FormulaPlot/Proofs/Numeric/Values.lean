import FormulaPlot.Proofs.Numeric.Exponents

/-!
Values of doubles. A finite double stands for a whole multiple of a power of two, which is the
number that reading it gives, and finite doubles are compared as these numbers are.
-/

namespace FormulaPlot.Binary64

open Float.Model Float.Model.UnpackedFloat

set_option autoImplicit false

/-- The number that a finite double stands for; there is none for the others. -/
def toRat (value : Float) : Rat := (read value).toRat?.getD 0

/-- The number that an unpacked double stands for. -/
def worth : UnpackedFloat → Rat
  | .finite sign mantissa exponent _ => (sign.apply mantissa : Int) * (2 : Rat) ^ exponent
  | _ => 0

/-! Fields -/

section Fields

variable (value : Float)

theorem mantissa_field :
    value.toBits.toNat % Nat.pow 2 52 = (unpackMantissa (word value)).toNat := by
  unfold unpackMantissa
  rw [BitVec.toNat_cast, BitVec.extractLsb_toNat, Nat.shiftRight_eq_div_pow]
  show _ = _ / 2 ^ 0 % 2 ^ 52
  rw [Nat.pow_zero, Nat.div_one]
  rfl

theorem sign_field : decide (Nat.pow 2 63 ≤ value.toBits.toNat) =
    (Sign.ofBitVec (unpackSign (word value)) == .negative) := by
  have below : value.toBits.toNat < 2 ^ 64 := value.toBits.toNat_lt
  have bit : (unpackSign (word value)).toNat = value.toBits.toNat / 2 ^ 63 % 2 := by
    unfold unpackSign
    rw [BitVec.toNat_cast, BitVec.extractLsb_toNat, Nat.shiftRight_eq_div_pow]
    rfl
  unfold Sign.ofBitVec
  split
  · next zero =>
      rw [zero] at bit
      have short : value.toBits.toNat / 2 ^ 63 % 2 = 0 := bit.symm
      show decide (2 ^ 63 ≤ _) = false
      rw [decide_eq_false_iff_not]
      omega
  · next other =>
      have one : (unpackSign (word value)).toNat ≠ 0 := fun zero =>
        other (BitVec.eq_of_toNat_eq zero)
      show decide (2 ^ 63 ≤ _) = true
      rw [decide_eq_true_iff]
      omega

end Fields

/-! Reading -/

theorem power_of_two (shift : Nat) : ((Nat.pow 2 shift : Nat) : Rat) = 2 ^ shift :=
  Nat.cast_pow 2 shift

theorem scaled_down (size shift : Nat) :
    mkRat size (Nat.pow 2 shift) = size * (2 : Rat) ^ (-(shift : Int)) := by
  rw [Rat.mkRat_eq_div, power_of_two, div_eq_mul_inv, zpow_neg, zpow_natCast, Int.cast_natCast]

/-- With or without a fraction, a significand is scaled by its power of two. -/
theorem normal_magnitude (negative : Bool) (significand field : Nat) :
    (if exponentBias ≤ field then
        .finite negative ((significand * Nat.pow 2 (field - exponentBias) : Nat) : Rat)
      else .finite negative (mkRat significand (Nat.pow 2 (exponentBias - field))) : Extended) =
      .finite negative (significand * (2 : Rat) ^ ((field : Int) - 1075)) := by
  have bias : exponentBias = 1075 := rfl
  split
  · next up =>
      have exponent : (field : Int) - 1075 = (field - exponentBias : Nat) := by omega
      rw [exponent, zpow_natCast, Nat.cast_mul, power_of_two]
  · next down =>
      have exponent : (field : Int) - 1075 = -(exponentBias - field : Nat) := by omega
      rw [exponent, scaled_down]

theorem worth_finite (sign : Sign) (mantissa : Nat) (exponent : Int) (positive : 0 < mantissa) :
    worth (.finite sign mantissa exponent positive) =
      if sign == .negative then -((mantissa : Rat) * 2 ^ exponent)
      else (mantissa : Rat) * 2 ^ exponent := by
  cases sign with
  | negative =>
      show ((-(mantissa : Int) : Int) : Rat) * 2 ^ exponent = -((mantissa : Rat) * 2 ^ exponent)
      push_cast
      ring
  | positive => rfl

/-- Reading a finite double gives its sign and the magnitude of its value. -/
theorem read_eq {value : Float} (finite : value.isFinite = true) :
    ∃ negative, ∃ magnitude : Rat, read value = .finite negative magnitude ∧ 0 ≤ magnitude ∧
      worth (opened value) = if negative then -magnitude else magnitude := by
  have unpacked : (opened value).isFinite = true := finite
  have fields : opened value = ofFields (Sign.ofBitVec (unpackSign (word value)))
      (unpackExponent (word value)) (unpackMantissa (word value)) := unpack_eq _
  rw [fields] at unpacked ⊢
  have special := ordinary_of_finite _ _ _ unpacked
  have ordinary := (ordinary_iff _).mp special
  unfold read
  dsimp only
  rw [sign_field, mantissa_field, exponent_field, if_neg (by omega)]
  unfold ofFields
  rw [if_neg special]
  split
  · next none =>
      rw [if_pos (BitVec.eq_of_toNat_eq none), scaled_down]
      refine ⟨_, _, rfl, by positivity, ?_⟩
      split
      · next zero =>
          have nothing : (unpackMantissa (word value)).toNat = 0 := congrArg BitVec.toNat zero
          rw [nothing]
          simp [worth]
      · exact worth_finite _ _ _ _
  · next some =>
      have other : unpackExponent (word value) ≠ 0#_ := fun none =>
        some (congrArg BitVec.toNat none)
      have full : (1#1 ++ unpackMantissa (word value)).toNat =
          (unpackMantissa (word value)).toNat + Nat.pow 2 52 := by
        rw [hidden_bit, Nat.add_comm]
        rfl
      rw [if_neg other, normal_magnitude, ← full]
      exact ⟨_, _, rfl, by positivity, worth_finite _ _ _ _⟩

/-! Order -/

/-- Mantissas fill their 53 bits, unless the exponent is the least one. -/
structure Canonical (mantissa : Nat) (exponent : Int) : Prop where
  short : mantissa < 2 ^ 53
  least : -1074 ≤ exponent
  full : 2 ^ 52 ≤ mantissa ∨ exponent = -1074

theorem canonical_of_fields {sign other : Sign} {exponent : BitVec format.exponentBits}
    {mantissa : BitVec format.mantissaBitsWithoutImplicit} {size : Nat} {power : Int}
    {positive : 0 < size}
    (read : ofFields sign exponent mantissa = .finite other size power positive) :
    Canonical size power := by
  have short := of_fields_mantissa sign exponent mantissa read
  have hidden := hidden_bit mantissa
  unfold ofFields at read
  split at read
  · split at read <;> exact absurd read UnpackedFloat.noConfusion
  · split at read
    · split at read
      · exact absurd read UnpackedFloat.noConfusion
      · injection read with _ _ same
        exact ⟨short, same.le, .inr same.symm⟩
    · next some =>
        injection read with _ size same
        have field : exponent.toNat ≠ 0 := fun none => some (BitVec.eq_of_toNat_eq none)
        exact ⟨short, by omega, .inl (by omega)⟩

theorem opened_canonical {value : Float} {sign : Sign} {mantissa : Nat} {exponent : Int}
    {positive : 0 < mantissa} (read : opened value = .finite sign mantissa exponent positive) :
    Canonical mantissa exponent := by
  rw [opened, Float.Model.unpack, unpack_eq] at read
  exact canonical_of_fields read

/-- The double with the greater exponent is the greater one. -/
theorem Canonical.below {mantissa size : Nat} {exponent power : Int}
    (first : Canonical mantissa exponent) (second : Canonical size power)
    (less : exponent < power) : (mantissa : Rat) * 2 ^ exponent < size * 2 ^ power := by
  have floor := first.least
  have full : 2 ^ 52 ≤ size := second.full.resolve_right (by omega)
  calc (mantissa : Rat) * 2 ^ exponent
      < 2 ^ 53 * 2 ^ exponent := by
        have short : (mantissa : Rat) < 2 ^ 53 := by exact_mod_cast first.short
        gcongr
    _ = 2 ^ 52 * 2 ^ (exponent + 1) := by
        rw [zpow_add_one₀ (by decide)]
        ring
    _ ≤ 2 ^ 52 * 2 ^ power := by
        gcongr
        · decide
        · omega
    _ ≤ size * 2 ^ power := by
        have long : (2 : Rat) ^ 52 ≤ size := by exact_mod_cast full
        gcongr

theorem Canonical.compare_eq {mantissa size : Nat} {exponent power : Int}
    (first : Canonical mantissa exponent) (second : Canonical size power) :
    (compare exponent power).then (compare mantissa size) =
      compare ((mantissa : Rat) * 2 ^ exponent) (size * 2 ^ power) := by
  rcases lt_trichotomy exponent power with less | same | greater
  · rw [compare_lt_iff_lt.mpr less, compare_lt_iff_lt.mpr (first.below second less)]
    rfl
  · subst same
    have positive : (0 : Rat) < 2 ^ exponent := by positivity
    rw [compare_eq_iff_eq.mpr (Eq.refl exponent)]
    show compare mantissa size = _
    rcases lt_trichotomy mantissa size with less | same | greater
    · rw [compare_lt_iff_lt.mpr less, compare_lt_iff_lt.mpr]
      have cast : (mantissa : Rat) < size := by exact_mod_cast less
      gcongr
    · rw [compare_eq_iff_eq.mpr same, compare_eq_iff_eq.mpr (by rw [same])]
    · rw [compare_gt_iff_gt.mpr greater, compare_gt_iff_gt.mpr]
      have cast : (size : Rat) < mantissa := by exact_mod_cast greater
      show (size : Rat) * 2 ^ exponent < mantissa * 2 ^ exponent
      gcongr
  · rw [compare_gt_iff_gt.mpr greater, compare_gt_iff_gt.mpr (second.below first greater)]
    rfl

theorem finite_cases {value : Float} (finite : value.isFinite = true) :
    (∃ sign, opened value = .zero sign) ∨
      ∃ sign mantissa exponent, ∃ positive : 0 < mantissa,
        opened value = .finite sign mantissa exponent positive ∧ Canonical mantissa exponent := by
  rcases bounded_cases ((finite_iff_bounded value).mp finite) with
    zero | ⟨sign, mantissa, exponent, positive, read, _⟩
  · exact .inl zero
  · exact .inr ⟨sign, mantissa, exponent, positive, read, opened_canonical read⟩

theorem swap_compare (first second : Rat) :
    (compare first second).swap = compare (-first) (-second) := by
  rcases lt_trichotomy first second with less | same | greater
  · rw [compare_lt_iff_lt.mpr less, compare_gt_iff_gt.mpr (neg_lt_neg less)]
    rfl
  · rw [compare_eq_iff_eq.mpr same, compare_eq_iff_eq.mpr (congrArg Neg.neg same)]
    rfl
  · rw [compare_gt_iff_gt.mpr greater, compare_lt_iff_lt.mpr (neg_lt_neg greater)]
    rfl

section Order

variable {first second : Float}

theorem compare_worth (finite : first.isFinite = true) (other : second.isFinite = true) :
    (opened first).compare (opened second) =
      some (compare (worth (opened first)) (worth (opened second))) := by
  have scale (exponent : Int) : (0 : Rat) < 2 ^ exponent := by positivity
  rcases finite_cases finite with ⟨sign, zero⟩ | ⟨sign, mantissa, exponent, positive, read, here⟩
  · rcases finite_cases other with ⟨turn, nothing⟩ | ⟨turn, size, power, large, reread, there⟩
    · rw [zero, nothing]
      rfl
    · have above : (0 : Rat) < size * 2 ^ power := mul_pos (Nat.cast_pos.mpr large) (scale power)
      rw [zero, reread, worth_finite]
      cases turn with
      | negative =>
          exact congrArg some (compare_gt_iff_gt.mpr (neg_lt_zero.mpr above)).symm
      | positive => exact congrArg some (compare_lt_iff_lt.mpr above).symm
  · have above : (0 : Rat) < mantissa * 2 ^ exponent :=
      mul_pos (Nat.cast_pos.mpr positive) (scale exponent)
    rcases finite_cases other with ⟨turn, nothing⟩ | ⟨turn, size, power, large, reread, there⟩
    · rw [read, nothing, worth_finite]
      cases sign with
      | negative => exact congrArg some (compare_lt_iff_lt.mpr (neg_lt_zero.mpr above)).symm
      | positive => exact congrArg some (compare_gt_iff_gt.mpr above).symm
    · have beyond : (0 : Rat) < size * 2 ^ power := mul_pos (Nat.cast_pos.mpr large) (scale power)
      rw [read, reread, worth_finite, worth_finite]
      cases sign with
      | positive =>
          cases turn with
          | positive => exact congrArg some (here.compare_eq there)
          | negative =>
              exact congrArg some
                (compare_gt_iff_gt.mpr ((neg_lt_zero.mpr beyond).trans above)).symm
      | negative =>
          cases turn with
          | positive =>
              exact congrArg some
                (compare_lt_iff_lt.mpr ((neg_lt_zero.mpr above).trans beyond)).symm
          | negative =>
              show some ((compare exponent power).then (compare mantissa size)).swap =
                some (compare (-((mantissa : Rat) * 2 ^ exponent)) (-((size : Rat) * 2 ^ power)))
              rw [here.compare_eq there, swap_compare]

theorem to_rat_eq (finite : first.isFinite = true) : toRat first = worth (opened first) := by
  obtain ⟨negative, magnitude, read, _, same⟩ := read_eq finite
  rw [toRat, read, same]
  rfl

/-- Finite doubles are in the order of their values. -/
theorem lt_iff_value (finite : first.isFinite = true) (other : second.isFinite = true) :
    first < second ↔ toRat first < toRat second := by
  rw [lt_iff, compare_worth finite other, to_rat_eq finite, to_rat_eq other, Option.some_inj,
    compare_lt_iff_lt]

theorem le_iff_value (finite : first.isFinite = true) (other : second.isFinite = true) :
    first ≤ second ↔ toRat first ≤ toRat second := by
  rw [le_iff, compare_worth finite other, to_rat_eq finite, to_rat_eq other, Option.any_some,
    Ordering.isLE_iff_ne_gt]
  exact compare_le_iff_le

end Order

end FormulaPlot.Binary64
