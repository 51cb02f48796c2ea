import FormulaPlot.Numeric.Scalar
import Mathlib

/-!
Doubles and their three fields. Unpacking a packed double depends on the sign field in no other way
than through the sign, and packing loses nothing of what was unpacked.
-/

namespace FormulaPlot.Binary64

open Float.Model Float.Model.UnpackedFloat

set_option autoImplicit false

/-- The format of doubles. -/
abbrev format : Format := Format.binary64

theorem hidden_bit (mantissa : BitVec format.mantissaBitsWithoutImplicit) :
    (1#1 ++ mantissa).toNat = 2 ^ 52 + mantissa.toNat := by
  rw [BitVec.toNat_append, ← Nat.shiftLeft_add_eq_or_of_lt mantissa.isLt]
  rfl

/-- The meaning of the three fields of a double. -/
def ofFields (sign : Sign) (exponent : BitVec format.exponentBits)
    (mantissa : BitVec format.mantissaBitsWithoutImplicit) : UnpackedFloat :=
  if exponent = -1#_ then if mantissa = 0#_ then .infinity sign else .notANumber
  else if exponent = 0#_ then
    if nonzero : mantissa = 0#_ then .zero sign
    else .finite sign mantissa.toNat (-1074)
      (by simpa [BitVec.toNat_pos, BitVec.pos_iff_ne_zero])
  else .finite sign (1#1 ++ mantissa).toNat (exponent.toNat - 1075) (by rw [hidden_bit]; omega)

theorem unpack_eq (bits : BitVec format.numBits) :
    UnpackedFloat.unpack format bits =
      ofFields (Sign.ofBitVec (unpackSign bits)) (unpackExponent bits) (unpackMantissa bits) := by
  unfold UnpackedFloat.unpack ofFields
  dsimp only
  by_cases subnormal : unpackExponent bits = 0#_
  · rw [subnormal]
    rfl
  · rw [if_neg subnormal, if_neg subnormal]
    rfl

section Components

variable (sign : Sign) (exponent : BitVec format.exponentBits)
  (mantissa : BitVec format.mantissaBitsWithoutImplicit)

theorem unpack_components :
    UnpackedFloat.unpack format (packComponents format sign exponent mantissa) =
      ofFields sign exponent mantissa := by
  rw [unpack_eq, unpackSign_packComponents, Sign.ofBitVec_toBitVec, unpackExponent_packComponents,
    unpackMantissa_packComponents]

theorem of_fields_neg :
    ofFields (-sign) exponent mantissa = (ofFields sign exponent mantissa).neg := by
  unfold ofFields
  split
  · split <;> rfl
  · split
    · split <;> rfl
    · rfl

theorem unpack_components_neg :
    UnpackedFloat.unpack format (packComponents format (-sign) exponent mantissa) =
      (UnpackedFloat.unpack format (packComponents format sign exponent mantissa)).neg := by
  rw [unpack_components, unpack_components, of_fields_neg]

end Components

theorem unpack_pack_neg (value : UnpackedFloat) :
    UnpackedFloat.unpack format (UnpackedFloat.pack format value.neg) =
      (UnpackedFloat.unpack format (UnpackedFloat.pack format value)).neg := by
  cases value with
  | notANumber => rfl
  | infinity sign => exact unpack_components_neg sign _ _
  | zero sign => exact unpack_components_neg sign _ _
  | finite sign mantissa exponent positive =>
      simp only [UnpackedFloat.neg, UnpackedFloat.pack]
      split
      · exact unpack_components_neg sign _ _
      · split <;> exact unpack_components_neg sign _ _

/-- Packing loses nothing of what was unpacked. -/
theorem unpack_pack_unpack (bits : BitVec format.numBits) :
    UnpackedFloat.unpack format (UnpackedFloat.pack format (UnpackedFloat.unpack format bits)) =
      UnpackedFloat.unpack format bits := by
  rw [pack_unpack]
  split
  next special =>
    have ⟨full, nonzero⟩ := of_decide_eq_true special
    have unread : UnpackedFloat.unpack format bits = .notANumber := by
      rw [unpack_eq, ofFields, if_pos full, if_neg nonzero]
    rw [unread, unpack_packedNaN]
  next => rfl

/-- The bits of a double. -/
abbrev word (value : Float) : BitVec format.numBits := value.toModel.toBits.toBitVec

/-- A double as it is unpacked for arithmetic. -/
def opened (value : Float) : UnpackedFloat := value.toModel.unpack

theorem eq_of_model {first second : Float} (same : first.toModel = second.toModel) :
    first = second := by
  cases first
  cases second
  exact congrArg Float.ofModel same

theorem lt_iff (first second : Float) :
    first < second ↔ (opened first).compare (opened second) = some .lt := by
  show decide ((opened first).lt (opened second) = true) = true ↔ _
  rw [decide_eq_true_iff, UnpackedFloat.lt, beq_iff_eq]

theorem le_iff (first second : Float) :
    first ≤ second ↔ ((opened first).compare (opened second)).any (·.isLE) = true := by
  show decide ((opened first).le (opened second) = true) = true ↔ _
  rw [decide_eq_true_iff]
  rfl

theorem opened_zero : opened 0.0 = .zero .positive := rfl

end FormulaPlot.Binary64
