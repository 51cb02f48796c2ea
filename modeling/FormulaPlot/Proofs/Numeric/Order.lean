import FormulaPlot.Proofs.Numeric.Accuracy

/-!
The order of all doubles that stand for something. Infinities lie at both ends of the finite
doubles, so that comparing is the same as comparing places in a linear order. Sums and products
leave that order only where infinities of both signs meet.
-/

namespace FormulaPlot.Binary64

open Float.Model Float.Model.UnpackedFloat

set_option autoImplicit false

/-- Where a double stands among the rationals between two infinities. -/
def place (value : Float) : WithBot (WithTop Rat) :=
  match opened value with
  | .infinity .negative => ⊥
  | .infinity .positive => ⊤
  | _ => ((toRat value : WithTop Rat) : WithBot (WithTop Rat))

/-- A double that stands for something, be it an infinity. -/
def IsDefined (value : Float) : Prop := value.isNaN = false

section Defined

variable {value first second : Float}

theorem defined_iff : IsDefined value ↔ opened value ≠ .notANumber := by
  have read : value.isNaN = (opened value).isNaN := rfl
  rw [IsDefined, read]
  cases opened value with
  | notANumber => exact ⟨nofun, fun other => absurd rfl other⟩
  | _ => exact ⟨fun _ => nofun, fun _ => rfl⟩

theorem defined_of_finite (finite : value.isFinite = true) : IsDefined value := by
  have read : (opened value).isFinite = true := finite
  rw [defined_iff]
  intro undefined
  rw [undefined] at read
  contradiction

theorem defined_cases (defined : IsDefined value) :
    (∃ sign, opened value = .infinity sign) ∨ value.isFinite = true := by
  have number := defined_iff.mp defined
  show _ ∨ (opened value).isFinite = true
  cases read : opened value with
  | notANumber => exact absurd read number
  | infinity sign => exact .inl ⟨sign, rfl⟩
  | zero sign => exact .inr rfl
  | finite => exact .inr rfl

theorem place_of_finite (finite : value.isFinite = true) :
    place value = ((toRat value : WithTop Rat) : WithBot (WithTop Rat)) := by
  unfold place
  rcases finite_cases finite with ⟨sign, read⟩ | ⟨sign, _, _, _, read, _⟩ <;> rw [read]

theorem compare_between (less more : Rat) :
    compare ((less : WithTop Rat) : WithBot (WithTop Rat)) (more : WithTop Rat) =
      compare less more := by
  have rising : StrictMono fun value : Rat => ((value : WithTop Rat) : WithBot (WithTop Rat)) :=
    WithBot.coe_strictMono.comp WithTop.coe_strictMono
  rw [← cmp_eq_compare, ← cmp_eq_compare]
  exact rising.cmp_map_eq less more

theorem compare_infinite_finite {sign : Sign} (read : opened first = .infinity sign)
    (finite : second.isFinite = true) :
    (opened first).compare (opened second) = some (compare (place first) (place second)) ∧
      (opened second).compare (opened first) = some (compare (place second) (place first)) := by
  have inside := place_of_finite finite
  have below : (⊥ : WithBot (WithTop Rat)) < place second := by
    rw [inside]
    exact WithBot.bot_lt_coe _
  have above : place second < (⊤ : WithBot (WithTop Rat)) := by
    rw [inside]
    exact WithBot.coe_lt_coe.mpr (WithTop.coe_lt_top _)
  cases sign with
  | negative =>
      have lowest : place first = ⊥ := by simp only [place, read]
      rw [lowest, compare_lt_iff_lt.mpr below, compare_gt_iff_gt.mpr below, read]
      rcases finite_cases finite with ⟨turn, reread⟩ | ⟨turn, _, _, _, reread, _⟩ <;>
        rw [reread] <;> cases turn <;> exact ⟨rfl, rfl⟩
  | positive =>
      have highest : place first = ⊤ := by simp only [place, read]
      rw [highest, compare_gt_iff_gt.mpr above, compare_lt_iff_lt.mpr above, read]
      rcases finite_cases finite with ⟨turn, reread⟩ | ⟨turn, _, _, _, reread, _⟩ <;>
        rw [reread] <;> cases turn <;> exact ⟨rfl, rfl⟩

/-- Doubles are compared as their places are. -/
theorem compare_place (one : IsDefined first) (other : IsDefined second) :
    (opened first).compare (opened second) = some (compare (place first) (place second)) := by
  rcases defined_cases one with ⟨sign, read⟩ | finite
  · rcases defined_cases other with ⟨turn, reread⟩ | within
    · simp only [place, read, reread]
      cases sign <;> cases turn <;> rfl
    · exact (compare_infinite_finite read within).1
  · rcases defined_cases other with ⟨turn, reread⟩ | within
    · exact (compare_infinite_finite reread finite).2
    · rw [compare_worth finite within, place_of_finite finite, place_of_finite within,
        compare_between, to_rat_eq finite, to_rat_eq within]

theorem lt_iff_place (one : IsDefined first) (other : IsDefined second) :
    first < second ↔ place first < place second := by
  rw [lt_iff, compare_place one other, Option.some_inj, compare_lt_iff_lt]

theorem le_iff_place (one : IsDefined first) (other : IsDefined second) :
    first ≤ second ↔ place first ≤ place second := by
  rw [le_iff, compare_place one other, Option.any_some, Ordering.isLE_iff_ne_gt]
  exact compare_le_iff_le

theorem beq_iff_place (one : IsDefined first) (other : IsDefined second) :
    (first == second) = true ↔ place first = place second := by
  show ((opened first).compare (opened second) == some .eq) = true ↔ _
  rw [compare_place one other, beq_iff_eq, Option.some_inj, compare_eq_iff_eq]

theorem beq_undefined (undefined : ¬IsDefined second) : (first == second) = false := by
  have read : opened second = .notANumber := not_not.mp (mt defined_iff.mpr undefined)
  show ((opened first).compare (opened second) == some .eq) = false
  rw [read]
  cases opened first <;> rfl

theorem lt_undefined (undefined : ¬IsDefined second) : ¬first < second := by
  have read : opened second = .notANumber := not_not.mp (mt defined_iff.mpr undefined)
  rw [lt_iff, read]
  cases opened first <;> nofun

theorem undefined_le (undefined : ¬IsDefined first) : ¬first ≤ second := by
  have read : opened first = .notANumber := not_not.mp (mt defined_iff.mpr undefined)
  rw [le_iff, read]
  cases opened second <;> nofun

/-- What is not below zero is still not above it if it stands for nothing. -/
theorem positive_iff : 0.0 < value ↔ IsDefined value ∧ ¬value ≤ 0.0 := by
  by_cases defined : IsDefined value
  · have zero : IsDefined 0.0 := rfl
    rw [lt_iff_place zero defined, le_iff_place defined zero, not_le]
    exact (and_iff_right defined).symm
  · exact ⟨fun positive => absurd positive (lt_undefined defined),
      fun number => absurd number.1 defined⟩

end Defined

/-! Sums and products -/

section Arithmetic

variable {first second factor : Float}

theorem unpack_pack_infinity (sign : Sign) :
    UnpackedFloat.unpack format (UnpackedFloat.pack format (.infinity sign)) = .infinity sign := by
  cases sign <;> rfl

theorem add_defined (one : IsDefined first) (finite : second.isFinite = true) :
    IsDefined (first + second) := by
  rcases defined_cases one with ⟨sign, read⟩ | within
  · have sum : UnpackedFloat.add format (opened first) (opened second) = .infinity sign := by
      rw [read]
      rcases finite_cases finite with ⟨turn, reread⟩ | ⟨turn, _, _, _, reread, _⟩ <;>
        rw [reread] <;> rfl
    have packed : opened (first + second) = UnpackedFloat.unpack format (UnpackedFloat.pack format
      (UnpackedFloat.add format (opened first) (opened second))) := rfl
    rw [defined_iff, packed, sum, unpack_pack_infinity]
    exact nofun
  · exact defined_iff.mpr (sum_is_number within finite)

/-- A finite factor other than zero gives a product that stands for something. -/
theorem mul_defined {sign : Sign} {mantissa : Nat} {exponent : Int} {positive : 0 < mantissa}
    (one : IsDefined first) (scale : opened factor = .finite sign mantissa exponent positive) :
    IsDefined (first * factor) := by
  have product : opened (first * factor) = UnpackedFloat.unpack format (UnpackedFloat.pack format
      (UnpackedFloat.mul format (opened first) (opened factor))) := rfl
  rw [defined_iff, product, scale]
  cases read : opened first with
  | notANumber => exact absurd read (defined_iff.mp one)
  | infinity turn =>
      rw [UnpackedFloat.mul, unpack_pack_infinity]
      exact nofun
  | zero turn => exact unpack_pack_number rfl
  | finite turn size power large =>
      apply unpack_pack_number
      rw [UnpackedFloat.mul, roundWithAccuracy]
      dsimp only
      split <;> rfl

end Arithmetic

end FormulaPlot.Binary64
