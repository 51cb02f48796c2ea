import FormulaPlot.Plane.Interval

/-!
Tick marks at multiples of a step that is one, two or five times a power of ten. Whole steps are
counted exactly; fractional ones are added up.
-/

namespace FormulaPlot

open FormulaPlot.Scalar

set_option autoImplicit false

/-- Scalars with the power of ten that a positive one reaches. -/
class DecimalScale (α : Type) extends Scalar α where
  leadingExponent : α → Except Fault Int
  powerOfTen : Int → α

instance : DecimalScale Float where
  leadingExponent value :=
    if value ≤ 0.0 then .error .outsideDomain else Scalar.floor value.log10
  powerOfTen exponent := Float.pow 10.0 (Binary64.ofInt exponent)

instance : DecimalScale Rat where
  leadingExponent value :=
    if value ≤ 0 then .error .outsideDomain else .ok (Decimal.leadingExponent value)
  powerOfTen := Decimal.powerOfTen

inductive Step (α : Type) where
  | whole (size : Nat)
  | fractional (size : α)

namespace Step

variable {α : Type} [DecimalScale α]

def size : Step α → α
  | whole size => ofNat size
  | fractional size => size

/-- The least of one, two, five and ten that is not below a number. -/
def multiplier (normalized : α) : Nat :=
  if normalized ≤ 1.0 then 1 else if normalized ≤ 2.0 then 2 else if normalized ≤ 5.0 then 5
  else 10

def ofRough (rough : α) : Except Fault (Step α) := do
  match ← DecimalScale.leadingExponent rough with
  | .ofNat exponent =>
      let power : Nat := Nat.pow 10 exponent
      let normalized ← divide rough (ofNat power)
      return .whole (multiplier normalized * power)
  | exponent =>
      let power : α := DecimalScale.powerOfTen exponent
      let normalized ← divide rough power
      match multiplier normalized with
      | 1 => return .fractional power
      | multiple => return .fractional (ofNat multiple * power)

/-- A step that divides a range into about `most` parts. -/
def nice (range : α) (most : Int) : Except Fault (Step α) :=
  if !isFinite range || decide (range ≤ zero) || decide (most ≤ 0) then .ok (.fractional 1.0)
  else ofRough (range / ofInt most)

def wholeTicks (step : Nat) (first : Int) (limit : α) : Except Fault (List α) :=
  match floor limit with
  | .error _ => if ofInt first ≤ limit then .error .endless else .ok []
  | .ok last =>
      if last < first then .ok []
      else
        .ok ((List.range ((last - first).toNat / step + 1)).map fun (index : Nat) =>
          ofInt (first + (index : Int) * step))

/-- Decimals kept of a tick, so that sums of rounded steps do not show. -/
def tickPlaces : Nat := 10

/-- The ticks from one on. Where more of them are left than a loop that ends can have, this one does
not end. -/
def addedTicks (step limit : α) (left : Nat) (tick : α) : Except Fault (List α) :=
  if tick ≤ limit then
    match left with
    | 0 => .error .endless
    | left + 1 =>
        (addedTicks step limit left (tick + step)).map
          (Scalar.roundPlaces tickPlaces tick :: ·)
  else .ok []

theorem added_ticks_past {step limit tick : α} (left : Nat) (past : ¬tick ≤ limit) :
    addedTicks step limit left tick = .ok [] := by
  rw [addedTicks.eq_def, if_neg past]

theorem added_ticks_step {step limit tick : α} (left : Nat) (reached : tick ≤ limit) :
    addedTicks step limit (left + 1) tick =
      (addedTicks step limit left (tick + step)).map (Scalar.roundPlaces tickPlaces tick :: ·) := by
  rw [addedTicks.eq_def, if_pos reached]

/-- Rounding leaves two thirds of a step or more, or it leaves nothing of it and the loop never
ends. -/
def tickBound (step first limit : α) : Nat :=
  match floor ((limit - first) / step) with
  | .error _ => 0
  | .ok count => 2 * (count.toNat + 4)

def ticksFrom (step : Step α) (interval : Interval α) : Except Fault (List α) := do
  let limit := interval.hi + step.size * 0.5
  let index ← ceil (← divide interval.lo step.size)
  match step with
  | .whole size => wholeTicks size (index * size) limit
  | .fractional size =>
      let first := ofInt index * size
      addedTicks size limit (tickBound size first limit) first

end Step

/-- The ticks of an interval, about `most` of them. -/
def Interval.ticks {α : Type} [DecimalScale α] (interval : Interval α) (most : Int) :
    Except Fault (List α) := do
  let step ← Step.nice interval.span most
  step.ticksFrom interval

end FormulaPlot
