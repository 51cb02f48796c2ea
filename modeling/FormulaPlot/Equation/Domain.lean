import FormulaPlot.Plane.Viewport

/-!
Domains as they are typed: each end is the number that its text starts with, or the end of the
visible range.
-/

namespace FormulaPlot

open FormulaPlot.Scalar

set_option autoImplicit false

namespace Domain

variable {α : Type} [Scalar α]

/-- The finite number that a text starts with. -/
def leadingNumber? (text : String) : Option α :=
  match Decimal.leadingNumeral? text.toList with
  | none => none
  | some numeral =>
      let value : α := ofNumeral numeral
      if isFinite value then some value else none

/-- A declared interval. Missing ends are those of another interval. -/
def declared (lo hi : String) (otherwise : Interval α) : Interval α :=
  .ordered ((leadingNumber? lo).getD otherwise.lo) ((leadingNumber? hi).getD otherwise.hi)

/-- What is visible of a declared interval. -/
def visible? (lo hi : String) (visible : Interval α) : Option (Interval α) :=
  (declared lo hi visible).clip? visible

end Domain

end FormulaPlot
