import FormulaPlot.Numeric.Scalar

/-!
Lists cut down to a number of evenly spread items, the first and the last one among them.
-/

namespace FormulaPlot.Thinning

open FormulaPlot.Scalar

set_option autoImplicit false

/-- Places of the items that are kept of `count` ones. -/
def places (α : Type) [Scalar α] (count most : Nat) : Except Fault (List Nat) :=
  if most = 1 then .error .wholeDivisionByZero
  else
    let step : α := ofInt ((count : Int) - 1) / ofInt ((most : Int) - 1)
    (List.range most).mapM fun index => (floor (ofNat index * step + 0.5)).map Int.toNat

/-- Short lists stay as they are. -/
def thin (α : Type) [Scalar α] {item : Type} (most : Nat) (items : List item) :
    Except Fault (List item) :=
  if items.length ≤ most then .ok items
  else
    let indexed := items.toArray
    (places α indexed.size most).map fun kept => kept.filterMap fun place => indexed[place]?

end FormulaPlot.Thinning
