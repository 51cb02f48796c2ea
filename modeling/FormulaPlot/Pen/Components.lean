import FormulaPlot.Pen.State

/-!
The red, green and blue parts of colours, as far as a value that is offered for one has any.
-/

namespace FormulaPlot

set_option autoImplicit false

namespace Color

def toData (color : Color) : List Datum :=
  [.whole color.red, .whole color.green, .whole color.blue]

/-- A flag has no parts. Lists and tuples are taken as they are, and records by their keys. -/
def components : Datum → Except PenFault (Option (List Datum))
  | .flag _ => .ok none
  | .text text =>
      match ofHex? text with
      | some color => .ok (some color.toData)
      | none => .error (.textColor (.text text))
  | .list items => .ok (some items)
  | .tuple items => .ok (some items)
  | .record fields => .ok (some (fields.map fun field => .text field.1))
  | value => .error (.noColor value)

/-- Components beyond a byte count by their lowest eight bits. -/
def lowByte (value : Int) : Nat := (value % 256).toNat

/-- The colour that a value is taken for where one is required. -/
def required (value : Datum) : Except PenFault Color :=
  match components value with
  | .error fault => .error fault
  | .ok none => .error .noComponents
  | .ok (some [.whole red, .whole green, .whole blue]) =>
      .ok ⟨lowByte red, lowByte green, lowByte blue⟩
  | .ok (some items) =>
      .error (if items.length = 3 then .textColor value else .componentCount items.length)

end Color

end FormulaPlot
