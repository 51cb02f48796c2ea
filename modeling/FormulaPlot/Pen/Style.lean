import FormulaPlot.Pen.State

/-!
How a line is drawn, and the layers that a picture is made of.
-/

namespace FormulaPlot

set_option autoImplicit false

namespace Layer

def grid : String := "GRID"

def axes : String := "AXES"

def curves : String := "CURVES"

def surfaces : String := "SURFACES"

def all : List String := [grid, axes, curves, surfaces]

end Layer

structure Style where
  color : Datum
  width : Float
  dashed : Bool := false
  layer : String := Layer.curves

/-- Takes on the layer, colour, width and dashing of a style. -/
def Pen.take (pen : Pen) (style : Style) : Except PenFault Pen := do
  let pen ← pen.setLayer (.text style.layer)
  let pen ← pen.setLineColor style.color
  let pen ← pen.setLineWidth (.decimal style.width)
  pen.setDashed (.flag style.dashed)

end FormulaPlot
