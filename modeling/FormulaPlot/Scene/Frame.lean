import FormulaPlot.Pen.Style
import FormulaPlot.Plane.Viewport

/-!
What pictures of the plane and of space have in common: which parts of the frame are shown, labels,
and the sizes that a canvas may have.
-/

namespace FormulaPlot

open FormulaPlot.Decimal

set_option autoImplicit false

structure PlaneSettings where
  grid : Bool := true
  axes : Bool := true
  ticks : Bool := true

structure SpaceSettings where
  grid : Bool := true
  axes : Bool := true
  box : Bool := true

def labelColor : Datum := .text "#111827"

def labelHeight {α : Type} [Scalar α] : α := 12.0

structure Label (α : Type) where
  text : String
  position : Point α
  layer : String := Layer.axes
  color : Datum := labelColor
  height : α

/-- The number at a tick, with three decimals at most. -/
def tickLabel {α : Type} [Scalar α] (tick : α) : String := fixedTrimmed 3 (Scalar.read tick)

inductive SceneFault where
  | size (width height : Extended)
  | numeric (fault : Fault)

def SceneFault.message : SceneFault → String
  | size width height => "bad scene size " ++ shortest width ++ "x" ++ shortest height
  | numeric fault => fault.message

def SceneFault.lift {result : Type} (computed : Except Fault result) : Except SceneFault result :=
  computed.mapError .numeric

/-- Canvases have a positive width and height. -/
def Canvas.check {α : Type} [Scalar α] (canvas : Canvas α) : Except SceneFault Unit :=
  if canvas.width ≤ Scalar.zero ∨ canvas.height ≤ Scalar.zero then
    .error (.size (Scalar.read canvas.width) (Scalar.read canvas.height))
  else .ok ()

end FormulaPlot
