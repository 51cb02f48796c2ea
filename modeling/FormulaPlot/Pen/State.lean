import FormulaPlot.Pen.Color

/-!
The pen that everything is drawn with. Its settings are offered as values of any type; a refused
value leaves the pen as it was.
-/

namespace FormulaPlot

open FormulaPlot.Decimal

set_option autoImplicit false

inductive PenFault where
  | layerList (value : Datum)
  | layer (value : Datum)
  | lineWidthType (value : Datum)
  | lineWidthSign (value : Datum)
  | dashing (value : Datum)
  | lineColor (value : Datum)
  | fillColor (value : Datum)
  | fillAlpha (value : Datum)
  | textColor (value : Datum)
  | notAPicture (value : Datum)
  | notAScene (value : Datum)
  | noColor (value : Datum)
  | noComponents
  | componentCount (count : Nat)
  | fileName (value : Datum)
  | numeric (fault : Fault)

def PenFault.message : PenFault → String
  | layerList value => "bad layer list " ++ value.shown
  | layer value => "bad layer: " ++ value.shown
  | lineWidthType value => "invalid linewidth " ++ value.shown
  | lineWidthSign value => "linewidth must be positive: " ++ value.shown
  | dashing value => "dashed must be a bool: " ++ value.shown
  | lineColor value => "bad linecolor " ++ value.shown
  | fillColor value => "bad fillcolor " ++ value.shown
  | fillAlpha value => "bad fillalpha " ++ value.shown
  | textColor value => "invalid hex color: " ++ value.literal
  | notAPicture value => "bad argument to Drawable.draw(): " ++ value.shown
  | notAScene value => "bad argument to draw_scene(): " ++ value.literal
  | noColor value => "'" ++ value.typeName ++ "' object is not iterable"
  | noComponents => "cannot unpack non-iterable NoneType object"
  | componentCount count =>
      if count < 3 then
        "not enough values to unpack (expected 3, got " ++ toString count ++ ")"
      else "too many values to unpack (expected 3)"
  | fileName value => "bad (non-string) filename: " ++ value.shown
  | numeric fault => fault.message

structure Pen where
  layers : List Datum
  layer : Datum
  lineWidth : Float
  dashed : Bool
  lineColor : Ink
  fillColor : Ink
  fillAlpha : Float

namespace Pen

/-- A pen on no layer of its own. -/
def ofLayers (layers : List Datum) : Pen where
  layers := layers
  layer := .flag false
  lineWidth := 1.0
  dashed := false
  lineColor := .byLayer
  fillColor := .byLayer
  fillAlpha := 1.0

def standard : Pen := ofLayers [.flag false, .text "default"]

/-- Only a list will do. The layer that is drawn on stays, whether it is listed or not. -/
def setLayers (pen : Pen) : Datum → Except PenFault Pen
  | .list layers => .ok { pen with layers := layers }
  | value => .error (.layerList value)

def setLayer (pen : Pen) (value : Datum) : Except PenFault Pen :=
  if pen.layers.any value.agrees then .ok { pen with layer := value } else .error (.layer value)

def setLineWidth (pen : Pen) (value : Datum) : Except PenFault Pen :=
  match value with
  | .whole width =>
      if width ≤ 0 then .error (.lineWidthSign value)
      else
        match Binary64.ofInt? width with
        | some width => .ok { pen with lineWidth := width }
        | none => .error (.numeric .wholeTooLarge)
  | .decimal width =>
      if width ≤ 0.0 then .error (.lineWidthSign value) else .ok { pen with lineWidth := width }
  | _ => .error (.lineWidthType value)

def setDashed (pen : Pen) : Datum → Except PenFault Pen
  | .flag dashed => .ok { pen with dashed := dashed }
  | value => .error (.dashing value)

def setLineColor (pen : Pen) (value : Datum) : Except PenFault Pen :=
  match Ink.ofDatum? value with
  | some ink => .ok { pen with lineColor := ink }
  | none => .error (.lineColor value)

def setFillColor (pen : Pen) (value : Datum) : Except PenFault Pen :=
  match Ink.ofDatum? value with
  | some ink => .ok { pen with fillColor := ink }
  | none => .error (.fillColor value)

/-- Opacity lies between zero, clear, and one, solid. -/
def setFillAlpha (pen : Pen) (value : Datum) : Except PenFault Pen :=
  match value with
  | .whole alpha =>
      if 0 ≤ alpha ∧ alpha ≤ 1 then .ok { pen with fillAlpha := Binary64.ofInt alpha }
      else .error (.fillAlpha value)
  | .decimal alpha =>
      if 0.0 ≤ alpha ∧ alpha ≤ 1.0 then .ok { pen with fillAlpha := alpha }
      else .error (.fillAlpha value)
  | _ => .error (.fillAlpha value)

end Pen

end FormulaPlot
