import FormulaPlot.Drawing.Mark
import FormulaPlot.Pen.Components

/-!
Entities of an interchange drawing. Every stroke becomes one entity, except a polyline of fewer than
two points, which becomes none.
-/

namespace FormulaPlot

set_option autoImplicit false

/-- What the format of a drawing settles: the weights that a line may have, in hundredths of a
millimetre, the index of a filled area with a colour of its own, and how a transparency between zero
and one is kept. There is a weight for every line to have. -/
class DrawingFormat where
  weights : List Nat
  weights_present : weights ≠ []
  fillIndex : Nat
  keptTransparency : Float → Nat

namespace Lineweight

/-- Hundredths of a millimetre in a point. -/
def perPoint : Float := 35.28

def distance (target : Float) (weight : Nat) : Float :=
  (Binary64.ofInt weight - target).abs

def nearestFrom (target : Float) (best : Nat) : List Nat → Nat
  | [] => best
  | weight :: rest =>
      nearestFrom target (if distance target weight < distance target best then weight else best)
        rest

/-- The weight nearest to a width in points; of two equally near ones the first. -/
def ofPoints [format : DrawingFormat] (width : Float) : Nat :=
  nearestFrom (width * perPoint) (format.weights.head format.weights_present) format.weights.tail

end Lineweight

/-- Layer, line type, weight and colour of a line. A colour of its own is kept as one number. -/
structure LineAttributes where
  layer : Datum
  lineType : String
  weight : Nat
  color : Option Nat

inductive HorizontalAlign where
  | left
  | center
  | right
  deriving DecidableEq, Repr

inductive Entity where
  | line (attributes : LineAttributes) (first second : Point Float)
  | polyline (attributes : LineAttributes) (points : List (Point Float))
  | hatch (layer : Datum) (colorIndex : Nat) (color : Option Nat) (transparency : Nat)
      (vertices : List (Point Float))
  | text (layer : Datum) (color : Option Nat) (content : String) (height : Float)
      (style : Option String) (align : HorizontalAlign) (position : Point Float)

namespace Entity

/-- The drawing's own index for a colour given by the layer. -/
def colorByLayer : Nat := 256

def typeName : Entity → String
  | line .. => "LINE"
  | polyline .. => "LWPOLYLINE"
  | hatch .. => "HATCH"
  | text .. => "TEXT"

def layer : Entity → Datum
  | line attributes .. => attributes.layer
  | polyline attributes .. => attributes.layer
  | hatch layer .. => layer
  | text layer .. => layer

/-- The layer that entities without a layer of their own are on. -/
def groundLayer : Datum := .text "0"

/-- How the pen of a drawing presents itself. -/
def penTitle : String := "an instance of ezdxfDraw"

/-- The pen of a new drawing. -/
def pen : Pen := .ofLayers (.flag false :: groundLayer :: Layer.all.map .text)

def layerOf (pen : Pen) : Datum := if pen.layer.isFalse then groundLayer else pen.layer

def continuousLine : String := "Continuous"

def dashedLine : String := "DASHED"

def alignOf (name : String) : HorizontalAlign :=
  if name = "CENTER" then .center else if name = "RIGHT" then .right else .left

def attribute? (attributes : Datum) (name : String) : Option Datum :=
  match attributes with
  | .record fields => fields.lookup name
  | _ => none

def standardTextHeight : Float := 0.25

def textHeight (attributes : Datum) : Float :=
  match attribute? attributes "height" with
  | some (.decimal height) => height
  | some (.whole height) => Binary64.ofInt height
  | _ => standardTextHeight

def textStyle? (attributes : Datum) : Option String :=
  match attribute? attributes "style" with
  | some (.text style) => some style
  | _ => none

/-- A text is coloured by its own attribute before the pen's line colour. -/
def textColor (pen : Pen) (attributes : Datum) : Except PenFault (Option Color) :=
  match attribute? attributes "color" with
  | none => .ok pen.lineColor.color?
  | some value => (Color.required value).map some

section Format

variable [format : DrawingFormat]

def lineAttributes (pen : Pen) : LineAttributes where
  layer := layerOf pen
  lineType := if pen.dashed then dashedLine else continuousLine
  weight := Lineweight.ofPoints pen.lineWidth
  color := pen.lineColor.color?.map Color.number

def fillIndex (color : Option Color) : Nat :=
  if color.isSome then format.fillIndex else colorByLayer

/-- What is not opaque is transparent. -/
def transparency (alpha : Float) : Nat := format.keptTransparency (1.0 - alpha)

def ofStroke? (stroke : Stroke) : Except PenFault (Option Entity) :=
  let pen := stroke.pen
  match stroke.mark with
  | .line first second => .ok (some (line (lineAttributes pen) first second))
  | .polyline points =>
      .ok (if points.length < 2 then none else some (polyline (lineAttributes pen) points))
  | .polygon points =>
      let color := pen.fillColor.color?
      .ok (some (hatch (layerOf pen) (fillIndex color) (color.map Color.number)
        (transparency pen.fillAlpha) points))
  | .text content position align attributes =>
      (textColor pen attributes).map fun color =>
        some (text (layerOf pen) (color.map Color.number) content (textHeight attributes)
          (textStyle? attributes) (alignOf align) position)

def ofStrokes : List Stroke → Except PenFault (List Entity)
  | [] => .ok []
  | stroke :: rest =>
      match ofStroke? stroke with
      | .error fault => .error fault
      | .ok entity =>
          match ofStrokes rest with
          | .error fault => .error fault
          | .ok entities => .ok (entity.toList ++ entities)

end Format

end Entity

/-! The format that drawings are saved in -/

/-- Opacity as a byte, above the mark of a transparency of its own. -/
def DrawingFormat.opacityByte (transparency : Float) : Nat :=
  match Scalar.floor ((1.0 - transparency) * 255.0) with
  | .ok level => 0x02000000 + level.toNat
  | .error _ => 0x02000000

/-- The foreground is the index of filled areas. -/
instance standardFormat : DrawingFormat where
  weights := [0, 5, 9, 13, 15, 18, 20, 25, 30, 35, 40, 50, 53, 60, 70, 80, 90, 100, 106, 120, 140,
    158, 200, 211]
  weights_present := List.cons_ne_nil _ _
  fillIndex := 7
  keptTransparency := DrawingFormat.opacityByte

end FormulaPlot
