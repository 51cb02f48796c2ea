import FormulaPlot.Drawing.Mark
import FormulaPlot.Scene.PlaneScene
import FormulaPlot.Scene.SpaceScene

/-!
Drawing of scenes: every primitive is one stroke, made with the pen in that primitive's own style.
Scenes of the plane keep their coordinates; scenes of space are drawn in pixels, turned so that they
stand upright.
-/

namespace FormulaPlot

set_option autoImplicit false

/-- Scenes and lists of pictures can be drawn. Anything else is refused. -/
inductive Picture where
  | plane (scene : PlaneScene Float)
  | space (scene : SpaceScene Float)
  | list (pictures : List Picture)
  | other (value : Datum)

abbrev Drawn := Except PenFault (Pen × List Stroke)

namespace Drawn

/-- Each item is drawn with the pen that the one before has left. -/
def each {item : Type} (draw : Pen → item → Drawn) (pen : Pen) : List item → Drawn
  | [] => .ok (pen, [])
  | item :: rest =>
      match draw pen item with
      | .error fault => .error fault
      | .ok (pen, strokes) =>
          match each draw pen rest with
          | .error fault => .error fault
          | .ok (pen, more) => .ok (pen, strokes ++ more)

def andThen (drawn : Drawn) (draw : Pen → Drawn) : Drawn :=
  match drawn with
  | .error fault => .error fault
  | .ok (pen, strokes) =>
      match draw pen with
      | .error fault => .error fault
      | .ok (pen, more) => .ok (pen, strokes ++ more)

end Drawn

/-- One mark with a pen that may have to be set up first. -/
def Pen.mark (pen : Except PenFault Pen) (mark : Mark (Point Float)) : Drawn :=
  pen.map fun pen => (pen, [⟨pen, mark⟩])

def Polyline.draw (pen : Pen) (line : Polyline Float) : Drawn :=
  Pen.mark (pen.take line.style) (.polyline line.points)

def Label.attributes (label : Label Float) : Datum :=
  .record [("color", label.color), ("height", .decimal label.height)]

def Label.draw (pen : Pen) (label : Label Float) : Drawn :=
  Pen.mark (pen.setLayer (.text label.layer))
    (.text label.text label.position Mark.standardAlign label.attributes)

/-- Labels follow the lines and faces, and are never dashed. -/
def drawLabels (labels : List (Label Float)) (pen : Pen) : Drawn :=
  Drawn.each Label.draw { pen with dashed := false } labels

def PlaneScene.draw (scene : PlaneScene Float) (pen : Pen) : Drawn :=
  (Drawn.each Polyline.draw pen scene.polylines).andThen (drawLabels scene.labels)

namespace SpaceScene

/-- Pixels count downwards, drawings upwards. -/
def upright (height : Float) (point : Point Float) : Point Float := ⟨point.x, height - point.y⟩

def uprightPicture (height : Float) (point : ScreenPoint Float) : Point Float :=
  upright height ⟨point.x, point.y⟩

def takeFill (pen : Pen) (face : PaintedFace Float) : Except PenFault Pen := do
  let pen ← pen.setLayer (.text Layer.surfaces)
  let pen ← pen.setFillColor face.fill
  pen.setFillAlpha (.decimal face.alpha)

def drawFace (height : Float) (pen : Pen) (face : PaintedFace Float) : Drawn :=
  Pen.mark (takeFill pen face) (.polygon (face.corners.toList.map (uprightPicture height)))

def drawSegment (height : Float) (pen : Pen) (segment : PaintedSegment Float) : Drawn :=
  Pen.mark (pen.take segment.style)
    (.line (uprightPicture height segment.first) (uprightPicture height segment.second))

def uprightLabel (height : Float) (label : Label Float) : Label Float :=
  { label with position := upright height label.position }

def draw (scene : SpaceScene Float) (pen : Pen) : Drawn :=
  let height := scene.canvas.height
  ((Drawn.each (drawFace height) pen scene.faces).andThen fun pen =>
    Drawn.each (drawSegment height) pen scene.segments).andThen
      (drawLabels (scene.labels.map (uprightLabel height)))

end SpaceScene

namespace Picture

mutual

/-- A list of values is a list of pictures. -/
def ofDatum : Datum → Picture
  | .list items => list (ofData items)
  | value => other value

def ofData : List Datum → List Picture
  | [] => []
  | item :: rest => ofDatum item :: ofData rest

end

/-- A value is no scene, whatever it is. -/
def sceneOfDatum (value : Datum) : Except PenFault Picture := .error (.notAScene value)

mutual

def draw (pen : Pen) : Picture → Drawn
  | plane scene => scene.draw pen
  | space scene => scene.draw pen
  | list pictures => drawAll pen pictures
  | other value => .error (.notAPicture value)

/-- Pictures in the order of the list, each with the pen that the one before has left. -/
def drawAll (pen : Pen) : List Picture → Drawn
  | [] => .ok (pen, [])
  | picture :: rest => (draw pen picture).andThen fun pen => drawAll pen rest

end

end Picture

end FormulaPlot
