import FormulaPlot.Pen.Style
import FormulaPlot.Space.Projection
import FormulaPlot.Space.Surface

/-!
Faces and segments of space, kept by the depth of their pictures. What has a corner without a
picture is left out; the rest is painted from far to near.
-/

namespace FormulaPlot

open FormulaPlot.Scalar

set_option autoImplicit false

structure PaintedSegment (α : Type) where
  first : ScreenPoint α
  second : ScreenPoint α
  depth : α
  style : Style

structure PaintedFace (α : Type) where
  corners : Quad (ScreenPoint α)
  depth : α
  fill : Datum
  alpha : Float

structure Painter (α : Type) where
  project : Projector α
  faces : Array (PaintedFace α)
  segments : Array (PaintedSegment α)

namespace Painter

variable {α : Type} [Scalar α]

def ofProjector (project : Projector α) : Painter α := ⟨project, #[], #[]⟩

def segmentDepth (first second : ScreenPoint α) : α := (first.depth + second.depth) * 0.5

def faceDepth (corners : Quad (ScreenPoint α)) : α :=
  (zero + corners.first.depth + corners.second.depth + corners.third.depth +
    corners.fourth.depth) * 0.25

def segment? (project : Projector α) (first second : Point3D α) (style : Style) :
    Option (PaintedSegment α) :=
  match project first, project second with
  | some first, some second => some ⟨first, second, segmentDepth first second, style⟩
  | _, _ => none

def face? (project : Projector α) (corners : Quad (Point3D α)) (fill : Datum) (alpha : Float) :
    Option (PaintedFace α) :=
  match project corners.first, project corners.second, project corners.third,
    project corners.fourth with
  | some first, some second, some third, some fourth =>
      some ⟨⟨first, second, third, fourth⟩, faceDepth ⟨first, second, third, fourth⟩, fill, alpha⟩
  | _, _, _, _ => none

/-- The answer tells whether the segment has a picture. -/
def addSegment (painter : Painter α) (first second : Point3D α) (style : Style) :
    Bool × Painter α :=
  match segment? painter.project first second style with
  | some segment => (true, { painter with segments := painter.segments.push segment })
  | none => (false, painter)

/-- The answer tells whether the face has a picture. -/
def addFace (painter : Painter α) (corners : Quad (Point3D α)) (fill : Datum) (alpha : Float) :
    Bool × Painter α :=
  match face? painter.project corners fill alpha with
  | some face => (true, { painter with faces := painter.faces.push face })
  | none => (false, painter)

def notBehind (first second : α) : Bool := !decide (second < first)

/-- Faces by ascending depth. Those of one depth keep the order in which they were added. -/
def orderedFaces (painter : Painter α) : List (PaintedFace α) :=
  painter.faces.toList.mergeSort fun first second => notBehind first.depth second.depth

/-- Segments by ascending depth. Those of one depth keep the order in which they were added. -/
def orderedSegments (painter : Painter α) : List (PaintedSegment α) :=
  painter.segments.toList.mergeSort fun first second => notBehind first.depth second.depth

end Painter

end FormulaPlot
