import FormulaPlot.Pen.Style
import FormulaPlot.Plane.Viewport

/-!
Marks that a pen is asked to make, and the notes that a pen takes which has nothing to draw on.
-/

namespace FormulaPlot

set_option autoImplicit false

inductive Mark (point : Type) where
  | line (first second : point)
  | polyline (points : List point)
  | polygon (points : List point)
  | text (content : String) (position : point) (align : String) (attributes : Datum)

/-- A mark, and the pen as it was when the mark was made. -/
structure Stroke where
  pen : Pen
  mark : Mark (Point Float)

namespace Mark

def map {point other : Type} (place : point → other) : Mark point → Mark other
  | line first second => line (place first) (place second)
  | polyline points => polyline (points.map place)
  | polygon points => polygon (points.map place)
  | text content position align attributes => text content (place position) align attributes

/-- Texts stand to the right of their position unless told otherwise. -/
def standardAlign : String := "left"

def lineNote (first second : Datum) : String :=
  "pure virtual draw_line called: " ++ first.shown ++ ", " ++ second.shown

def lineNotes : List Datum → List String
  | first :: second :: rest => lineNote first second :: lineNotes (second :: rest)
  | _ => []

/-- What is noted of a mark that cannot be made. A polyline counts as its single lines. -/
def notes : Mark Datum → List String
  | line first second => [lineNote first second]
  | polyline points => lineNotes points
  | polygon points => ["pure virtual draw_polygon called: " ++ (Datum.list points).shown]
  | text content position align attributes =>
      [String.intercalate ", "
        ["pure virtual draw_text called: " ++ content, position.shown, align, attributes.shown]]

/-- How a pen without anything to draw on presents itself. -/
def bareTitle : String := "an abstract Drawable instance"

def displayNote : String := "pure virtual display function called"

end Mark

end FormulaPlot
