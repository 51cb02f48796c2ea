import FormulaPlot.Plane.Interval

/-!
The visible rectangle of the plane, and its maps to and from a canvas whose origin is the top left
corner.
-/

namespace FormulaPlot

open FormulaPlot.Scalar

set_option autoImplicit false

structure Point (α : Type) where
  x : α
  y : α
  deriving DecidableEq

structure Viewport (α : Type) where
  x : Interval α
  y : Interval α
  deriving BEq

/-- The size of a canvas in pixels. -/
structure Canvas (α : Type) where
  width : α
  height : α

namespace Viewport

variable {α : Type} [Scalar α]

def standard : Viewport α := ⟨.standard, .standard⟩

def sanitized (viewport : Viewport α) : Viewport α :=
  ⟨viewport.x.sanitized, viewport.y.sanitized⟩

def toWorld (viewport : Viewport α) (canvas : Canvas α) (pixel : Point α) :
    Except Fault (Point α) := do
  let across ← divide pixel.x canvas.width
  let down ← divide pixel.y canvas.height
  return ⟨viewport.x.lo + across * viewport.x.span, viewport.y.hi - down * viewport.y.span⟩

def toCanvas (viewport : Viewport α) (canvas : Canvas α) (point : Point α) :
    Except Fault (Point α) := do
  let across ← divide (point.x - viewport.x.lo) viewport.x.span
  let down ← divide (viewport.y.hi - point.y) viewport.y.span
  return ⟨across * canvas.width, down * canvas.height⟩

/-- The content follows a drag over the canvas. -/
def pan (viewport : Viewport α) (canvas : Canvas α) (drag : Point α) :
    Except Fault (Viewport α) := do
  let across ← divide drag.x canvas.width
  let down ← divide drag.y canvas.height
  return sanitized
    ⟨viewport.x.shiftBack (across * viewport.x.span), viewport.y.shift (down * viewport.y.span)⟩

/-- Scales both axes about a fixed point of the plane. Factors below one zoom in. -/
def zoomByAxis (viewport : Viewport α) (fixed : Point α) (factorX factorY : α) : Viewport α :=
  sanitized ⟨viewport.x.scaleAbout fixed.x factorX, viewport.y.scaleAbout fixed.y factorY⟩

def zoom (viewport : Viewport α) (fixed : Point α) (factor : α) : Viewport α :=
  viewport.zoomByAxis fixed factor factor

end Viewport

end FormulaPlot
