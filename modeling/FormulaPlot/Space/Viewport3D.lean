import FormulaPlot.Plane.Viewport

/-!
The visible box of space and the camera that orbits it. Angles are in radians.
-/

namespace FormulaPlot

open FormulaPlot.Scalar

set_option autoImplicit false

structure Point3D (α : Type) where
  x : α
  y : α
  z : α

structure Viewport3D (α : Type) where
  x : Interval α
  y : Interval α
  z : Interval α
  yaw : α
  pitch : α
  distance : α
  deriving BEq

/-- The axes of a box that an operation is meant for. -/
structure AxisChoice where
  x : Bool
  y : Bool
  z : Bool

namespace Viewport3D

variable {α : Type} [Scalar α]

def standardYaw : α := 0.95

def standardPitch : α := -(0.55)

def standardDistance : α := 3.35

def standard : Viewport3D α :=
  ⟨.standard, .standard, .standard, standardYaw, standardPitch, standardDistance⟩

def greatestPitch : α := 1.45

def leastDistance : α := 1.35

def greatestDistance : α := 18.0

def finiteOr (value standard : α) : α := if isFinite value then value else standard

def clamp (least greatest value : α) : α := maximum least (minimum greatest value)

def sanitized (viewport : Viewport3D α) : Viewport3D α where
  x := viewport.x.sanitized
  y := viewport.y.sanitized
  z := viewport.z.sanitized
  yaw := finiteOr viewport.yaw standardYaw
  pitch := clamp (-greatestPitch) greatestPitch (finiteOr viewport.pitch standardPitch)
  distance :=
    clamp leastDistance greatestDistance (finiteOr viewport.distance standardDistance)

def rotate (viewport : Viewport3D α) (yaw pitch : α) : Viewport3D α :=
  sanitized { viewport with yaw := viewport.yaw + yaw, pitch := viewport.pitch + pitch }

def zoom (viewport : Viewport3D α) (factor : α) : Viewport3D α :=
  sanitized { viewport with distance := viewport.distance * factor }

/-- Scales the chosen axes about their centres. -/
def scale (viewport : Viewport3D α) (factor : α) (axes : AxisChoice) : Viewport3D α :=
  let scaled (chosen : Bool) (interval : Interval α) :=
    if chosen then interval.scaleAboutCenter factor else interval
  sanitized
    { viewport with
      x := scaled axes.x viewport.x
      y := scaled axes.y viewport.y
      z := scaled axes.z viewport.z }

end Viewport3D

end FormulaPlot
