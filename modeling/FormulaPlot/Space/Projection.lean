import FormulaPlot.Space.Viewport3D

/-!
The perspective picture of a box. The box is centred, brought to its longest side, turned and seen
from a distance; depth grows towards the camera.
-/

namespace FormulaPlot

open FormulaPlot.Scalar

set_option autoImplicit false

structure ScreenPoint (α : Type) where
  x : α
  y : α
  depth : α

/-- Cosines and sines of the camera's angles. -/
structure Orientation (α : Type) where
  cosYaw : α
  sinYaw : α
  cosPitch : α
  sinPitch : α

/-- Infinite angles have no direction. -/
def Orientation.ofAngles (yaw pitch : Float) : Except Fault (Orientation Float) :=
  if yaw.isInf || pitch.isInf then .error .outsideDomain
  else .ok ⟨yaw.cos, yaw.sin, pitch.cos, pitch.sin⟩

abbrev Projector (α : Type) := Point3D α → Option (ScreenPoint α)

structure Camera (α : Type) where
  center : Point3D α
  /-- Turns lengths of the box into lengths of a box from -1 to 1. -/
  normalize : α
  orientation : Orientation α
  distance : α
  middle : Point α
  pixelScale : α

namespace Camera

variable {α : Type} [Scalar α]

def leastSide : α := 1e-9

def nearPlane : α := 0.08

def projectionScale : α := 0.45

def ofViewport (viewport : Viewport3D α) (orientation : Orientation α) (canvas : Canvas α) :
    Camera α :=
  let side (interval : Interval α) := maximum leastSide interval.span
  { center := ⟨viewport.x.center, viewport.y.center, viewport.z.center⟩
    normalize :=
      2.0 / maximum (maximum (side viewport.x) (side viewport.y)) (side viewport.z)
    orientation := orientation
    distance := viewport.distance
    middle := ⟨canvas.width / 2.0, canvas.height / 2.0⟩
    pixelScale := minimum canvas.width canvas.height * projectionScale }

/-- Points behind the near plane, or without a finite picture, have none. -/
def project (camera : Camera α) : Projector α := fun point =>
  let across := (point.x - camera.center.x) * camera.normalize
  let along := (point.y - camera.center.y) * camera.normalize
  let up := (point.z - camera.center.z) * camera.normalize
  let turned := camera.orientation
  let xYaw := across * turned.cosYaw - along * turned.sinYaw
  let yYaw := across * turned.sinYaw + along * turned.cosYaw
  let yTurned := yYaw * turned.cosPitch - up * turned.sinPitch
  let zTurned := yYaw * turned.sinPitch + up * turned.cosPitch
  let distance := camera.distance - zTurned
  if !decide (nearPlane < distance) then none
  else
    let perspective := 1.0 / distance
    let x := camera.middle.x + xYaw * perspective * camera.pixelScale
    let y := camera.middle.y - yTurned * perspective * camera.pixelScale
    if isFinite x && isFinite y then some ⟨x, y, zTurned⟩ else none

end Camera

/-- The projector of a camera at the viewport's own angles. -/
def projector (viewport : Viewport3D Float) (canvas : Canvas Float) :
    Except Fault (Projector Float) :=
  (Orientation.ofAngles viewport.yaw viewport.pitch).map fun orientation =>
    (Camera.ofViewport viewport orientation canvas).project

end FormulaPlot
