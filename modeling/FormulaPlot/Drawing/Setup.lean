import FormulaPlot.Drawing.Entity

/-!
New drawings: their name, the layers and line types that they are given, and what is settled of the
document they are saved in.
-/

namespace FormulaPlot.Drawing

set_option autoImplicit false

def standardName : String := "graphtotex-out"

/-- A drawing is named by a text that is not empty. -/
def nameOfDatum : Datum → Except PenFault String
  | .text name => if name.isEmpty then .error (.fileName (.text name)) else .ok name
  | value => .error (.fileName value)

structure LayerRow where
  name : String
  colorIndex : Nat
  deriving DecidableEq, Repr

/-- What a drawing has before anything is drawn. -/
structure Setup where
  units : Nat
  version : String
  layers : List LayerRow
  lineTypes : List String
  /-- Drawn and left out in turn, after the length of the whole pattern. -/
  dashPattern : List Float

/-- Coordinates have no unit; the version is one with colours and transparencies of entities. Layers
and line types are in the order of their names. -/
def setup : Setup where
  units := 0
  version := "AC1024"
  layers :=
    [⟨"0", 7⟩, ⟨Layer.axes, 7⟩, ⟨Layer.curves, 7⟩, ⟨"Defpoints", 7⟩, ⟨Layer.grid, 8⟩,
      ⟨Layer.surfaces, 7⟩]
  lineTypes := ["ByBlock", "ByLayer", Entity.continuousLine, Entity.dashedLine]
  dashPattern := [0.6, 0.5, -0.1]

end FormulaPlot.Drawing
