import FormulaPlot.Equation.Domain
import FormulaPlot.Equation.Preparation
import FormulaPlot.Pen.Datum

/-!
Rows of a graph as they are typed: a formula, the domain it is wanted on, and how it is drawn.
-/

namespace FormulaPlot

set_option autoImplicit false

/-- The colours that new rows take in turn. -/
def standardPalette : List String :=
  ["#0f766e", "#ef4444", "#2563eb", "#d97706", "#7c3aed", "#0891b2", "#dc2626"]

structure Appearance where
  visible : Bool := true
  color : Datum := .text "#0f766e"
  lineWidth : Float := 2.5
  dashed : Bool := false
  /-- A hint at how finely to sample. -/
  samples : Float := 500.0

/-- The ends of a domain; an empty text leaves the end open. -/
structure DomainText where
  lo : String := ""
  hi : String := ""

structure CurveEntry where
  name : String
  raw : String := ""
  appearance : Appearance := {}
  domain : DomainText := {}

structure SurfaceEntry where
  name : String
  raw : String := ""
  appearance : Appearance := {}
  domainX : DomainText := {}
  domainY : DomainText := {}

structure PreparedCurve where
  entry : CurveEntry
  prepared : Prepared

structure PreparedSurface where
  entry : SurfaceEntry
  prepared : Prepared

def CurveEntry.prepare (entry : CurveEntry) : PreparedCurve :=
  ⟨entry, Equation.prepare entry.raw⟩

def SurfaceEntry.prepare (entry : SurfaceEntry) : PreparedSurface :=
  ⟨entry, Equation.prepareSurface entry.raw⟩

/-- Visible, with a formula that can be evaluated. -/
def PreparedCurve.isDrawable (curve : PreparedCurve) : Bool :=
  curve.entry.appearance.visible && curve.prepared.isReady

def PreparedSurface.isDrawable (surface : PreparedSurface) : Bool :=
  surface.entry.appearance.visible && surface.prepared.isReady

end FormulaPlot
