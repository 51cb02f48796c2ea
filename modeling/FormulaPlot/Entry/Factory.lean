import FormulaPlot.Entry.Entry

/-!
New rows, numbered in turn and coloured from a palette, and the rows of the built-in examples.
-/

namespace FormulaPlot

set_option autoImplicit false

/-- Named examples in the order of their names. -/
def examples : List (String × List String) :=
  [("crra", ["(x^(1-1/10.5))/(1-(1/10.5))"]),
    ("mixed", ["1/(x-1)", "exp(0.2*x)"]),
    ("parabola", ["x^2 - 2*x - 3", "0.5*x + 2"]),
    ("sine", ["sin(x)", "cos(x)"])]

def otherExample : List String := ["x^2", "sin(x)"]

def emptyPaletteMessage : String := "palette must not be empty"

structure EntryFactory where
  palette : Array String
  counter : Int
  nonempty : 0 < palette.size

namespace EntryFactory

def ofPalette? (palette : List String) (counter : Int) : Option EntryFactory :=
  if nonempty : 0 < palette.toArray.size then some ⟨palette.toArray, counter, nonempty⟩ else none

def standard : EntryFactory := ⟨standardPalette.toArray, 0, by decide⟩

def advance (factory : EntryFactory) : EntryFactory :=
  { factory with counter := factory.counter + 1 }

/-- Rows are named by their number. -/
def name (factory : EntryFactory) : String := "expr-" ++ toString factory.counter

/-- The palette is gone through again and again. -/
def color (factory : EntryFactory) : String :=
  have positive : (0 : Int) < factory.palette.size := by
    have nonempty := factory.nonempty
    omega
  have bound : (factory.counter % factory.palette.size).toNat < factory.palette.size := by
    have below := Int.emod_lt_of_pos factory.counter positive
    omega
  factory.palette[(factory.counter % factory.palette.size).toNat]

def appearance (factory : EntryFactory) : Appearance := { color := .text factory.color }

/-- The next row, with what is asked to be different about it. -/
def create (factory : EntryFactory) (raw : String) (customize : CurveEntry → CurveEntry) :
    CurveEntry × EntryFactory :=
  let next := factory.advance
  (customize { name := next.name, raw := raw, appearance := next.appearance }, next)

def createSurface (factory : EntryFactory) (raw : String)
    (customize : SurfaceEntry → SurfaceEntry) : SurfaceEntry × EntryFactory :=
  let next := factory.advance
  (customize { name := next.name, raw := raw, appearance := next.appearance }, next)

def createAll (factory : EntryFactory) (customize : CurveEntry → CurveEntry) :
    List String → List CurveEntry × EntryFactory
  | [] => ([], factory)
  | raw :: rest =>
      let (entry, factory) := factory.create raw customize
      let (entries, factory) := factory.createAll customize rest
      (entry :: entries, factory)

def createAllSurfaces (factory : EntryFactory) (customize : SurfaceEntry → SurfaceEntry) :
    List String → List SurfaceEntry × EntryFactory
  | [] => ([], factory)
  | raw :: rest =>
      let (entry, factory) := factory.createSurface raw customize
      let (entries, factory) := factory.createAllSurfaces customize rest
      (entry :: entries, factory)

/-- The rows of an example; other names give a pair of rows of their own. -/
def ofExample (factory : EntryFactory) (key : String) : List CurveEntry × EntryFactory :=
  factory.createAll id ((examples.lookup key).getD otherExample)

end EntryFactory

end FormulaPlot
