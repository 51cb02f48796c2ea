import FormulaPlot.Drawing.Picture
import FormulaPlot.Drawing.Setup

/-!
Boards that a pen draws on. A drawing's board turns marks into entities; a bare board has nothing to
keep them, and takes notes instead.
-/

namespace FormulaPlot

set_option autoImplicit false

inductive BoardKind where
  | bare
  | drawing (name : String) (entities : List Entity)

structure Board where
  pen : Pen
  kind : BoardKind

namespace Board

def bare : Board := ⟨.standard, .bare⟩

def drawing : Board := ⟨Entity.pen, .drawing Drawing.standardName []⟩

def title (board : Board) : String :=
  match board.kind with
  | .bare => Mark.bareTitle
  | .drawing .. => Entity.penTitle

def entities (board : Board) : List Entity :=
  match board.kind with
  | .bare => []
  | .drawing _ entities => entities

def name? (board : Board) : Option String :=
  match board.kind with
  | .bare => none
  | .drawing name _ => some name

/-- A bare board has no name to change. -/
def rename (board : Board) (value : Datum) : Except PenFault Board :=
  match board.kind with
  | .bare => .ok board
  | .drawing _ entities =>
      (Drawing.nameOfDatum value).map fun name =>
        { board with kind := .drawing name entities }

def coordinate : Datum → Float
  | .whole value => Binary64.ofInt value
  | .decimal value => value
  | _ => 0.0

/-- Of the coordinates that are offered for a point the first two count. -/
def place : Datum → Point Float
  | .list (x :: y :: _) => ⟨coordinate x, coordinate y⟩
  | .tuple (x :: y :: _) => ⟨coordinate x, coordinate y⟩
  | _ => ⟨0.0, 0.0⟩

/-- The board after a mark, and what is noted of the mark. -/
def make [DrawingFormat] (board : Board) (mark : Mark Datum) : Except PenFault (Board × List String) :=
  match board.kind with
  | .bare => .ok (board, mark.notes)
  | .drawing name entities =>
      (Entity.ofStroke? ⟨board.pen, mark.map place⟩).map fun entity =>
        ({ board with kind := .drawing name (entities ++ entity.toList) }, [])

end Board

end FormulaPlot
