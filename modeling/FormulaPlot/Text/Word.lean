import FormulaPlot.Text.Digit
import FormulaPlot.Text.Letter

/-!
Characters that words are made of.
-/

namespace FormulaPlot.Text

set_option autoImplicit false

def isAlphanumeric (character : Char) : Bool := isLetter character || isNumberSign character

def isWordCharacter (character : Char) : Bool :=
  isAlphanumeric character || character == '_'

/-- A word starts or ends where exactly one of two neighbours belongs to one. -/
def isWordBoundary (before after : Option Char) : Bool :=
  before.any isWordCharacter != after.any isWordCharacter

end FormulaPlot.Text
