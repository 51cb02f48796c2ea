import FormulaPlot.Text.Ranges

/-!
White space of all scripts, and texts without it at their ends.
-/

namespace FormulaPlot.Text

set_option autoImplicit false

def blankRanges : Ranges :=
  [
    (0x9, 0xd), (0x1c, 0x20), (0x85, 0x85), (0xa0, 0xa0), (0x1680, 0x1680),
    (0x2000, 0x200a), (0x2028, 0x2029), (0x202f, 0x202f), (0x205f, 0x205f), (0x3000, 0x3000)]

def isBlank (character : Char) : Bool := blankRanges.contains character.toNat

def trimEnd (keep : Char → Bool) (characters : List Char) : List Char :=
  (characters.reverse.dropWhile fun character => !keep character).reverse

/-- Text from its first to its last character that is not of a class. -/
def stripAll (isDropped : Char → Bool) (characters : List Char) : List Char :=
  trimEnd (fun character => !isDropped character) (characters.dropWhile isDropped)

def strip (characters : List Char) : List Char := stripAll isBlank characters

end FormulaPlot.Text
