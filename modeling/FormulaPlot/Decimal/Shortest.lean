import FormulaPlot.Decimal.Digits

/-!
The shortest decimal that reads back as a given double. Of two decimals of the same length the
nearer one is chosen.
-/

namespace FormulaPlot.Decimal

set_option autoImplicit false

def decimalValue (significand : Nat) (exponent : Int) : Rat := significand * powerOfTen exponent

/-- The neighbours of a magnitude among the decimals with a given last place, nearer one first. -/
def neighbours (magnitude : Rat) (places : Int) : List Nat :=
  let below := wholeUnits magnitude places
  let nearest := units magnitude places
  if nearest = below then [below, below + 1] else [below + 1, below]

def readsBack (magnitude : Rat) (value : Rat) : Bool :=
  (Binary64.ofRat value).toBits == (Binary64.ofRat magnitude).toBits

/-- Seventeen digits tell all doubles apart. -/
def mostDigits : Nat := 17

def shortestFrom (magnitude : Rat) (exponent : Int) : (left count : Nat) → Scientific
  | 0, count => Scientific.ofMagnitude count magnitude
  | left + 1, count =>
      let places := (count : Int) - 1 - exponent
      match (neighbours magnitude places).find? fun significand =>
          readsBack magnitude (decimalValue significand (-places)) with
      | some significand =>
          let written := digits significand
          if count < written.length then ⟨written.take count, exponent + 1⟩
          else ⟨written, exponent⟩
      | none => shortestFrom magnitude exponent left (count + 1)

def shortestScientific (magnitude : Rat) : Scientific :=
  if magnitude = 0 then Scientific.zero 1
  else (shortestFrom magnitude (leadingExponent magnitude) (mostDigits - 1) 1).trimmed

/-- Positional with a fraction, if only of one zero, for exponents from -4 up to 15. -/
def shortestMagnitude (magnitude : Rat) : List Char :=
  let number := shortestScientific magnitude
  if -4 ≤ number.exponent ∧ number.exponent < 16 then
    let text := number.positional
    if text.contains '.' then text else text ++ ['.', '0']
  else number.exponential 2

def shortest : Extended → String := withSpecials shortestMagnitude

end FormulaPlot.Decimal
