import FormulaPlot.Numeric.Scalar
import FormulaPlot.Pen.Color

/-!
Numbers and colours in exported documents. Small and large numbers are written with two decimals and
a power of ten, all others with at most four decimals.
-/

namespace FormulaPlot

open FormulaPlot.Decimal

set_option autoImplicit false

inductive ExportFault where
  | numeric (fault : Fault)
  | nonFinite (number : Extended)
  | color (value : Datum)

def ExportFault.message : ExportFault → String
  | numeric fault => fault.message
  | nonFinite number => "cannot format non-finite value " ++ shortest number
  | color value => "invalid hex color: " ++ value.literal

def ExportFault.lift {result : Type} (computed : Except Fault result) : Except ExportFault result :=
  computed.mapError .numeric

abbrev Exported := Except ExportFault String

namespace Tikz

/-- Numbers of this size and more are written with a power of ten. -/
def leastLarge : Rat := 10000

def leastPlain : Rat := 1 / 1000

def isPlain (magnitude : Rat) : Bool :=
  magnitude == 0 || (decide (leastPlain ≤ magnitude) && decide (magnitude < leastLarge))

def exponentialText (negative : Bool) (magnitude : Rat) : String :=
  signed negative ((Scientific.ofMagnitude 3 magnitude).exponential 1)

def numberText : Extended → Exported
  | .finite negative magnitude =>
      .ok (if isPlain magnitude then fixedTrimmed 4 (.finite negative magnitude)
        else exponentialText negative magnitude)
  | .infinite _ => .error (.numeric .infinityWithoutExponent)
  | .notANumber => .ok (fixedTrimmed 4 .notANumber)

def number {α : Type} [Scalar α] (value : α) : Exported := numberText (Scalar.read value)

/-- Exactly so many decimals. -/
def fixedNumber (places : Nat) (value : Float) : Exported :=
  match Binary64.read value with
  | .finite negative magnitude => .ok (fixed places (.finite negative magnitude))
  | special => .error (.nonFinite special)

def colorText (color : Color) : String :=
  "\x7brgb,255:red," ++ toString color.red ++ ";green," ++ toString color.green ++ ";blue," ++
    toString color.blue ++ "\x7d"

def colorOf (value : Datum) : Except ExportFault Color :=
  match Color.ofDatum? value with
  | some color => .ok color
  | none => .error (.color value)

def color (value : Datum) : Exported := (colorOf value).map colorText

def pair {α : Type} [Scalar α] (x y : α) : Exported := do
  let first ← number x
  let second ← number y
  return "(" ++ first ++ "," ++ second ++ ")"

def braced (text : String) : String := "\x7b" ++ text ++ "\x7d"

end Tikz

end FormulaPlot
