import FormulaPlot.Pen.Datum

/-!
Colours of three bytes. In hexadecimal they have three or six digits, after an optional number sign;
of three digits each stands for two. A line end may follow the last digit.
-/

namespace FormulaPlot

open FormulaPlot.Decimal

set_option autoImplicit false

structure Color where
  red : Nat
  green : Nat
  blue : Nat
  deriving DecidableEq, Repr

def hexDigit? (character : Char) : Option Nat :=
  let code := character.toNat
  if '0'.toNat ≤ code ∧ code ≤ '9'.toNat then some (code - '0'.toNat)
  else if 'a'.toNat ≤ code ∧ code ≤ 'f'.toNat then some (code - 'a'.toNat + 10)
  else if 'A'.toNat ≤ code ∧ code ≤ 'F'.toNat then some (code - 'A'.toNat + 10)
  else none

namespace Color

def byte (high low : Nat) : Nat := 16 * high + low

def ofDigits? : List Nat → Option Color
  | [red, green, blue] => some ⟨byte red red, byte green green, byte blue blue⟩
  | [red, red2, green, green2, blue, blue2] =>
      some ⟨byte red red2, byte green green2, byte blue blue2⟩
  | _ => none

def hexDigits? : List Char → Option (List Nat)
  | [] => some []
  | ['\n'] => some []
  | character :: rest =>
      match hexDigit? character, hexDigits? rest with
      | some digit, some digits => some (digit :: digits)
      | _, _ => none

def dropNumberSign : List Char → List Char
  | '#' :: rest => rest
  | characters => characters

def ofHex? (text : String) : Option Color :=
  (hexDigits? (dropNumberSign text.toList)).bind ofDigits?

/-- The colour that a value spells in hexadecimal. -/
def ofDatum? : Datum → Option Color
  | .text text => ofHex? text
  | _ => none

/-- The three bytes in one number, red first. -/
def number (color : Color) : Nat := color.red * 0x10000 + color.green * 0x100 + color.blue

end Color

/-- What strokes and fills are coloured with. Without a colour of its own, ink takes that of its
layer. -/
inductive Ink where
  | byLayer
  | hex (text : String)
  | bytes (color : Color)
  deriving DecidableEq, Repr

namespace Ink

def byte? : Datum → Option Nat
  | .whole (.ofNat value) => if value ≤ 255 then some value else none
  | _ => none

def ofItems? : List Datum → Option Ink
  | [red, green, blue] =>
      match byte? red, byte? green, byte? blue with
      | some red, some green, some blue => some (bytes ⟨red, green, blue⟩)
      | _, _, _ => none
  | _ => none

def ofDatum? : Datum → Option Ink
  | .flag false => some byLayer
  | .text text => (Color.ofHex? text).map fun _ => hex text
  | .list items => ofItems? items
  | .tuple items => ofItems? items
  | _ => none

def color? : Ink → Option Color
  | byLayer => none
  | hex text => Color.ofHex? text
  | bytes color => some color

end Ink

end FormulaPlot
