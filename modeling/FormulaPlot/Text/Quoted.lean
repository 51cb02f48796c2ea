import FormulaPlot.Decimal.Digits
import FormulaPlot.Text.Printable

/-!
Texts as quoted literals. The quotation mark is the single one unless only the double one saves an
escape; characters without a visible form are written by their code point.
-/

namespace FormulaPlot.Text

open FormulaPlot.Decimal

set_option autoImplicit false

def quotationMark (characters : List Char) : Char :=
  if characters.contains '\'' && !characters.contains '"' then '"' else '\''

def hexadecimal (width code : Nat) : List Char := padLeft width '0' (Nat.toDigits 16 code)

def escapeCode (code : Nat) : List Char :=
  if code < 0x100 then '\\' :: 'x' :: hexadecimal 2 code
  else if code < 0x10000 then '\\' :: 'u' :: hexadecimal 4 code
  else '\\' :: 'U' :: hexadecimal 8 code

def escape (mark character : Char) : List Char :=
  if character == mark || character == '\\' then ['\\', character]
  else if character == '\n' then ['\\', 'n']
  else if character == '\r' then ['\\', 'r']
  else if character == '\t' then ['\\', 't']
  else if isPrintable character then [character]
  else escapeCode character.toNat

def quoted (text : String) : String :=
  let characters := text.toList
  let mark := quotationMark characters
  String.ofList (mark :: characters.flatMap (escape mark) ++ [mark])

end FormulaPlot.Text
