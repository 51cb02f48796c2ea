import FormulaPlot.Decimal.Rounding
import FormulaPlot.Numeric.Binary64

/-!
Decimal texts of exact magnitudes: with fixed places, with an exponent, and the general form
that chooses between the two.
-/

namespace FormulaPlot.Decimal

set_option autoImplicit false

def digits (number : Nat) : List Char := Nat.toDigits 10 number

def padLeft (width : Nat) (filler : Char) (characters : List Char) : List Char :=
  List.replicate (width - characters.length) filler ++ characters

def dropEndWhile (drop : Char → Bool) (characters : List Char) : List Char :=
  (characters.reverse.dropWhile drop).reverse

/-- Decimals after a point lose their trailing zeros, and the point when none is left. -/
def trimFraction (characters : List Char) : List Char :=
  if characters.contains '.' then
    dropEndWhile (· == '.') (dropEndWhile (· == '0') characters)
  else characters

def fixedMagnitude (places : Nat) (magnitude : Rat) : List Char :=
  let all := padLeft (places + 1) '0' (digits (units magnitude places))
  let whole := all.take (all.length - places)
  if places = 0 then whole else whole ++ '.' :: all.drop (all.length - places)

/-- A digit, a point and more digits, times a power of ten. -/
structure Scientific where
  significand : List Char
  exponent : Int

namespace Scientific

def zero (count : Nat) : Scientific := ⟨List.replicate count '0', 0⟩

/-- The nearest with `count` digits. A carry past the first digit raises the exponent. -/
def ofMagnitude (count : Nat) (magnitude : Rat) : Scientific :=
  if magnitude = 0 then zero count
  else
    let exponent := leadingExponent magnitude
    let rounded := digits (units magnitude ((count : Int) - 1 - exponent))
    if count < rounded.length then ⟨rounded.take count, exponent + 1⟩ else ⟨rounded, exponent⟩

def trimmed (number : Scientific) : Scientific :=
  match dropEndWhile (· == '0') number.significand with
  | [] => ⟨['0'], number.exponent⟩
  | significand => ⟨significand, number.exponent⟩

def positional (number : Scientific) : List Char :=
  let count := number.significand.length
  match number.exponent with
  | .negSucc lead => '0' :: '.' :: (List.replicate lead '0' ++ number.significand)
  | .ofNat lead =>
      if count ≤ lead + 1 then number.significand ++ List.replicate (lead + 1 - count) '0'
      else number.significand.take (lead + 1) ++ '.' :: number.significand.drop (lead + 1)

def mantissa (number : Scientific) : List Char :=
  match number.significand with
  | first :: second :: rest => first :: '.' :: second :: rest
  | significand => significand

/-- The exponent is signed and has at least `width` digits. -/
def exponential (width : Nat) (number : Scientific) : List Char :=
  number.mantissa ++ 'e' :: (if number.exponent < 0 then '-' else '+') ::
    padLeft width '0' (digits number.exponent.natAbs)

end Scientific

def signed (negative : Bool) (characters : List Char) : String :=
  String.ofList (if negative then '-' :: characters else characters)

/-- The text of a number whose finite magnitudes are written by `write`. -/
def withSpecials (write : Rat → List Char) : Extended → String
  | .finite negative magnitude => signed negative (write magnitude)
  | .infinite negative => signed negative ['i', 'n', 'f']
  | .notANumber => "nan"

def fixed (places : Nat) : Extended → String := withSpecials (fixedMagnitude places)

/-- Fixed places without trailing zeros. No zero keeps a sign. -/
def fixedTrimmed (places : Nat) (number : Extended) : String :=
  let text := String.ofList (trimFraction (fixed places number).toList)
  if text = "-0" then "0" else text

/-- At most `count` significant digits without trailing zeros, positional when the exponent lies
between -4 and `count`. -/
def general (count : Nat) : Extended → String :=
  withSpecials fun magnitude =>
    let number := (Scientific.ofMagnitude count magnitude)
    let short := number.trimmed
    if magnitude = 0 then ['0']
    else if -4 ≤ number.exponent ∧ number.exponent < count then short.positional
    else short.exponential 2

end FormulaPlot.Decimal
