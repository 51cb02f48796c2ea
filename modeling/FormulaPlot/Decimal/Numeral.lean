import FormulaPlot.Decimal.Digits
import FormulaPlot.Text.Blank
import FormulaPlot.Text.Digit

/-!
Decimal numerals: a significand and a power of ten, read from the front of a text. Digits of all
decimal scripts count.
-/

namespace FormulaPlot.Decimal

open FormulaPlot.Text

set_option autoImplicit false

structure Numeral where
  negative : Bool
  significand : Nat
  exponent : Int
  deriving DecidableEq

namespace Numeral

def value (numeral : Numeral) : Rat :=
  let magnitude := numeral.significand * powerOfTen numeral.exponent
  if numeral.negative then -magnitude else magnitude

/-- Numerals far beyond the range of doubles are settled by their length alone. -/
def toFloat (numeral : Numeral) : Float :=
  let order := (digitCount numeral.significand : Int) + numeral.exponent
  if numeral.significand = 0 ∨ order < -400 then Binary64.ofQuotient numeral.negative 0 1
  else if 400 < order then
    if numeral.negative then -Binary64.positiveInfinity else Binary64.positiveInfinity
  else
    match numeral.exponent with
    | .ofNat up =>
        Binary64.ofQuotient numeral.negative (numeral.significand * Nat.pow 10 up) 1
    | .negSucc down =>
        Binary64.ofQuotient numeral.negative numeral.significand (Nat.pow 10 (down + 1))

end Numeral

def takeDigits : List Char → List Nat × List Char
  | [] => ([], [])
  | character :: rest =>
      match decimalValue? character with
      | some digit =>
          let (more, rest) := takeDigits rest
          (digit :: more, rest)
      | none => ([], character :: rest)

def numberOfDigits (values : List Nat) : Nat :=
  values.foldl (fun number digit => 10 * number + digit) 0

def takeSign : List Char → Bool × List Char
  | '-' :: rest => (true, rest)
  | '+' :: rest => (false, rest)
  | characters => (false, characters)

/-- An exponent mark without digits after it is left unread. -/
def takeExponent (characters : List Char) : Int × List Char :=
  match characters with
  | mark :: rest =>
      if mark == 'e' || mark == 'E' then
        let (negative, unsigned) := takeSign rest
        match takeDigits unsigned with
        | ([], _) => (0, characters)
        | (values, rest) =>
            let size : Int := numberOfDigits values
            (if negative then -size else size, rest)
      else (0, characters)
  | [] => (0, characters)

/-- A point belongs to the numeral after a digit, and before one when none stands in front. -/
def takeFraction (whole : List Nat) (characters : List Char) : List Nat × List Char :=
  match characters with
  | '.' :: rest =>
      match whole, takeDigits rest with
      | [], ([], _) => ([], characters)
      | _, taken => taken
  | _ => ([], characters)

def takeNumeral (characters : List Char) : Option (Numeral × List Char) :=
  let (negative, unsigned) := takeSign characters
  let (whole, afterWhole) := takeDigits unsigned
  let (fraction, afterFraction) := takeFraction whole afterWhole
  if whole.isEmpty && fraction.isEmpty then none
  else
    let (power, rest) := takeExponent afterFraction
    some (⟨negative, numberOfDigits (whole ++ fraction), power - fraction.length⟩, rest)

/-- The numeral that makes up the whole text. -/
def readNumeral? (characters : List Char) : Option Numeral :=
  match takeNumeral characters with
  | some (numeral, []) => some numeral
  | _ => none

/-- The numeral after leading white space. What follows it does not matter. -/
def leadingNumeral? (characters : List Char) : Option Numeral :=
  (takeNumeral (characters.dropWhile isBlank)).map Prod.fst

/-- A low line may stand between two digits. -/
def withoutSeparators? : List Char → Option (List Char)
  | [] => some []
  | '_' :: _ => none
  | before :: '_' :: after :: rest =>
      if isDecimal before && isDecimal after then
        (withoutSeparators? (after :: rest)).map (before :: ·)
      else none
  | character :: rest => (withoutSeparators? rest).map (character :: ·)

def foldCase (characters : List Char) : List Char := characters.map Char.toLower

def specialFloat? (characters : List Char) : Option Float :=
  let (negative, name) := takeSign characters
  let name := String.ofList (foldCase name)
  let signed (value : Float) := if negative then -value else value
  if name = "inf" ∨ name = "infinity" then some (signed Binary64.positiveInfinity)
  else if name = "nan" then some (signed Binary64.notANumber)
  else none

/-- Separators of files, groups, records and units. -/
def isInformationSeparator (character : Char) : Bool :=
  0x1c ≤ character.toNat && character.toNat ≤ 0x1f

/-- The white space that may stand around a number. -/
def isPadding (character : Char) : Bool :=
  isBlank character && !isInformationSeparator character

/-- A number typed by itself, padding aside. -/
def readFloat? (text : String) : Option Float :=
  let characters := stripAll isPadding text.toList
  match specialFloat? characters with
  | some special => some special
  | none => ((withoutSeparators? characters).bind readNumeral?).map Numeral.toFloat

def readInt? (text : String) : Option Int :=
  let (negative, unsigned) := takeSign (stripAll isPadding text.toList)
  match (withoutSeparators? unsigned).map takeDigits with
  | some ([], _) => none
  | some (values, []) =>
      let size : Int := numberOfDigits values
      some (if negative then -size else size)
  | _ => none

end FormulaPlot.Decimal
