import FormulaPlot.Decimal.Numeral
import FormulaPlot.Log.Record
import FormulaPlot.Text.Quoted

/-!
Log levels as they are asked for: by a number or, in any case of letters, by a name.
-/

namespace FormulaPlot.Log

open FormulaPlot.Decimal
open FormulaPlot.Text

set_option autoImplicit false

inductive LevelFault where
  | noNumber (text : String)
  | tooManyDigits (count : Nat)
  deriving DecidableEq, Repr

def mostLevelDigits : Nat := 4300

def LevelFault.message : LevelFault → String
  | noNumber text => "invalid literal for int() with base 10: " ++ quoted text
  | tooManyDigits count =>
      "Exceeds the limit (" ++ toString mostLevelDigits ++
        " digits) for integer string conversion: value has " ++ toString count ++
        " digits; use sys.set_int_max_str_digits() to increase the limit"

/-- Names that a level may be asked for by. -/
def askedNames : List (String × Int) :=
  [("CRITICAL", 50), ("FATAL", 50), ("ERROR", 40), ("WARN", warning), ("WARNING", warning),
    ("INFO", info), ("DEBUG", debug), ("NOTSET", 0)]

/-- Capital letters, as far as the names of levels need them. -/
def capital (character : Char) : Char :=
  if character = 'ı' then 'I' else if character = 'ſ' then 'S' else character.toUpper

/-- Digits that have no place in a numeral make it none. -/
def numberedLevel (characters : List Char) : Except LevelFault Int :=
  match takeDigits characters with
  | (values, []) =>
      if mostLevelDigits < values.length then .error (.tooManyDigits values.length)
      else .ok (numberOfDigits values)
  | _ => .error (.noNumber (String.ofList characters))

/-- The level asked for, or the standard one where the text names none. -/
def askedLevel (asked : String) (standard : Int) : Except LevelFault Int :=
  match strip asked.toList with
  | [] => .ok standard
  | characters =>
      if characters.all isDigit then numberedLevel characters
      else .ok ((askedNames.lookup (String.ofList (characters.map capital))).getD standard)

/-- Where nothing is asked for, the standard level is in force. -/
def levelFor (asked : Option String) (standard : Int) : Except LevelFault Int :=
  match asked with
  | some text => askedLevel text standard
  | none => .ok standard

end FormulaPlot.Log
