import FormulaPlot.Decimal.Shortest
import FormulaPlot.Numeric.Fault
import FormulaPlot.Text.Quoted

/-!
Values of any type, as they are offered to a pen. Flags count as the numbers zero and one when
values are compared, and whole numbers equal the decimals of the same size.
-/

namespace FormulaPlot

open FormulaPlot.Decimal

set_option autoImplicit false

inductive Datum where
  | nothing
  | flag (value : Bool)
  | whole (value : Int)
  | decimal (value : Float)
  | text (value : String)
  | list (items : List Datum)
  | tuple (items : List Datum)
  | record (fields : List (String × Datum))
  deriving Inhabited

namespace Datum

def flagText (value : Bool) : String := if value then "True" else "False"

def decimalText (value : Float) : String := shortest (Binary64.read value)

mutual

/-- A value as a literal: texts are quoted, items are put between brackets. -/
def literal : Datum → String
  | nothing => "None"
  | flag value => flagText value
  | whole value => toString value
  | decimal value => decimalText value
  | text value => Text.quoted value
  | list items => "[" ++ String.intercalate ", " (literals items) ++ "]"
  | tuple [item] => "(" ++ item.literal ++ ",)"
  | tuple items => "(" ++ String.intercalate ", " (literals items) ++ ")"
  | record fields => "\x7b" ++ String.intercalate ", " (fieldLiterals fields) ++ "\x7d"

def literals : List Datum → List String
  | [] => []
  | item :: rest => item.literal :: literals rest

def fieldLiterals : List (String × Datum) → List String
  | [] => []
  | (key, value) :: rest => (Text.quoted key ++ ": " ++ value.literal) :: fieldLiterals rest

end

/-- A value in a sentence: a text stands without quotation marks. -/
def shown : Datum → String
  | text value => value
  | value => value.literal

def typeName : Datum → String
  | nothing => "NoneType"
  | flag _ => "bool"
  | whole _ => "int"
  | decimal _ => "float"
  | text _ => "str"
  | list _ => "list"
  | tuple _ => "tuple"
  | record _ => "dict"

/-- The exact number that a value is compared by. -/
def number? : Datum → Option Extended
  | flag value => some (.ofRat (if value then 1 else 0))
  | whole value => some (.ofRat value)
  | decimal value => some (Binary64.read value)
  | _ => none

def sameNumber : Extended → Extended → Bool
  | .finite negative magnitude, .finite otherNegative other =>
      (magnitude == other) && (negative == otherNegative || magnitude == 0)
  | .infinite negative, .infinite other => negative == other
  | _, _ => false

mutual

def agrees : Datum → Datum → Bool
  | nothing, nothing => true
  | text value, text other => value == other
  | list items, list others => allAgree items others
  | tuple items, tuple others => allAgree items others
  | record fields, record others =>
      fieldsAgree fields others && fields.length == others.length
  | value, other =>
      match value.number?, other.number? with
      | some number, some otherNumber => sameNumber number otherNumber
      | _, _ => false

def allAgree : List Datum → List Datum → Bool
  | [], [] => true
  | item :: rest, other :: others => item.agrees other && allAgree rest others
  | _, _ => false

/-- Fields are compared by key, in whatever order they stand. -/
def fieldsAgree : List (String × Datum) → List (String × Datum) → Bool
  | [], _ => true
  | (key, value) :: rest, others =>
      (match others.lookup key with
        | some other => value.agrees other
        | none => false) && fieldsAgree rest others

end

def isFalse (value : Datum) : Bool := value.agrees (flag false)

/-- The finite number given by a value. Flags and texts give none. -/
def toFinite? : Datum → Except Fault (Option Float)
  | whole value =>
      match Binary64.ofInt? value with
      | some number => .ok (some number)
      | none => .error .wholeTooLarge
  | decimal value => .ok (if value.isFinite then some value else none)
  | _ => .ok none

end Datum

end FormulaPlot
