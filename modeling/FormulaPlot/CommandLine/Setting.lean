/-!
Values of switches that are needed later. A switch can be given without a value; its setting is then
void, which only shows where the value is needed.
-/

namespace FormulaPlot.CommandLine

set_option autoImplicit false

/-- What a void setting was needed for. -/
inductive VoidSetting where
  | bound
  | canvasSize
  | curveDensity
  | gridDensity
  | path
  deriving DecidableEq, Repr

def VoidSetting.message : VoidSetting → String
  | bound => "must be real number, not list"
  | canvasSize => "'<=' not supported between instances of 'list' and 'int'"
  | curveDensity => "can only concatenate list (not \"float\") to list"
  | gridDensity => "'>' not supported between instances of 'list' and 'float'"
  | path => "expected str, bytes or os.PathLike object, not list"

inductive Setting (value : Type) where
  | standard
  | given (value : value)
  | void
  deriving DecidableEq, Repr

namespace Setting

variable {value : Type}

def read (reader : String → Except String value) : Option String → Except String (Setting value)
  | none => .ok .void
  | some text => (reader text).map .given

/-- The value for a use, which is the usual one where none was asked for. -/
def need (setting : Setting value) (use : VoidSetting) (usual : value) :
    Except VoidSetting value :=
  match setting with
  | standard => .ok usual
  | given value => .ok value
  | void => .error use

def isStandard : Setting value → Bool
  | standard => true
  | _ => false

end Setting

end FormulaPlot.CommandLine
