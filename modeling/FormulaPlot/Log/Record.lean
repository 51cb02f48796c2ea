/-!
Log records. A record has a level, a number that says how severe it is, and the name of the logger
it came from.
-/

namespace FormulaPlot.Log

set_option autoImplicit false

def debug : Int := 10

def info : Int := 20

def warning : Int := 30

/-- Numbers of the named levels. -/
def levelNames : List (Int × String) :=
  [(50, "CRITICAL"), (40, "ERROR"), (warning, "WARNING"), (info, "INFO"), (debug, "DEBUG"),
    (0, "NOTSET")]

def levelName (level : Int) : String :=
  match levelNames.lookup level with
  | some name => name
  | none => "Level " ++ toString level

structure Record where
  logger : String
  level : Int
  message : String
  deriving DecidableEq, Repr

/-- A record as it is written, after the time of day. -/
def Record.line (record : Record) (time : String) : String :=
  " - ".intercalate [time, record.logger, levelName record.level, record.message]

end FormulaPlot.Log
