import FormulaPlot.Log.Record

/-!
Where log records go. The program's loggers share one level and the handlers of the last setup; a
handler lets through what is at least as severe as its own level.
-/

namespace FormulaPlot.Log

set_option autoImplicit false

inductive Target where
  | console
  | file
  deriving DecidableEq, Repr

structure Handler where
  target : Target
  level : Int

structure Setup where
  level : Int
  handlers : List Handler

/-- The logger that all others of the program are named after. -/
def rootName : String := "graphtotex"

namespace Setup

/-- Before any setup nothing is written. -/
def initial : Setup := ⟨0, []⟩

/-- A level of zero stands for the level of all loggers that are given none. -/
def effectiveLevel (setup : Setup) : Int := if setup.level = 0 then warning else setup.level

def covers (logger : String) : Bool :=
  logger == rootName || (rootName ++ ".").toList.isPrefixOf logger.toList

/-- The places a record is written to, in the order of the handlers. -/
def targets (setup : Setup) (record : Record) : List Target :=
  if covers record.logger && decide (0 < record.level) &&
      decide (setup.effectiveLevel ≤ record.level) then
    (setup.handlers.filter fun handler => handler.level ≤ record.level).map Handler.target
  else []

def ofLevel (level : Int) (withFile : Bool) : Setup :=
  ⟨level, ⟨.console, level⟩ :: if withFile then [⟨.file, level⟩] else []⟩

/-- What a new setup says of itself. -/
def announcement : Record := ⟨rootName, debug, "Logging initialized."⟩

end Setup

end FormulaPlot.Log
