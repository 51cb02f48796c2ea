import FormulaPlot.Log.Setup

/-!
The journal of log records: the lines that were written to each target, under the setup in force.
-/

namespace FormulaPlot.Log

set_option autoImplicit false

structure Journal where
  setup : Setup := .initial
  console : List Record := []
  file : List Record := []

namespace Journal

/-- Each record is written once for every handler that lets it through. -/
def write (journal : Journal) (record : Record) : Target → Journal
  | .console => { journal with console := journal.console ++ [record] }
  | .file => { journal with file := journal.file ++ [record] }

def add (journal : Journal) (record : Record) : Journal :=
  (journal.setup.targets record).foldl (fun journal target => journal.write record target) journal

/-- A new setup starts a new file, if it has one, and tells that it is in force. -/
def configure (journal : Journal) (level : Int) (withFile : Bool) : Journal :=
  add
    { journal with
      setup := .ofLevel level withFile
      file := if withFile then [] else journal.file }
    Setup.announcement

end Journal

end FormulaPlot.Log
