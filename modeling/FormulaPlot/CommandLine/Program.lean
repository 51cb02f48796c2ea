import Std.Time
import FormulaPlot.CommandLine.Run
import FormulaPlot.Drawing.Setup

/-!
The program. It runs its command line and carries out the report: files first, then what is printed
and what is noted. The format of drawings and their writer are given to it.
-/

namespace FormulaPlot.CommandLine

set_option autoImplicit false

/-- How a drawing is written down, from what it had before and the entities drawn. -/
abbrev DrawingWriter := Drawing.Setup → List Entity → String

def Content.text (write : DrawingWriter) : Content → String
  | document text => text
  | drawing entities => write Drawing.setup entities

def Notice.text (notice : Notice) (time : String) : String :=
  match notice with
  | plain text => text
  | record logged => logged.line time

def Exit.message? : Exit → Option String
  | code _ => none
  | complaint message => some message
  | failure cause => some cause.message

/-- Complaints and failures are told with a one. -/
def Exit.number : Exit → UInt32
  | code number => UInt32.ofNat number
  | complaint _ => 1
  | failure _ => 1

/-- The variable of the environment that a log level is asked for by. -/
def levelVariable : String := "GRAPHTOTEX_LOG_LEVEL"

def carryOut (write : DrawingWriter) (exit : Exit) (report : Report) (time : String) :
    IO UInt32 := do
  for (path, content) in report.files do
    IO.FS.writeFile path (content.text write)
  for text in report.printed do
    IO.println text
  for notice in report.notices do
    IO.eprintln (notice.text time)
  for message in exit.message?.toList do
    IO.eprintln message
  return exit.number

/-- The exit code tells whether all went well. -/
def program [DrawingFormat] (write : DrawingWriter) (words : List String) : IO UInt32 := do
  let asked ← IO.getEnv levelVariable
  let now ← Std.Time.DateTime.now
  let (exit, report) := run words { askedLevel := asked }
  carryOut write exit report (now.format "HH:mm:ss")

end FormulaPlot.CommandLine
