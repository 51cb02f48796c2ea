import FormulaPlot.CommandLine.OutputPath
import FormulaPlot.CommandLine.Setting
import FormulaPlot.Drawing.Entity
import FormulaPlot.Log.Level
import FormulaPlot.Log.Setup
import FormulaPlot.Scene.Frame
import FormulaPlot.Tikz.Number

/-!
What a run of the program leaves behind: how it ended, what it printed, what it noted beside that,
and the files it wrote.
-/

namespace FormulaPlot.CommandLine

set_option autoImplicit false

inductive Failure where
  | level (fault : Log.LevelFault)
  | void (setting : VoidSetting)
  | scene (fault : SceneFault)
  | document (fault : ExportFault)
  | drawing (fault : PenFault)
  | file (obstacle : Obstacle) (path : String)

def Failure.message : Failure → String
  | level fault => fault.message
  | void setting => setting.message
  | scene fault => fault.message
  | document fault => fault.message
  | drawing fault => fault.message
  | file obstacle path => obstacle.message path

inductive Exit where
  | code (number : Nat)
  | complaint (message : String)
  | failure (failure : Failure)

inductive Notice where
  | plain (text : String)
  | record (record : Log.Record)

inductive Content where
  | document (text : String)
  | drawing (entities : List Entity)

structure Report where
  printed : List String := []
  notices : List Notice := []
  files : List (String × Content) := []

/-- What a run depends on besides its command line. -/
structure Surroundings where
  askedLevel : Option String := none
  obstacle? : String → Option Obstacle := fun _ => none

/-- Steps of a run. One that ends it keeps what was reported before. -/
abbrev Session := ReaderT Surroundings (ExceptT Exit (StateM Report))

namespace Session

def print (text : String) : Session Unit :=
  modify fun report => { report with printed := report.printed ++ [text] }

def note (notice : Notice) : Session Unit :=
  modify fun report => { report with notices := report.notices ++ [notice] }

def log (record : Log.Record) : Session Unit := note (.record record)

def logAll (records : List Log.Record) : Session Unit := records.forM log

def complain {result : Type} (message : String) : Session result := throw (.complaint message)

def fail {result : Type} (failure : Failure) : Session result := throw (.failure failure)

def settle {result : Type} (settled : Except VoidSetting result) : Session result :=
  match settled with
  | .ok value => return value
  | .error setting => fail (.void setting)

def write (path : String) (content : Content) : Session Unit := do
  match (← read).obstacle? path with
  | some obstacle => fail (.file obstacle path)
  | none => modify fun report => { report with files := report.files ++ [(path, content)] }

/-- The exit, and all that was reported up to it. -/
def outcome (session : Session Nat) (surroundings : Surroundings) : Exit × Report :=
  match ((session.run surroundings).run).run {} with
  | (.ok number, report) => (.code number, report)
  | (.error exit, report) => (exit, report)

end Session

/-- Records that the setup keeps from the console are left out. -/
def Notice.isHeard (setup : Log.Setup) : Notice → Bool
  | plain _ => true
  | record logged => (setup.targets logged).contains .console

def Report.heard (report : Report) (setup : Log.Setup) : Report :=
  { report with notices := report.notices.filter fun notice => notice.isHeard setup }

end FormulaPlot.CommandLine
