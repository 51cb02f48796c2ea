import FormulaPlot.Text.Quoted

/-!
Paths of output files, by their components. A drawing's file has an ending of its own, which a path
may already carry.
-/

namespace FormulaPlot.CommandLine

set_option autoImplicit false

/-- What keeps a file from being written. -/
inductive Obstacle where
  | missingDirectory
  | directory
  | longName
  | nullCharacter
  deriving DecidableEq, Repr

def Obstacle.message (obstacle : Obstacle) (path : String) : String :=
  match obstacle with
  | missingDirectory => "[Errno 2] No such file or directory: " ++ Text.quoted path
  | directory => "[Errno 21] Is a directory: " ++ Text.quoted path
  | longName => "[Errno 36] File name too long: " ++ Text.quoted path
  | nullCharacter => "embedded null byte"

namespace OutputPath

/-- Parts between slashes. Empty parts and single dots stand for nothing. -/
def components (path : String) : List String :=
  (path.splitOn "/").filter fun part => part != "" && part != "."

/-- Where a path starts. Two slashes are a place of their own, more of them stand for one. -/
def root (path : String) : String :=
  match (path.toList.takeWhile (· == '/')).length with
  | 0 => ""
  | 2 => "//"
  | _ => "/"

/-- The path of the working directory is a dot. -/
def ofComponents (root : String) (parts : List String) : String :=
  if root.isEmpty && parts.isEmpty then "." else root ++ "/".intercalate parts

def normal (path : String) : String := ofComponents (root path) (components path)

/-- A name before its last dot, and what follows that dot. -/
def splitEnding (name : List Char) : Option (List Char × List Char) :=
  let ending := name.reverse.takeWhile (· != '.')
  let before := (name.reverse.drop (ending.length + 1)).reverse
  if ending.length + 1 < name.length + 1 && !before.isEmpty && !ending.isEmpty then
    some (before, ending.reverse)
  else none

def drawingEnding : List Char := ['d', 'x', 'f']

def dropDrawingEnding (name : String) : String :=
  match splitEnding name.toList with
  | some (before, ending) =>
      if ending.map Char.toLower = drawingEnding then String.ofList before else name
  | none => name

/-- The path of a drawing without the ending of drawings. -/
def drawingName (path : String) : String :=
  let parts := components path
  match parts.getLast? with
  | none => normal path
  | some name => ofComponents (root path) (parts.dropLast ++ [dropDrawingEnding name])

def drawingPath (path : String) : String := drawingName path ++ "." ++ String.ofList drawingEnding

/-- Names are no longer than so many bytes. -/
def longestName : Nat := 255

/-- Paths are no longer than so many bytes. -/
def longestPath : Nat := 4095

/-- Directories above the working one are there; it holds none of its own. -/
def obstacleOnWay? : List String → Option Obstacle
  | [] => some .directory
  | [".."] => some .directory
  | ".." :: rest => obstacleOnWay? rest
  | name :: rest =>
      if longestName < name.utf8ByteSize then some .longName
      else if rest.isEmpty then none
      else some .missingDirectory

/-- What is in the way of a path while nothing has been written yet. -/
def obstacleInEmptyDirectory? (path : String) : Option Obstacle :=
  if path.toList.contains '\x00' then some .nullCharacter
  else if longestPath < path.utf8ByteSize then some .longName
  else obstacleOnWay? (components path)

end OutputPath

end FormulaPlot.CommandLine
