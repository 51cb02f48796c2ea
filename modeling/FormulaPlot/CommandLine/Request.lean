import FormulaPlot.CommandLine.Setting
import FormulaPlot.CommandLine.Switch
import FormulaPlot.Entry.Factory
import FormulaPlot.Space.Viewport3D

/-!
The program's commands and their switches.
-/

namespace FormulaPlot.CommandLine

open FormulaPlot.Decimal
open FormulaPlot.Text

set_option autoImplicit false

def standardViewport : Viewport3D (Setting Float) :=
  ⟨⟨.standard, .standard⟩, ⟨.standard, .standard⟩, ⟨.standard, .standard⟩,
    .standard, .standard, .standard⟩

structure Options where
  expressions : List String := []
  exampleName : Option String := none
  samples : Setting Int := .standard
  dashed : Bool := false
  hideGrid : Bool := false
  hideAxes : Bool := false
  hideTicks : Bool := false
  hideBox : Bool := false
  surfaces : Bool := false
  viewport : Viewport3D (Setting Float) := standardViewport
  canvas : Canvas (Setting Float) := ⟨.standard, .standard⟩
  output : Setting String := .standard

inductive Command where
  | check
  | tikz
  | tikz3d
  | dxf
  deriving DecidableEq, Repr

namespace Command

def name : Command → String
  | check => "check"
  | tikz => "tikz"
  | tikz3d => "tikz3d"
  | dxf => "dxf"

def all : List Command := [check, tikz, tikz3d, dxf]

def ofName? (name : String) : Option Command := all.find? fun command => command.name == name

end Command

def programName : String := "python -m graphtotex"

/-- Texts to choose from, in the order in which they are told. -/
def choiceText (choices : List String) : String := ", ".intercalate (choices.map quoted)

def invalidChoice (value : String) (choices : List String) : String :=
  "invalid choice: " ++ quoted value ++ " (choose from " ++ choiceText choices ++ ")"

/-- Whole numbers of more digits are not read. -/
def mostWholeDigits : Nat := 4300

def readWhole (text : String) : Except String Int :=
  let refused := .error ("invalid int value: " ++ quoted text)
  if mostWholeDigits < text.toList.countP isDecimal then refused
  else
    match readInt? text with
    | some value => .ok value
    | none => refused

def readNumber (text : String) : Except String Float :=
  match readFloat? text with
  | some value => .ok value
  | none => .error ("invalid float value: " ++ quoted text)

/-- Sizes are finite and above zero. -/
def readSize (text : String) : Except String Float :=
  match readFloat? text with
  | none => .error ("invalid number: " ++ quoted text)
  | some value =>
      if value.isFinite && decide (0.0 < value) then .ok value
      else .error ("must be a positive number: " ++ quoted text)

namespace Options

abbrev OptionSwitch := Switch Options

def help : OptionSwitch := ⟨["-h", "--help"], .stop .help⟩

def setExample (name : Option String) (options : Options) : Except String Options :=
  let choices := FormulaPlot.examples.map Prod.fst
  match name with
  | none => .ok { options with exampleName := none }
  | some name =>
      if choices.contains name then .ok { options with exampleName := some name }
      else .error (invalidChoice name choices)

def exampleSwitch : OptionSwitch := ⟨["--example"], .read setExample⟩

/-- A switch that is followed by a value. -/
def valued {value : Type} (names : List String) (reader : String → Except String value)
    (set : Setting value → Options → Options) : OptionSwitch :=
  ⟨names, .read fun text options =>
    (Setting.read reader text).map fun setting => set setting options⟩

def flag (name : String) (set : Options → Options) : OptionSwitch := ⟨[name], .set set⟩

/-- A switch that is followed by a part of the viewport. -/
def bound (name : String)
    (change : Setting Float → Viewport3D (Setting Float) → Viewport3D (Setting Float)) :
    OptionSwitch :=
  valued [name] readNumber fun setting options =>
    { options with viewport := change setting options.viewport }

def entrySwitches : List OptionSwitch :=
  [exampleSwitch,
    valued ["--samples"] readWhole fun setting options => { options with samples := setting },
    flag "--dashed" fun options => { options with dashed := true },
    flag "--no-grid" fun options => { options with hideGrid := true },
    flag "--no-axes" fun options => { options with hideAxes := true }]

def planeBounds : List OptionSwitch :=
  [bound "--xmin" fun setting viewport => { viewport with x.lo := setting },
    bound "--xmax" fun setting viewport => { viewport with x.hi := setting },
    bound "--ymin" fun setting viewport => { viewport with y.lo := setting },
    bound "--ymax" fun setting viewport => { viewport with y.hi := setting }]

def spaceBounds : List OptionSwitch :=
  [bound "--zmin" fun setting viewport => { viewport with z.lo := setting },
    bound "--zmax" fun setting viewport => { viewport with z.hi := setting },
    bound "--yaw" fun setting viewport => { viewport with yaw := setting },
    bound "--pitch" fun setting viewport => { viewport with pitch := setting },
    bound "--distance" fun setting viewport => { viewport with distance := setting },
    flag "--no-box" fun options => { options with hideBox := true }]

def surfaceSwitch : OptionSwitch := flag "--3d" fun options => { options with surfaces := true }

def tickSwitch : OptionSwitch := flag "--no-ticks" fun options => { options with hideTicks := true }

def outputNames : List String := ["-o", "--output"]

def outputSwitch : OptionSwitch :=
  valued outputNames .ok fun setting options => { options with output := setting }

def canvasSwitches : List OptionSwitch :=
  [valued ["--width"] readSize fun setting options => { options with canvas.width := setting },
    valued ["--height"] readSize fun setting options => { options with canvas.height := setting }]

def switches : Command → List OptionSwitch
  | .check => [help, exampleSwitch, surfaceSwitch]
  | .tikz => [help] ++ entrySwitches ++ planeBounds ++ [tickSwitch, outputSwitch]
  | .tikz3d => [help] ++ entrySwitches ++ planeBounds ++ spaceBounds ++ [outputSwitch]
  | .dxf =>
      [help] ++ entrySwitches ++ planeBounds ++ spaceBounds ++ [surfaceSwitch, tickSwitch] ++
        canvasSwitches ++ [outputSwitch]

/-- Only a drawing has to be told where to go. -/
def missing (command : Command) (options : Options) : List String :=
  if command = .dxf && options.output.isStandard then ["/".intercalate outputNames] else []

def grammar (command : Command) : Grammar Options where
  program := programName ++ " " ++ command.name
  switches := switches command
  positional := .arguments fun words options => { options with expressions := words }
  missing := missing command

end Options

/-- What the command line as a whole asks for. -/
structure Request where
  verbose : Bool := false
  chosen : Option (Command × Options) := none

namespace Request

def commandArgument : String := "action"

def commandNames : List String := Command.all.map Command.name

def choose (name : String) (words : List String) (request : Request) :
    Reading (Request × List String) :=
  match Command.ofName? name with
  | none =>
      .error (.misuse programName
        ("argument " ++ commandArgument ++ ": " ++ invalidChoice name commandNames))
  | some command =>
      ((Options.grammar command).readSome words {}).map fun (options, unknown) =>
        ({ request with chosen := some (command, options) }, unknown)

def grammar : Grammar Request where
  program := programName
  switches :=
    [⟨["-h", "--help"], .stop .help⟩,
      ⟨["-v", "--verbose"], .set fun request => { request with verbose := true }⟩,
      ⟨["--version"], .stop .version⟩]
  positional := .command commandArgument choose
  missing request := if request.chosen.isNone then [commandArgument] else []

def read (words : List String) : Reading Request := grammar.read words {}

end Request

end FormulaPlot.CommandLine
