import FormulaPlot.CommandLine.Observation
import FormulaPlot.CommandLine.OutputPath
import FormulaPlot.CommandLine.Report
import FormulaPlot.CommandLine.Request
import FormulaPlot.Drawing.Picture

/-!
Runs of the program: a command line in its surroundings, taken to an exit and a report.
-/

namespace FormulaPlot.CommandLine

open FormulaPlot.Text

set_option autoImplicit false

namespace Options

/-- Texts on the command line stand before those of an example. -/
def raws? (options : Options) : Option (List String) :=
  if options.expressions.isEmpty then
    options.exampleName.map fun name => (FormulaPlot.examples.lookup name).getD []
  else some options.expressions

def noRaws : String := "error: no expressions given (pass EXPR... or --example NAME)"

def raws (options : Options) : Session (List String) :=
  match options.raws? with
  | some raws => return raws
  | none => .complain noRaws

/-- A void density is like one without end: both fail where an entry is sampled. -/
def density (options : Options) (usual : Float) : Float :=
  match options.samples with
  | .standard => usual
  | .given samples => Binary64.ofInt samples
  | .void => Binary64.positiveInfinity

def customize (options : Options) (appearance : Appearance) : Appearance where
  visible := appearance.visible
  color := appearance.color
  lineWidth := appearance.lineWidth
  dashed := options.dashed || appearance.dashed
  samples := options.density appearance.samples

def customizeCurve (options : Options) (entry : CurveEntry) : CurveEntry :=
  { entry with appearance := options.customize entry.appearance }

def customizeSurface (options : Options) (entry : SurfaceEntry) : SurfaceEntry :=
  { entry with appearance := options.customize entry.appearance }

/-- Beside a lower end that is not finite the upper one does not matter. -/
def bounds (ends : Interval (Setting Float)) : Except VoidSetting (Interval Float) := do
  let lo ← ends.lo.need .bound Interval.standard.lo
  if lo.isFinite then return ⟨lo, ← ends.hi.need .bound Interval.standard.hi⟩
  else return ⟨lo, lo⟩

def plane (options : Options) : Except VoidSetting (Viewport Float) := do
  return Viewport.sanitized ⟨← bounds options.viewport.x, ← bounds options.viewport.y⟩

def space (options : Options) : Except VoidSetting (Viewport3D Float) := do
  let viewport := options.viewport
  return Viewport3D.sanitized
    { x := ← bounds viewport.x
      y := ← bounds viewport.y
      z := ← bounds viewport.z
      yaw := ← viewport.yaw.need .bound Viewport3D.standardYaw
      pitch := ← viewport.pitch.need .bound Viewport3D.standardPitch
      distance := ← viewport.distance.need .bound Viewport3D.standardDistance }

def standardSide : Float := 800.0

def canvasSize (options : Options) : Except VoidSetting (Canvas Float) := do
  let width ← options.canvas.width.need .canvasSize standardSide
  let height ← options.canvas.height.need .canvasSize standardSide
  return ⟨width, height⟩

def path (options : Options) : Except VoidSetting String := options.output.need .path ""

def planeSettings (options : Options) : PlaneSettings :=
  ⟨!options.hideGrid, !options.hideAxes, !options.hideTicks⟩

def spaceSettings (options : Options) : SpaceSettings :=
  ⟨!options.hideGrid, !options.hideAxes, !options.hideBox⟩

/-- Sample densities are whole numbers, which can be too large for a scalar. -/
def faultOfSamples (options : Options) : Fault → Fault
  | .infinityToWhole =>
      match options.samples with
      | .given samples =>
          if (Binary64.ofInt? samples).isNone then .wholeTooLarge else .infinityToWhole
      | _ => .infinityToWhole
  | fault => fault

def sceneFailure (options : Options) (density : VoidSetting) (fault : SceneFault) : Failure :=
  match options.samples, fault with
  | .void, .numeric .infinityToWhole => .void density
  | _, .numeric fault => .scene (.numeric (options.faultOfSamples fault))
  | _, fault => .scene fault

def documentFailure (options : Options) (density : VoidSetting) (fault : ExportFault) : Failure :=
  match options.samples, fault with
  | .void, .numeric .infinityToWhole => .void density
  | _, .numeric fault => .document (.numeric (options.faultOfSamples fault))
  | _, fault => .document fault

end Options

namespace Check

/-- The finding on one text, and whether it is good. -/
def finding (raw : String) (prepared : Prepared) : String × Bool :=
  match prepared.message?, prepared.latex with
  | some message, _ => (raw ++ ": error: " ++ message, false)
  | none, none => (raw ++ ": (empty)", true)
  | none, some latex => (raw ++ ": " ++ prepared.mode.name ++ ": " ++ latex, true)

def prepare (options : Options) (raw : String) : Prepared :=
  if options.surfaces then Equation.prepareSurface raw else Equation.prepare raw

def rejections (options : Options) (raws : List String) : List Log.Record :=
  if options.surfaces then Observation.surfaceRejections raws
  else Observation.rejections raws

/-- One bad text is enough for a bad exit. -/
def run (options : Options) : Session Nat := do
  let raws ← options.raws
  Session.logAll (rejections options raws)
  let findings := raws.map fun raw => finding raw (prepare options raw)
  findings.forM fun finding => Session.print finding.1
  return if findings.all Prod.snd then 0 else 1

end Check

def preparedCurves (options : Options) : Session (List PreparedCurve) := do
  let raws ← options.raws
  Session.logAll (Observation.rejections raws)
  let (entries, _) := EntryFactory.standard.createAll options.customizeCurve raws
  return entries.map CurveEntry.prepare

def preparedSurfaces (options : Options) : Session (List PreparedSurface) := do
  let raws ← options.raws
  Session.logAll (Observation.surfaceRejections raws)
  let (entries, _) := EntryFactory.standard.createAllSurfaces options.customizeSurface raws
  return entries.map SurfaceEntry.prepare

def warning? (raw : String) (prepared : Prepared) : Option String :=
  prepared.message?.map fun message => "Warning: skipping " ++ quoted raw ++ ": " ++ message

def warn (warnings : List String) : Session Unit :=
  warnings.forM fun warning => Session.note (.plain warning)

def curveWarnings (curves : List PreparedCurve) : List String :=
  curves.filterMap fun curve => warning? curve.entry.raw curve.prepared

def surfaceWarnings (surfaces : List PreparedSurface) : List String :=
  surfaces.filterMap fun surface => warning? surface.entry.raw surface.prepared

/-- Without a path a document is printed. In a file its last line is ended, too. -/
def deliver (text : String) (output : Setting String) : Session Unit :=
  match output with
  | .given path =>
      if path.isEmpty then Session.print text
      else do
        Session.write (OutputPath.normal path) (.document (text ++ "\n"))
        Session.log (Observation.writtenDocument path)
  | _ => Session.print text

/-- The density that the first graph to be sampled has need of. -/
def neededDensity (graphs : List (Graph Float)) (viewport : Viewport Float) : VoidSetting :=
  match (graphs.find? fun graph => !(graph.trace viewport).isOk).map Graph.shape with
  | some (.curve _) => .curveDensity
  | _ => .gridDensity

namespace PlaneDocument

/-- Plots up to the first one that fails. -/
def plotsBeforeFailure (graphs : List (Graph Float)) (viewport : Viewport Float) :
    List (Tikz.Plot Float) :=
  match graphs with
  | [] => []
  | graph :: rest =>
      match Tikz.plot graph viewport with
      | .ok plot => plot :: plotsBeforeFailure rest viewport
      | .error _ => []

/-- Plots are accounted for one by one; of one that failed it is known whether it was to be
sampled. -/
def records (graphs : List (Graph Float)) (plots : List (Tikz.Plot Float)) : List Log.Record :=
  (List.zipWith Observation.plot graphs plots).flatten ++
    (graphs.drop plots.length).head?.toList.filterMap Observation.curveFallback?

def run (options : Options) : Session Nat := do
  let curves ← preparedCurves options
  warn (curveWarnings curves)
  let viewport ← Session.settle options.plane
  let graphs := curves.filterMap PreparedCurve.graph?
  match Tikz.planeDocument graphs viewport options.planeSettings with
  | .error fault =>
      Session.logAll (records graphs (plotsBeforeFailure graphs viewport))
      Session.fail (options.documentFailure (neededDensity graphs viewport) fault)
  | .ok document =>
      Session.logAll (records graphs document.plots)
      Session.log (Observation.planeDocument curves.length document)
      deliver document.text options.output
      return 0

end PlaneDocument

namespace SpaceDocument

def records (surfaces : List (SurfaceGraph Float)) (plots : List (Tikz.SurfacePlot Float)) :
    List Log.Record :=
  (List.zipWith Observation.surfacePlot surfaces plots).flatten

def run (options : Options) : Session Nat := do
  let surfaces ← preparedSurfaces options
  warn (surfaceWarnings surfaces)
  let viewport ← Session.settle options.space
  let graphs := surfaces.filterMap PreparedSurface.graph?
  match Tikz.spaceDocument graphs viewport options.spaceSettings with
  | .error fault => Session.fail (options.documentFailure .gridDensity fault)
  | .ok document =>
      Session.logAll (records graphs document.plots)
      Session.log (Observation.spaceDocument surfaces.length viewport)
      deliver document.text options.output
      return 0

end SpaceDocument

namespace Drawing

def planePicture (options : Options) : Session (Picture × List String) := do
  let curves ← preparedCurves options
  let viewport ← Session.settle options.plane
  let canvas ← Session.settle options.canvasSize
  let graphs := curves.filterMap PreparedCurve.graph?
  match PlaneScene.buildTraced graphs viewport options.planeSettings canvas with
  | .error fault => Session.fail (options.sceneFailure (neededDensity graphs viewport) fault)
  | .ok (scene, traces) =>
      Session.logAll (traces.filterMap Observation.trace?)
      Session.log (Observation.planeScene scene)
      return (.plane scene, curveWarnings curves)

def spacePicture (options : Options) : Session (Picture × List String) := do
  let surfaces ← preparedSurfaces options
  let viewport ← Session.settle options.space
  let canvas ← Session.settle options.canvasSize
  let graphs := surfaces.filterMap PreparedSurface.graph?
  match SpaceScene.buildTraced graphs viewport options.spaceSettings canvas with
  | .error fault => Session.fail (options.sceneFailure .gridDensity fault)
  | .ok (scene, meshes) =>
      Session.logAll ((meshes.filterMap id).map Observation.mesh)
      Session.log (Observation.spaceScene scene)
      return (.space scene, surfaceWarnings surfaces)

def entities [DrawingFormat] (picture : Picture) : Except PenFault (List Entity) := do
  let (_, strokes) ← picture.draw Entity.pen
  Entity.ofStrokes strokes

def run [DrawingFormat] (options : Options) : Session Nat := do
  let (picture, warnings) ←
    if options.surfaces then spacePicture options else planePicture options
  warn warnings
  let output ← Session.settle options.path
  match entities picture with
  | .error fault => Session.fail (.drawing fault)
  | .ok entities =>
      let path := OutputPath.drawingPath output
      Session.write path (.drawing entities)
      Session.log (Observation.writtenDrawing path)
      Session.print ("Wrote " ++ path)
      return 0

end Drawing

def Command.run [DrawingFormat] : Command → Options → Session Nat
  | check, options => Check.run options
  | tikz, options => PlaneDocument.run options
  | tikz3d, options => SpaceDocument.run options
  | dxf, options => Drawing.run options

/-- What is told of a command line that is not carried out. -/
def interrupted : Interruption → Exit × Report
  | .ending program .help =>
      (.code 0, { printed := ["usage: " ++ program ++ " [OPTION]... [EXPR]..."] })
  | .ending program .version => (.code 0, { printed := [program] })
  | .misuse program message =>
      (.code 2, { notices := [.plain (program ++ ": error: " ++ message)] })

def levelOf (request : Request) (asked : Option String) : Except Log.LevelFault Int :=
  if request.verbose then .ok Log.debug else Log.levelFor asked Log.warning

def session [DrawingFormat] (request : Request) : Session Nat := do
  Session.log Log.Setup.announcement
  match request.chosen with
  | some (command, options) => command.run options
  | none => return 1

/-- Nothing is reported before the log level is known. -/
def run [DrawingFormat] (words : List String) (surroundings : Surroundings) : Exit × Report :=
  match Request.read words with
  | .error interruption => interrupted interruption
  | .ok request =>
      match levelOf request surroundings.askedLevel with
      | .error fault => (.failure (.level fault), {})
      | .ok level =>
          let (exit, report) := (session request).outcome surroundings
          (exit, report.heard (.ofLevel level false))

end FormulaPlot.CommandLine
