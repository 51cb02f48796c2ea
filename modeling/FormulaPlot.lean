import FormulaPlot.CommandLine.Observation
import FormulaPlot.CommandLine.OutputPath
import FormulaPlot.CommandLine.Program
import FormulaPlot.CommandLine.Report
import FormulaPlot.CommandLine.Request
import FormulaPlot.CommandLine.Run
import FormulaPlot.CommandLine.Setting
import FormulaPlot.CommandLine.Switch
import FormulaPlot.Decimal.Digits
import FormulaPlot.Decimal.Numeral
import FormulaPlot.Decimal.Rounding
import FormulaPlot.Decimal.Shortest
import FormulaPlot.Drawing.Board
import FormulaPlot.Drawing.Entity
import FormulaPlot.Drawing.Mark
import FormulaPlot.Drawing.Picture
import FormulaPlot.Drawing.Setup
import FormulaPlot.Entry.Entry
import FormulaPlot.Entry.Factory
import FormulaPlot.Equation.Domain
import FormulaPlot.Equation.Normal
import FormulaPlot.Equation.Preparation
import FormulaPlot.Formula.Calls
import FormulaPlot.Formula.Diagnostic
import FormulaPlot.Formula.Evaluation
import FormulaPlot.Formula.Pgfmath
import FormulaPlot.Formula.Position
import FormulaPlot.Formula.Reading
import FormulaPlot.Formula.Safety
import FormulaPlot.Formula.Scanning
import FormulaPlot.Formula.Token
import FormulaPlot.Formula.Traversal
import FormulaPlot.Formula.Tree
import FormulaPlot.Formula.Typesetting
import FormulaPlot.Formula.Value
import FormulaPlot.Log.Journal
import FormulaPlot.Log.Level
import FormulaPlot.Log.Recent
import FormulaPlot.Log.Record
import FormulaPlot.Log.Setup
import FormulaPlot.Numeric.Binary64
import FormulaPlot.Numeric.Complex
import FormulaPlot.Numeric.ComplexFunction
import FormulaPlot.Numeric.Fault
import FormulaPlot.Numeric.Power
import FormulaPlot.Numeric.Scalar
import FormulaPlot.Pen.Color
import FormulaPlot.Pen.Components
import FormulaPlot.Pen.Datum
import FormulaPlot.Pen.State
import FormulaPlot.Pen.Style
import FormulaPlot.Plane.Contour
import FormulaPlot.Plane.Curve
import FormulaPlot.Plane.Interval
import FormulaPlot.Plane.Tick
import FormulaPlot.Plane.Viewport
import FormulaPlot.Scene.Frame
import FormulaPlot.Scene.Graph
import FormulaPlot.Scene.Painter
import FormulaPlot.Scene.PlaneScene
import FormulaPlot.Scene.SpaceScene
import FormulaPlot.Space.Projection
import FormulaPlot.Space.Surface
import FormulaPlot.Space.Viewport3D
import FormulaPlot.Text.Blank
import FormulaPlot.Text.Digit
import FormulaPlot.Text.Letter
import FormulaPlot.Text.Printable
import FormulaPlot.Text.Quoted
import FormulaPlot.Text.Ranges
import FormulaPlot.Text.Word
import FormulaPlot.Tikz.Number
import FormulaPlot.Tikz.PlaneDocument
import FormulaPlot.Tikz.SpaceDocument
import FormulaPlot.Tikz.Thinning
import FormulaPlot.Proofs.Formula.Grammar
import FormulaPlot.Proofs.Formula.Boundary
import FormulaPlot.Proofs.Formula.Soundness
import FormulaPlot.Proofs.Formula.Completeness
import FormulaPlot.Proofs.Equation.Classification
import FormulaPlot.Proofs.Equation.Sides
import FormulaPlot.Proofs.Numeric.Negation
import FormulaPlot.Proofs.Numeric.Exponents
import FormulaPlot.Proofs.Plane.Crossings
import FormulaPlot.Proofs.Plane.Continuity
import FormulaPlot.Proofs.Plane.Opposite
import FormulaPlot.Proofs.Plane.Resolution
import FormulaPlot.Proofs.Numeric.Fields
import FormulaPlot.Proofs.Plane.Cells
import FormulaPlot.Proofs.Formula.Conversion
import FormulaPlot.Proofs.Formula.Preview
import FormulaPlot.Proofs.Scene.Domains
import FormulaPlot.Proofs.Equation.Positions
import FormulaPlot.Proofs.Equation.Logarithms
import FormulaPlot.Proofs.Tikz.Comments
import FormulaPlot.Proofs.Formula.Layout
import FormulaPlot.Proofs.Equation.Curves
import FormulaPlot.Proofs.Formula.Slices
import FormulaPlot.Proofs.Formula.Coincidence
import FormulaPlot.Proofs.Equation.Surfaces
import FormulaPlot.Proofs.Equation.States
import FormulaPlot.Proofs.Numeric.Reals
import FormulaPlot.Proofs.Space.Depth
import FormulaPlot.Proofs.Space.Meshes
import FormulaPlot.Proofs.Scene.Painting
import FormulaPlot.Proofs.Scene.DistantCamera
import FormulaPlot.Proofs.Numeric.Values
import FormulaPlot.Proofs.Numeric.Accuracy
import FormulaPlot.Proofs.Plane.FiniteIntervals
import FormulaPlot.Proofs.Decimal.Grid
import FormulaPlot.Proofs.Decimal.Reading
import FormulaPlot.Proofs.Tikz.Bounds
import FormulaPlot.Proofs.Numeric.Counts
import FormulaPlot.Proofs.Plane.Runs
import FormulaPlot.Proofs.Space.Wireframe
import FormulaPlot.Proofs.Plane.Segments
import FormulaPlot.Proofs.Drawing.Calls
import FormulaPlot.Proofs.Drawing.Composition
import FormulaPlot.Proofs.Drawing.BuiltScenes
import FormulaPlot.Proofs.Numeric.Order
import FormulaPlot.Proofs.Numeric.Rationals
import FormulaPlot.Proofs.Plane.NiceSteps
import FormulaPlot.Proofs.Scene.Queue
import FormulaPlot.Proofs.Plane.Ticks
import FormulaPlot.Proofs.Scene.PlaneFrames
import FormulaPlot.Proofs.Scene.GridLines
import FormulaPlot.Proofs.Scene.TickLabels
import FormulaPlot.Proofs.Plane.Transforms
import FormulaPlot.Proofs.Formula.Convertible
import FormulaPlot.Proofs.Formula.SourceOrder
import FormulaPlot.Proofs.Formula.NestingLimit
import FormulaPlot.Proofs.Formula.SafeLanguage
import FormulaPlot.Proofs.Formula.Addresses
import FormulaPlot.Proofs.Equation.FixedPoint
import FormulaPlot.Proofs.Tikz.Thinning
import FormulaPlot.Proofs.Tikz.PrintedNumbers
import FormulaPlot.Proofs.Pen.Assignments
import FormulaPlot.Proofs.Tikz.GridCommand
import FormulaPlot.Proofs.Formula.Carets
import FormulaPlot.Proofs.Tikz.SharedCurves
