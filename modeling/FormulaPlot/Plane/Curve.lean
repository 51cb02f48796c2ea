import FormulaPlot.Plane.Viewport

/-!
Curves sampled at evenly spaced places. Neighbouring samples are joined unless one of them is
missing or the curve jumps between them.
-/

namespace FormulaPlot

open FormulaPlot.Scalar

set_option autoImplicit false

/-- A sample density rounded half up into limits. -/
def sampleCount (samples : Float) (least greatest : Int) : Except Fault Int :=
  (floor (samples + 0.5)).map fun count => max least (min greatest count)

namespace Curve

def leastSamples : Int := 32

def greatestSamples : Int := 5000

variable {α : Type} [Scalar α]

/-- Values beyond this are taken for missing ones. -/
def greatestValue : α := 1e6

/-- A curve jumps when it moves by more than this many heights of the viewport. -/
def jumpFactor : α := 8.0

def leastHeight : α := 1e-6

def jumpThreshold (visible : Interval α) : α := maximum leastHeight visible.span * jumpFactor

def place (domain : Interval α) (count index : Nat) : α :=
  domain.lo + ofNat index / ofNat count * (domain.hi - domain.lo)

@[specialize] def sample (curve : α → Option α) (greatest x : α) : Option (Point α) :=
  match curve x with
  | none => none
  | some y => if !isFinite y || decide (greatest < abs y) then none else some ⟨x, y⟩

def joins (threshold : α) (first second : Point α) : Bool :=
  !decide (threshold < abs (second.y - first.y))

/-- A run of samples, given backwards, if it has more than one. -/
def finishedRun (run : List (Point α)) : List (List (Point α)) :=
  if 1 < run.length then [run.reverse] else []

@[specialize] def runsFrom (joined : Point α → Point α → Bool) (run : List (Point α)) :
    List (Option (Point α)) → List (List (Point α))
  | [] => finishedRun run
  | none :: rest => finishedRun run ++ runsFrom joined [] rest
  | some point :: rest =>
      match run with
      | [] => runsFrom joined [point] rest
      | previous :: _ =>
          if joined previous point then runsFrom joined (point :: run) rest
          else finishedRun run ++ runsFrom joined [point] rest

/-- Longest runs of joined samples. -/
def runs (joined : Point α → Point α → Bool) (samples : List (Option (Point α))) :
    List (List (Point α)) := runsFrom joined [] samples

@[specialize] def samples (curve : α → Option α) (domain : Interval α) (count : Nat)
    (greatest : α) : List (Option (Point α)) :=
  (List.range (count + 1)).map fun index => sample curve greatest (place domain count index)

@[specialize] def polylines (curve : α → Option α) (domain : Interval α) (count : Nat)
    (visible : Interval α) (greatest : α) : List (List (Point α)) :=
  runs (joins (jumpThreshold visible)) (samples curve domain count greatest)

/-- Parts that a curve is cut into for a sample density. -/
def resolution (samples : Float) : Except Fault Nat :=
  (sampleCount samples leastSamples greatestSamples).map Int.toNat

end Curve

end FormulaPlot
