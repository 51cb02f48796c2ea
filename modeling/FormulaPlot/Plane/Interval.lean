import FormulaPlot.Numeric.Scalar

/-!
Intervals of scalars: visible ranges and declared domains.
-/

namespace FormulaPlot

open FormulaPlot.Scalar

set_option autoImplicit false

structure Interval (α : Type) where
  lo : α
  hi : α
  deriving BEq

namespace Interval

variable {α : Type} [Scalar α]

def span (interval : Interval α) : α := interval.hi - interval.lo

def center (interval : Interval α) : α := (interval.lo + interval.hi) / 2.0

/-- The interval shown when no other is asked for. -/
def standard : Interval α := ⟨-(10.0), 10.0⟩

def leastSpan : α := 1e-3

def greatestSpan : α := 1e6

def around (center span : α) : Interval α := ⟨center - span / 2.0, center + span / 2.0⟩

/-- An interval in its proper order, its span brought into limits about its centre. -/
def sanitized (interval : Interval α) : Interval α :=
  if isFinite interval.lo && isFinite interval.hi then
    around interval.center
      (minimum greatestSpan (maximum leastSpan (abs interval.span)))
  else standard

/-- Added to the upper end of a domain that has no length. -/
def degeneratePad : α := 1e-6

/-- Ends in their proper order, never together. -/
def ordered (lo hi : α) : Interval α :=
  if hi ≤ lo then ⟨minimum lo hi, maximum lo hi + degeneratePad⟩ else ⟨lo, hi⟩

def overlap (interval visible : Interval α) : Interval α :=
  ⟨maximum interval.lo visible.lo, minimum interval.hi visible.hi⟩

def isEmpty (interval : Interval α) : Bool := decide (interval.hi ≤ interval.lo)

/-- What is visible of an interval, if that has a length. -/
def clip? (interval visible : Interval α) : Option (Interval α) :=
  let common := interval.overlap visible
  if common.isEmpty then none else some common

def contains (interval : Interval α) (value : α) : Bool :=
  decide (interval.lo ≤ value) && decide (value ≤ interval.hi)

def shift (interval : Interval α) (amount : α) : Interval α :=
  ⟨interval.lo + amount, interval.hi + amount⟩

def shiftBack (interval : Interval α) (amount : α) : Interval α :=
  ⟨interval.lo - amount, interval.hi - amount⟩

/-- Distances from a fixed point are multiplied by a factor. -/
def scaleAbout (interval : Interval α) (fixed factor : α) : Interval α :=
  ⟨fixed + (interval.lo - fixed) * factor, fixed + (interval.hi - fixed) * factor⟩

def scaleAboutCenter (interval : Interval α) (factor : α) : Interval α :=
  let half := interval.span * factor / 2.0
  ⟨interval.center - half, interval.center + half⟩

end Interval

end FormulaPlot
