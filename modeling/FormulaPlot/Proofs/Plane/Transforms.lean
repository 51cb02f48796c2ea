import FormulaPlot.Plane.Viewport
import FormulaPlot.Proofs.Numeric.Rationals

/-!
Moving over the plane without rounding. What is shown has spans within the limits, and exactly the
views with such spans are shown as they are. So panning and zooming are the transforms that they are
meant to be: the content follows a drag, a fixed point stays where it is, and one move after another
is a move again.
-/

namespace FormulaPlot

open FormulaPlot.Scalar

set_option autoImplicit false

/-- Spans that may be shown. -/
def WithinLimits (span : Rat) : Prop := 1 / 1000 ≤ span ∧ span ≤ 1000000

instance (span : Rat) : Decidable (WithinLimits span) :=
  inferInstanceAs (Decidable (1 / 1000 ≤ span ∧ span ≤ 1000000))

namespace Scalar

theorem two_rat : (2.0 : Rat) = 2 := by norm_num

theorem minimum_rat (first second : Rat) : minimum first second = min first second := by
  unfold minimum
  split
  · next below => exact (min_eq_right below.le).symm
  · next above => exact (min_eq_left (not_lt.mp above)).symm

theorem maximum_rat (first second : Rat) : maximum first second = max first second := by
  unfold maximum
  split
  · next above => exact (max_eq_right above.le).symm
  · next below => exact (max_eq_left (not_lt.mp below)).symm

end Scalar

/-- Two drags, one after the other. -/
def Point.plus (first second : Point Rat) : Point Rat :=
  ⟨first.x + second.x, first.y + second.y⟩

/-! Intervals that are shown -/

namespace Interval

variable {interval : Interval Rat}

/-- In its proper order, with a span within the limits. -/
structure IsShown (interval : Interval Rat) : Prop where
  ordered : interval.lo < interval.hi
  limited : WithinLimits interval.span

theorem is_shown_iff : interval.IsShown ↔ WithinLimits interval.span := by
  refine ⟨IsShown.limited, fun limited => ⟨?_, limited⟩⟩
  have least : 1 / 1000 ≤ interval.hi - interval.lo := limited.1
  linarith

theorem span_around (center span : Rat) : (around center span).span = span := by
  show center + span / 2.0 - (center - span / 2.0) = span
  rw [two_rat]
  ring

theorem around_center (interval : Interval Rat) :
    around interval.center interval.span = interval := by
  obtain ⟨lo, hi⟩ := interval
  have first : (lo + hi) / 2 - (hi - lo) / 2 = lo := by ring
  have last : (lo + hi) / 2 + (hi - lo) / 2 = hi := by ring
  show (⟨(lo + hi) / 2.0 - (hi - lo) / 2.0, (lo + hi) / 2.0 + (hi - lo) / 2.0⟩ : Interval Rat) = _
  rw [two_rat, first, last]

theorem sanitized_rat (interval : Interval Rat) :
    interval.sanitized = around interval.center (min 1000000 (max (1 / 1000) |interval.span|)) := by
  have least : (leastSpan : Rat) = 1 / 1000 := by
    rw [leastSpan]
    norm_num
  have greatest : (greatestSpan : Rat) = 1000000 := by
    rw [greatestSpan]
    norm_num
  rw [← least, ← greatest, ← abs_rat, ← maximum_rat, ← minimum_rat]
  rfl

theorem sanitized_shown (interval : Interval Rat) : interval.sanitized.IsShown := by
  rw [is_shown_iff, sanitized_rat, span_around]
  refine ⟨le_min (by norm_num) (le_max_left _ _), min_le_left _ _⟩

/-- Exactly what may be shown is shown as it is. -/
theorem sanitized_eq_self_iff : interval.sanitized = interval ↔ WithinLimits interval.span := by
  constructor
  · intro same
    rw [← same]
    exact interval.sanitized_shown.limited
  · rintro ⟨least, most⟩
    have positive : 0 ≤ interval.span := by linarith
    rw [sanitized_rat, abs_of_nonneg positive, max_eq_right least, min_eq_right most,
      around_center]

theorem span_shift (interval : Interval Rat) (amount : Rat) :
    (interval.shift amount).span = interval.span := by
  show interval.hi + amount - (interval.lo + amount) = interval.hi - interval.lo
  ring

theorem span_shift_back (interval : Interval Rat) (amount : Rat) :
    (interval.shiftBack amount).span = interval.span := by
  show interval.hi - amount - (interval.lo - amount) = interval.hi - interval.lo
  ring

theorem span_scale_about (interval : Interval Rat) (fixed factor : Rat) :
    (interval.scaleAbout fixed factor).span = interval.span * factor := by
  show fixed + (interval.hi - fixed) * factor - (fixed + (interval.lo - fixed) * factor) =
    (interval.hi - interval.lo) * factor
  ring

theorem scale_about_twice (interval : Interval Rat) (fixed first second : Rat) :
    (interval.scaleAbout fixed first).scaleAbout fixed second =
      interval.scaleAbout fixed (first * second) := by
  unfold scaleAbout
  congr 1 <;> ring

end Interval

/-! Views that are shown -/

namespace Viewport

variable {viewport : Viewport Rat} {canvas : Canvas Rat}

/-- Both axes are shown. -/
structure IsShown (viewport : Viewport Rat) : Prop where
  x : viewport.x.IsShown
  y : viewport.y.IsShown

/-- Both spans are within the limits. -/
structure IsLimited (viewport : Viewport Rat) : Prop where
  x : WithinLimits viewport.x.span
  y : WithinLimits viewport.y.span

theorem sanitized_is_shown (viewport : Viewport Rat) : viewport.sanitized.IsShown :=
  ⟨viewport.x.sanitized_shown, viewport.y.sanitized_shown⟩

theorem sanitized_of_limited (limited : viewport.IsLimited) : viewport.sanitized = viewport := by
  obtain ⟨x, y⟩ := viewport
  show (⟨x.sanitized, y.sanitized⟩ : Viewport Rat) = _
  rw [Interval.sanitized_eq_self_iff.mpr limited.x, Interval.sanitized_eq_self_iff.mpr limited.y]

theorem IsLimited.spans (limited : viewport.IsLimited) :
    viewport.x.span ≠ 0 ∧ viewport.y.span ≠ 0 := by
  have across := limited.x.1
  have up := limited.y.1
  constructor <;> linarith

/-- The view behind a drag, before it is sanitized. -/
def dragged (viewport : Viewport Rat) (canvas : Canvas Rat) (drag : Point Rat) : Viewport Rat :=
  ⟨viewport.x.shiftBack (drag.x / canvas.width * viewport.x.span),
    viewport.y.shift (drag.y / canvas.height * viewport.y.span)⟩

/-- The view scaled about a point, before it is sanitized. -/
def scaled (viewport : Viewport Rat) (fixed : Point Rat) (factorX factorY : Rat) : Viewport Rat :=
  ⟨viewport.x.scaleAbout fixed.x factorX, viewport.y.scaleAbout fixed.y factorY⟩

theorem dragged_limited (limited : viewport.IsLimited) (canvas : Canvas Rat) (drag : Point Rat) :
    (viewport.dragged canvas drag).IsLimited := by
  constructor
  · rw [dragged, Interval.span_shift_back]
    exact limited.x
  · rw [dragged, Interval.span_shift]
    exact limited.y

section Canvas

variable (wide : canvas.width ≠ 0) (tall : canvas.height ≠ 0)
include wide tall

theorem to_world_rat (viewport : Viewport Rat) (pixel : Point Rat) :
    viewport.toWorld canvas pixel =
      .ok ⟨viewport.x.lo + pixel.x / canvas.width * viewport.x.span,
        viewport.y.hi - pixel.y / canvas.height * viewport.y.span⟩ := by
  rw [toWorld, divide_rat wide, divide_rat tall]
  rfl

theorem pan_rat (viewport : Viewport Rat) (drag : Point Rat) :
    viewport.pan canvas drag = .ok (viewport.dragged canvas drag).sanitized := by
  rw [pan, divide_rat wide, divide_rat tall]
  rfl

theorem pan_of_limited (limited : viewport.IsLimited) (drag : Point Rat) :
    viewport.pan canvas drag = .ok (viewport.dragged canvas drag) := by
  rw [pan_rat wide tall, sanitized_of_limited (dragged_limited limited canvas drag)]

end Canvas

theorem to_canvas_rat (limited : viewport.IsLimited) (canvas : Canvas Rat) (point : Point Rat) :
    viewport.toCanvas canvas point =
      .ok ⟨(point.x - viewport.x.lo) / viewport.x.span * canvas.width,
        (viewport.y.hi - point.y) / viewport.y.span * canvas.height⟩ := by
  obtain ⟨across, up⟩ := limited.spans
  rw [toCanvas, divide_rat across, divide_rat up]
  rfl

theorem zoom_of_limited {fixed : Point Rat} {factorX factorY : Rat}
    (limited : (viewport.scaled fixed factorX factorY).IsLimited) :
    viewport.zoomByAxis fixed factorX factorY = viewport.scaled fixed factorX factorY :=
  sanitized_of_limited limited

theorem scaled_limited {factorX factorY : Rat} (fixed : Point Rat)
    (across : WithinLimits (viewport.x.span * factorX))
    (up : WithinLimits (viewport.y.span * factorY)) :
    (viewport.scaled fixed factorX factorY).IsLimited := by
  constructor
  · rw [scaled, Interval.span_scale_about]
    exact across
  · rw [scaled, Interval.span_scale_about]
    exact up

section Laws

variable (wide : canvas.width ≠ 0) (tall : canvas.height ≠ 0) (limited : viewport.IsLimited)
include wide tall limited

theorem to_canvas_of_to_world (pixel : Point Rat) :
    (viewport.toWorld canvas pixel).bind (viewport.toCanvas canvas) = .ok pixel := by
  obtain ⟨across, up⟩ := limited.spans
  obtain ⟨x, y⟩ := pixel
  rw [to_world_rat wide tall]
  show viewport.toCanvas canvas _ = _
  rw [to_canvas_rat limited]
  congr 2
  · field_simp
    ring
  · field_simp
    ring

theorem to_world_of_to_canvas (point : Point Rat) :
    (viewport.toCanvas canvas point).bind (viewport.toWorld canvas) = .ok point := by
  obtain ⟨across, up⟩ := limited.spans
  obtain ⟨x, y⟩ := point
  rw [to_canvas_rat limited]
  show viewport.toWorld canvas _ = _
  rw [to_world_rat wide tall]
  congr 2
  · field_simp
    ring
  · field_simp
    ring

/-- What is seen moves by the drag. -/
theorem to_canvas_dragged (drag point : Point Rat) :
    (viewport.dragged canvas drag).toCanvas canvas point =
      (viewport.toCanvas canvas point).map (·.plus drag) := by
  obtain ⟨across, up⟩ := limited.spans
  rw [to_canvas_rat (dragged_limited limited canvas drag), to_canvas_rat limited, dragged,
    Interval.span_shift_back, Interval.span_shift]
  show Except.ok _ = Except.ok _
  congr 2
  · show (point.x - (viewport.x.lo - _)) / _ * _ = (point.x - viewport.x.lo) / _ * _ + drag.x
    field_simp
    ring
  · show (viewport.y.hi + _ - point.y) / _ * _ = (viewport.y.hi - point.y) / _ * _ + drag.y
    field_simp
    ring

theorem pan_after_pan (first second : Point Rat) :
    (viewport.pan canvas first).bind (·.pan canvas second) =
      viewport.pan canvas (first.plus second) := by
  have moved := dragged_limited limited canvas first
  rw [pan_of_limited wide tall limited, pan_of_limited wide tall limited]
  show (viewport.dragged canvas first).pan canvas second = _
  rw [pan_of_limited wide tall moved, dragged, dragged, dragged, Interval.span_shift_back,
    Interval.span_shift, Interval.shiftBack, Interval.shift]
  show Except.ok (⟨⟨_ - _ - _, _ - _ - _⟩, ⟨_ + _ + _, _ + _ + _⟩⟩ : Viewport Rat) =
    .ok ⟨⟨_ - (_ + _) / _ * _, _ - (_ + _) / _ * _⟩, ⟨_ + (_ + _) / _ * _, _ + (_ + _) / _ * _⟩⟩
  congr 3 <;> ring

end Laws

theorem to_canvas_fixed (limited : viewport.IsLimited) (canvas : Canvas Rat) {fixed : Point Rat}
    {factorX factorY : Rat} (scaled : (viewport.scaled fixed factorX factorY).IsLimited) :
    (viewport.zoomByAxis fixed factorX factorY).toCanvas canvas fixed =
      viewport.toCanvas canvas fixed := by
  obtain ⟨across, up⟩ := limited.spans
  obtain ⟨acrossScaled, upScaled⟩ := scaled.spans
  rw [zoom_of_limited scaled, to_canvas_rat scaled, to_canvas_rat limited]
  rw [Viewport.scaled] at acrossScaled upScaled ⊢
  rw [Interval.span_scale_about] at acrossScaled upScaled ⊢
  have factorAcross := right_ne_zero_of_mul acrossScaled
  have factorUp := right_ne_zero_of_mul upScaled
  rw [Interval.span_scale_about]
  congr 2
  · show (fixed.x - (fixed.x + (viewport.x.lo - fixed.x) * factorX)) / _ * _ = _
    field_simp
    ring
  · show (fixed.y + (viewport.y.hi - fixed.y) * factorY - fixed.y) / _ * _ = _
    field_simp
    ring

theorem zoom_after_zoom {fixed : Point Rat} {factorX factorY : Rat}
    (limited : (viewport.scaled fixed factorX factorY).IsLimited) (againX againY : Rat) :
    (viewport.zoomByAxis fixed factorX factorY).zoomByAxis fixed againX againY =
      viewport.zoomByAxis fixed (factorX * againX) (factorY * againY) := by
  rw [zoom_of_limited limited, zoomByAxis, zoomByAxis, scaled, Interval.scale_about_twice,
    Interval.scale_about_twice]

/-- What is seen at a pixel is as many times as far from the fixed point as the view is as wide and
as high. -/
theorem zoom_stretches (wide : canvas.width ≠ 0) (tall : canvas.height ≠ 0) {fixed : Point Rat}
    {factorX factorY : Rat} (limited : (viewport.scaled fixed factorX factorY).IsLimited)
    (pixel : Point Rat) :
    ∃ before after, viewport.toWorld canvas pixel = .ok before ∧
      (viewport.zoomByAxis fixed factorX factorY).toWorld canvas pixel = .ok after ∧
      after.x - fixed.x = (before.x - fixed.x) * factorX ∧
      after.y - fixed.y = (before.y - fixed.y) * factorY := by
  rw [zoom_of_limited limited]
  refine ⟨_, _, to_world_rat wide tall viewport pixel, to_world_rat wide tall _ pixel, ?_, ?_⟩
  · rw [scaled, Interval.span_scale_about]
    show fixed.x + (viewport.x.lo - fixed.x) * factorX + _ - fixed.x = _
    ring
  · rw [scaled, Interval.span_scale_about, Interval.span_scale_about]
    show fixed.y + (viewport.y.hi - fixed.y) * factorY - _ - fixed.y = _
    ring

/-- The maps between a view and a canvas, drags over the canvas and zooms about a point obey the
laws of the transforms that they stand for. -/
structure MovesExactly (viewport : Viewport Rat) (canvas : Canvas Rat) : Prop where
  toCanvasBack : ∀ pixel,
    (viewport.toWorld canvas pixel).bind (viewport.toCanvas canvas) = .ok pixel
  toWorldBack : ∀ point,
    (viewport.toCanvas canvas point).bind (viewport.toWorld canvas) = .ok point
  follows : ∀ drag point, ∃ panned pixel, viewport.pan canvas drag = .ok panned ∧
    viewport.toCanvas canvas point = .ok pixel ∧
    panned.toCanvas canvas point = .ok (pixel.plus drag)
  dragsAdd : ∀ first second, (viewport.pan canvas first).bind (·.pan canvas second) =
    viewport.pan canvas (first.plus second)
  anchored : ∀ fixed factorX factorY, WithinLimits (viewport.x.span * factorX) →
    WithinLimits (viewport.y.span * factorY) → ∃ pixel,
      viewport.toCanvas canvas fixed = .ok pixel ∧
      (viewport.zoomByAxis fixed factorX factorY).toCanvas canvas fixed = .ok pixel
  factorsMultiply : ∀ fixed factorX factorY againX againY,
    WithinLimits (viewport.x.span * factorX) → WithinLimits (viewport.y.span * factorY) →
      (viewport.zoomByAxis fixed factorX factorY).zoomByAxis fixed againX againY =
        viewport.zoomByAxis fixed (factorX * againX) (factorY * againY)
  stretches : ∀ fixed factorX factorY, WithinLimits (viewport.x.span * factorX) →
    WithinLimits (viewport.y.span * factorY) →
      (viewport.zoomByAxis fixed factorX factorY).x.span = viewport.x.span * factorX ∧
      (viewport.zoomByAxis fixed factorX factorY).y.span = viewport.y.span * factorY ∧
      ∀ pixel, ∃ before after, viewport.toWorld canvas pixel = .ok before ∧
        (viewport.zoomByAxis fixed factorX factorY).toWorld canvas pixel = .ok after ∧
        after.x - fixed.x = (before.x - fixed.x) * factorX ∧
        after.y - fixed.y = (before.y - fixed.y) * factorY

theorem moves_exactly (limited : viewport.IsLimited) (wide : canvas.width ≠ 0)
    (tall : canvas.height ≠ 0) : viewport.MovesExactly canvas where
  toCanvasBack := to_canvas_of_to_world wide tall limited
  toWorldBack := to_world_of_to_canvas wide tall limited
  follows := by
    intro drag point
    have seen := to_canvas_rat limited canvas point
    refine ⟨_, _, pan_of_limited wide tall limited drag, seen, ?_⟩
    rw [to_canvas_dragged wide tall limited, seen]
    rfl
  dragsAdd := pan_after_pan wide tall limited
  anchored := by
    intro fixed factorX factorY across up
    have seen := to_canvas_rat limited canvas fixed
    refine ⟨_, seen, ?_⟩
    rw [to_canvas_fixed limited canvas (scaled_limited fixed across up), seen]
  factorsMultiply := by
    intro fixed factorX factorY againX againY across up
    exact zoom_after_zoom (scaled_limited fixed across up) againX againY
  stretches := by
    intro fixed factorX factorY across up
    have scaledLimited := scaled_limited fixed across up
    refine ⟨?_, ?_, zoom_stretches wide tall scaledLimited⟩
    · rw [zoom_of_limited scaledLimited, scaled, Interval.span_scale_about]
    · rw [zoom_of_limited scaledLimited, scaled, Interval.span_scale_about]

/-- Whatever is sanitized, panned or zoomed is shown in its proper order and within the limits, and
sanitizing it again changes nothing. On every view within the limits, and every canvas, the moves
are exact. -/
theorem pan_and_zoom_are_exact (viewport : Viewport Rat) :
    (viewport.sanitized.IsShown ∧ viewport.sanitized.sanitized = viewport.sanitized ∧
      (∀ canvas drag, canvas.width ≠ 0 → canvas.height ≠ 0 →
        ∃ panned, viewport.pan canvas drag = .ok panned ∧ panned.IsShown) ∧
      (∀ fixed factor, (viewport.zoom fixed factor).IsShown) ∧
      ∀ fixed factorX factorY, (viewport.zoomByAxis fixed factorX factorY).IsShown) ∧
    (WithinLimits viewport.x.span → WithinLimits viewport.y.span →
      ∀ canvas : Canvas Rat, 0 < canvas.width → 0 < canvas.height →
        viewport.MovesExactly canvas) := by
  have shown := viewport.sanitized_is_shown
  refine ⟨⟨shown, ?_, ?_, ?_, ?_⟩, ?_⟩
  · exact sanitized_of_limited ⟨shown.x.limited, shown.y.limited⟩
  · intro canvas drag wide tall
    exact ⟨_, pan_rat wide tall viewport drag, sanitized_is_shown _⟩
  · intro fixed factor
    exact sanitized_is_shown _
  · intro fixed factorX factorY
    exact sanitized_is_shown _
  · intro across up canvas wide tall
    exact moves_exactly ⟨across, up⟩ wide.ne' tall.ne'

/-- A drag over the standard view and a zoom about its corner, back and forth. -/
theorem standard_view_moves :
    WithinLimits (standard : Viewport Rat).x.span ∧ WithinLimits (standard : Viewport Rat).y.span ∧
      (standard : Viewport Rat).pan ⟨800, 600⟩ ⟨40, 30⟩ = .ok ⟨⟨-11, 9⟩, ⟨-9, 11⟩⟩ ∧
      ((standard : Viewport Rat).pan ⟨800, 600⟩ ⟨40, 30⟩).bind (·.pan ⟨800, 600⟩ ⟨-40, -30⟩) =
        (standard : Viewport Rat).pan ⟨800, 600⟩ ((⟨40, 30⟩ : Point Rat).plus ⟨-40, -30⟩) ∧
      (standard : Viewport Rat).zoomByAxis ⟨10, 10⟩ (1 / 2) 3 = ⟨⟨0, 10⟩, ⟨-50, 10⟩⟩ ∧
      ((standard : Viewport Rat).zoomByAxis ⟨10, 10⟩ (1 / 2) 3).x.span =
        (standard : Viewport Rat).x.span * (1 / 2) ∧
      ((standard : Viewport Rat).zoomByAxis ⟨10, 10⟩ (1 / 2) 3).zoomByAxis ⟨10, 10⟩ 2 (1 / 3) =
        (standard : Viewport Rat).zoomByAxis ⟨10, 10⟩ (1 / 2 * 2) (3 * (1 / 3)) := by
  have across : WithinLimits (standard : Viewport Rat).x.span := by decide +kernel
  have up : WithinLimits (standard : Viewport Rat).y.span := by decide +kernel
  have half : WithinLimits ((standard : Viewport Rat).x.span * (1 / 2)) := by decide +kernel
  have triple : WithinLimits ((standard : Viewport Rat).y.span * 3) := by decide +kernel
  have exact := (pan_and_zoom_are_exact standard).2 across up ⟨800, 600⟩ (by norm_num)
    (by norm_num)
  refine ⟨across, up, ?_, exact.dragsAdd _ _, ?_, (exact.stretches _ _ _ half triple).1,
    exact.factorsMultiply _ _ _ _ _ half triple⟩
  · rw [pan_of_limited (by norm_num) (by norm_num) ⟨across, up⟩]
    show Except.ok (⟨⟨_, _⟩, ⟨_, _⟩⟩ : Viewport Rat) = _
    congr 3 <;> decide +kernel
  · rw [zoom_of_limited (scaled_limited _ half triple)]
    show (⟨⟨_, _⟩, ⟨_, _⟩⟩ : Viewport Rat) = _
    congr 2 <;> decide +kernel

end Viewport

end FormulaPlot
