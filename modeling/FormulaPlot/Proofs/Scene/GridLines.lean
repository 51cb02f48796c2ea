import FormulaPlot.Proofs.Plane.Segments
import FormulaPlot.Proofs.Plane.Ticks
import FormulaPlot.Proofs.Scene.PlaneFrames

/-!
Grid lines of the plane without rounding. There is one for each tick, so that they all lie in the
view exactly when the ticks of both axes do.
-/

namespace FormulaPlot

open FormulaPlot.Decimal FormulaPlot.Scalar

set_option autoImplicit false

theorem Step.tick_unit : (10 : Rat) ^ (-(Step.tickPlaces : Int)) = 1 / 10 ^ 10 := by
  rw [zpow_neg, one_div]
  rfl

/-- Fewer than a hundred thousand parts of a visible axis are not finer than the rounding. -/
theorem Step.coarse_of_few {span size : Rat} {most : Int} (long : 1 / 1000 ≤ span) (some : 0 < most)
    (few : most ≤ 10 ^ 5) (enough : span / most ≤ size) :
    10 ^ (-(Step.tickPlaces : Int)) ≤ size := by
  have wanted : (0 : Rat) < most := by exact_mod_cast some
  have bound : (most : Rat) ≤ 10 ^ 5 := by exact_mod_cast few
  calc (10 : Rat) ^ (-(Step.tickPlaces : Int)) ≤ 1 / 1000 / 10 ^ 5 := by
        rw [Step.tick_unit]
        norm_num
    _ ≤ span / most := div_le_div₀ (by linarith) long wanted bound
    _ ≤ size := enough

/-- All ticks are in view exactly when the end is near enough to the last multiple in it. -/
theorem Step.inside_iff {size lo hi : Rat} (positive : 0 < size) (order : lo ≤ hi) :
    (∀ tick ∈ Step.multiples size lo (hi + size / 2), lo ≤ tick ∧ tick ≤ hi) ↔
      Int.fract (hi / size) < 1 / 2 := by
  rw [← Step.within_iff positive order]
  constructor
  · exact fun inside tick among => (inside tick among).2
  · intro within tick among
    exact ⟨(((Step.lists_multiples positive).mem_iff tick).mp among).2.1, within tick among⟩

/-- The ticks of an interval are those in it exactly when its upper end is less than half a step
past the last of them and the step is not finer than the rounding of ticks. -/
theorem Interval.ticks_listed_iff {interval : Interval Rat} {most : Int} (some : 0 < most)
    (long : 1 / 1000 ≤ interval.span) :
    ∃ (step : Step Rat) (ticks : List Rat), Step.nice interval.span most = .ok step ∧
      interval.ticks most = .ok ticks ∧
      (1 / 10 ^ 10 ≤ step.size →
        Step.Lists step.size interval.lo (interval.hi + step.size / 2) ticks) ∧
      (Step.Lists step.size interval.lo interval.hi ticks ↔
        Int.fract (interval.hi / step.size) < 1 / 2 ∧ 1 / 10 ^ 10 ≤ step.size) := by
  have length : interval.span = interval.hi - interval.lo := rfl
  obtain ⟨step, made, best, ticks⟩ :=
    Interval.ticks_rat (by linarith : 0 < interval.span) some
  rw [← Step.tick_unit]
  refine ⟨step, _, made, ticks, ?_, ?_⟩
  · intro coarse
    rw [Step.rounded_multiples (best.1.1.multiple_of_power coarse)]
    exact Step.lists_multiples best.1.1.positive
  · refine Step.rounded_lists_iff best.1.1 (by linarith) ?_
    refine (le_or_gt _ step.size).imp id fun fine => ?_
    rw [Step.tick_unit] at fine
    linarith

namespace PlaneScene

variable {viewport : Viewport Rat}

/-! Grid lines in view -/

theorem vertical_inside (tall : viewport.y.lo ≤ viewport.y.hi) (x : Rat) :
    (∀ point ∈ (verticalGridLine viewport x).points, viewport.Contains point) ↔
      viewport.x.lo ≤ x ∧ x ≤ viewport.x.hi := by
  constructor
  · intro inside
    have foot := inside ⟨x, viewport.y.lo⟩ (List.mem_cons_self ..)
    exact ⟨foot.left, foot.right⟩
  · rintro ⟨left, right⟩ point among
    rcases List.mem_pair.mp among with rfl | rfl
    · exact ⟨left, right, le_rfl, tall⟩
    · exact ⟨left, right, tall, le_rfl⟩

theorem horizontal_inside (wide : viewport.x.lo ≤ viewport.x.hi) (y : Rat) :
    (∀ point ∈ (horizontalGridLine viewport y).points, viewport.Contains point) ↔
      viewport.y.lo ≤ y ∧ y ≤ viewport.y.hi := by
  constructor
  · intro inside
    have start := inside ⟨viewport.x.lo, y⟩ (List.mem_cons_self ..)
    exact ⟨start.bottom, start.top⟩
  · rintro ⟨bottom, top⟩ point among
    rcases List.mem_pair.mp among with rfl | rfl
    · exact ⟨le_rfl, wide, bottom, top⟩
    · exact ⟨wide, le_rfl, bottom, top⟩

theorem grid_inside (wide : viewport.x.lo ≤ viewport.x.hi) (tall : viewport.y.lo ≤ viewport.y.hi)
    (xs ys : List Rat) :
    (∀ line ∈ xs.map (verticalGridLine viewport) ++ ys.map (horizontalGridLine viewport),
        ∀ point ∈ line.points, viewport.Contains point) ↔
      (∀ x ∈ xs, viewport.x.lo ≤ x ∧ x ≤ viewport.x.hi) ∧
        ∀ y ∈ ys, viewport.y.lo ≤ y ∧ y ≤ viewport.y.hi := by
  rw [List.forall_mem_append, List.forall_mem_map, List.forall_mem_map]
  simp only [vertical_inside tall, horizontal_inside wide]

/-- The ticks of an axis that is not too short are multiples of its step. -/
theorem axis_ticks {interval : Interval Rat} {most : Int} (long : 1 / 1000 ≤ interval.span)
    (some : 0 < most) (few : most ≤ 10 ^ 5) :
    ∃ step : Step Rat, Step.nice interval.span most = .ok step ∧
      Step.IsLeastNice (interval.span / most) step.size ∧
      interval.ticks most =
        .ok (Step.multiples step.size interval.lo (interval.hi + step.size / 2)) := by
  obtain ⟨step, made, best, ticks⟩ := Interval.ticks_rat (by linarith) some
  have coarse := Step.coarse_of_few long some few best.1.2
  rw [Step.rounded_multiples (best.1.1.multiple_of_power coarse)] at ticks
  exact ⟨step, made, best, ticks⟩

/-- Without curves a picture is made on every canvas that has a size. -/
theorem build_rat (wide : 1 / 1000 ≤ viewport.x.span) (tall : 1 / 1000 ≤ viewport.y.span)
    (settings : PlaneSettings) {canvas : Canvas Rat} (width : 0 < canvas.width)
    (height : 0 < canvas.height) : ∃ scene, build [] viewport settings canvas = .ok scene := by
  have checked : canvas.check = .ok () := by
    refine if_neg ?_
    rw [zero_rat, not_or, not_le, not_le]
    exact ⟨width, height⟩
  obtain ⟨_, _, _, xs⟩ := axis_ticks wide (by decide : 0 < ticksAcross) (by decide)
  obtain ⟨_, _, _, ys⟩ := axis_ticks tall (by decide : 0 < ticksUp) (by decide)
  obtain ⟨lines, gridded⟩ := grid_made xs ys
  obtain ⟨marks, ticked⟩ := ticks_made xs ys
  obtain ⟨framed, frame⟩ := frame_made checked gridded ticked
  exact ⟨_, build_none frame⟩

/-- The grid lines lie in the view exactly when both upper ends are less than half a step past the
last grid line. -/
theorem grid_in_view_iff (wide : 1 / 1000 ≤ viewport.x.span) (tall : 1 / 1000 ≤ viewport.y.span) :
    ∃ across up : Step Rat, Step.nice viewport.x.span ticksAcross = .ok across ∧
      Step.nice viewport.y.span ticksUp = .ok up ∧
      ∀ (graphs : List (Graph Rat)) (settings : PlaneSettings) (canvas : Canvas Rat)
        (scene : PlaneScene Rat), settings.grid = true →
        build graphs viewport settings canvas = .ok scene →
        ((∀ line ∈ scene.polylines, line.style.layer = Layer.grid →
            ∀ point ∈ line.points, viewport.Contains point) ↔
          Int.fract (viewport.x.hi / across.size) < 1 / 2 ∧
            Int.fract (viewport.y.hi / up.size) < 1 / 2) := by
  have width : viewport.x.lo ≤ viewport.x.hi := by
    have span : viewport.x.span = viewport.x.hi - viewport.x.lo := rfl
    linarith
  have height : viewport.y.lo ≤ viewport.y.hi := by
    have span : viewport.y.span = viewport.y.hi - viewport.y.lo := rfl
    linarith
  obtain ⟨across, madeAcross, bestAcross, xs⟩ :=
    axis_ticks wide (by decide : 0 < ticksAcross) (by decide)
  obtain ⟨up, madeUp, bestUp, ys⟩ := axis_ticks tall (by decide : 0 < ticksUp) (by decide)
  refine ⟨across, up, madeAcross, madeUp, ?_⟩
  intro graphs settings canvas scene shown made
  obtain ⟨lines, gridded, layer⟩ := grid_layer made shown
  rw [grid, xs, ys] at gridded
  cases gridded
  rw [← Step.inside_iff bestAcross.1.1.positive width,
    ← Step.inside_iff bestUp.1.1.positive height, ← grid_inside width height]
  constructor
  · intro inside line among
    obtain ⟨drawn, style⟩ := (layer line).mpr among
    exact inside line drawn style
  · intro inside line drawn style
    exact inside line ((layer line).mp ⟨drawn, style⟩)

end PlaneScene

/-- The ticks of an interval are the multiples of its step from its lower end to half a step past
its upper one, and those in it exactly when the upper end is less than half a step past the last
multiple and the step is not finer than the rounding of ticks. The grid lines of a picture then lie
in the view exactly when both upper ends are that near. -/
theorem ticks_in_view_iff (interval : Interval Rat) (most : Int) (viewport : Viewport Rat)
    (some : 0 < most) (long : 1 / 1000 ≤ interval.span) (wide : 1 / 1000 ≤ viewport.x.span)
    (tall : 1 / 1000 ≤ viewport.y.span) :
    (∃ (step : Step Rat) (ticks : List Rat), Step.nice interval.span most = .ok step ∧
      interval.ticks most = .ok ticks ∧
      (1 / 10 ^ 10 ≤ step.size →
        Step.Lists step.size interval.lo (interval.hi + step.size / 2) ticks) ∧
      (Step.Lists step.size interval.lo interval.hi ticks ↔
        Int.fract (interval.hi / step.size) < 1 / 2 ∧ 1 / 10 ^ 10 ≤ step.size)) ∧
    ∃ across up : Step Rat, Step.nice viewport.x.span PlaneScene.ticksAcross = .ok across ∧
      Step.nice viewport.y.span PlaneScene.ticksUp = .ok up ∧
      ∀ (graphs : List (Graph Rat)) (settings : PlaneSettings) (canvas : Canvas Rat)
        (scene : PlaneScene Rat), settings.grid = true →
        PlaneScene.build graphs viewport settings canvas = .ok scene →
        ((∀ line ∈ scene.polylines, line.style.layer = Layer.grid →
            ∀ point ∈ line.points, viewport.Contains point) ↔
          Int.fract (viewport.x.hi / across.size) < 1 / 2 ∧
            Int.fract (viewport.y.hi / up.size) < 1 / 2) := by
  exact ⟨Interval.ticks_listed_iff some long, PlaneScene.grid_in_view_iff wide tall⟩

/-- In the standard view, in steps of two, nothing is past the end. -/
theorem standard_ticks_in_view :
    (∃ (step : Step Rat) (ticks : List Rat), Step.nice (20 : Rat) 10 = .ok step ∧
      (⟨-10, 10⟩ : Interval Rat).ticks 10 = .ok ticks ∧ Step.Lists step.size (-10) 10 ticks) ∧
    ∃ scene : PlaneScene Rat,
      PlaneScene.build [] ⟨⟨-10, 10⟩, ⟨-10, 10⟩⟩ {} ⟨800, 800⟩ = .ok scene ∧
      ∀ line ∈ scene.polylines, line.style.layer = Layer.grid →
        ∀ point ∈ line.points, (⟨⟨-10, 10⟩, ⟨-10, 10⟩⟩ : Viewport Rat).Contains point := by
  have span : (⟨-10, 10⟩ : Interval Rat).span = 20 := by
    show (10 : Rat) - -10 = 20
    norm_num
  have long : 1 / 1000 ≤ (⟨-10, 10⟩ : Interval Rat).span := by
    rw [span]
    norm_num
  obtain ⟨⟨step, ticks, made, listed, _, iff⟩, across, up, madeAcross, madeUp, inside⟩ :=
    ticks_in_view_iff ⟨-10, 10⟩ 10 ⟨⟨-10, 10⟩, ⟨-10, 10⟩⟩ (by decide) long long long
  rw [span] at made madeAcross madeUp
  constructor
  · have two : step.size = 2 * 10 ^ (0 : Int) := by
      refine Step.size_of_nice (by norm_num) (by decide) made ?_
      have part : (20 : Rat) / (10 : Int) = 2 * 10 ^ (0 : Int) := by norm_num
      rw [part]
      exact Step.least_nice_self (.of_two 0)
    refine ⟨step, ticks, made, listed, iff.mpr ?_⟩
    rw [two]
    norm_num
  · have wide : across.size = 2 * 10 ^ (0 : Int) :=
      Step.size_of_nice (by norm_num) (by decide) madeAcross
        (Step.least_nice_two (by norm_num [PlaneScene.ticksAcross])
          (by norm_num [PlaneScene.ticksAcross]))
    have tall : up.size = 2 * 10 ^ (0 : Int) :=
      Step.size_of_nice (by norm_num) (by decide) madeUp
        (Step.least_nice_two (by norm_num [PlaneScene.ticksUp]) (by norm_num [PlaneScene.ticksUp]))
    have drawn : ∃ scene, PlaneScene.build [] (⟨⟨-10, 10⟩, ⟨-10, 10⟩⟩ : Viewport Rat) {}
        (⟨800, 800⟩ : Canvas Rat) = .ok scene := by
      refine PlaneScene.build_rat ?_ ?_ {} (by norm_num) (by norm_num)
      · exact long
      · exact long
    obtain ⟨scene, made⟩ := drawn
    refine ⟨scene, made, (inside [] {} ⟨800, 800⟩ scene rfl made).mpr ?_⟩
    rw [wide, tall]
    norm_num

/-- The next multiple after the end is let through, a whole unit outside. -/
theorem tick_past_end :
    ((⟨0, 15⟩ : Interval Rat).ticks 10).toOption = some [0, 2, 4, 6, 8, 10, 12, 14, 16] ∧
      ∀ size, ¬Step.Lists size 0 15 [0, 2, 4, 6, 8, 10, 12, 14, 16] := by
  refine ⟨by decide +kernel, ?_⟩
  intro size lists
  have below := ((lists.mem_iff 16).mp (by simp)).2.2
  norm_num at below

end FormulaPlot
