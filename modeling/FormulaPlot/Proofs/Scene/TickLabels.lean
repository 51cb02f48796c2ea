import FormulaPlot.Proofs.Decimal.Reading
import FormulaPlot.Proofs.Plane.Domains
import FormulaPlot.Proofs.Plane.Transforms
import FormulaPlot.Proofs.Scene.GridLines

/-!
Labels of ticks without rounding. A label shows its tick rounded to thousandths, and two labels have
one text exactly when their ticks are rounded to one number. Steps of a thousandth and more are told
apart; on the shortest axes that a view may have, steps are finer, and some labels are then alike.
-/

namespace FormulaPlot

open FormulaPlot.Decimal FormulaPlot.Scalar

set_option autoImplicit false

/-! Texts of labels -/

/-- A label is read back as its tick rounded to thousandths. -/
theorem read_tick_label (tick : Rat) : readBack? (tickLabel tick) = some (roundRat 3 tick) := by
  have read : Scalar.read tick = .finite (decide (tick < 0)) tick.abs := rfl
  rw [tickLabel, read, read_fixed_trimmed (by decide), round_rat_eq]
  simp only [withSign, decide_eq_true_eq]

section Texts

variable {places : Nat} {negative other : Bool} {magnitude more : Rat}

theorem fixed_trimmed_congr (same : units magnitude places = units more places) :
    fixedTrimmed places (.finite negative magnitude) =
      fixedTrimmed places (.finite negative more) := by
  have digits : fixedMagnitude places magnitude = fixedMagnitude places more := by
    rw [fixedMagnitude, fixedMagnitude, same]
  rw [fixedTrimmed, fixedTrimmed, fixed, withSpecials, withSpecials, digits]

theorem fixed_trimmed_zero (none : units magnitude 3 = 0) (negative : Bool) :
    fixedTrimmed 3 (.finite negative magnitude) = "0" := by
  have digits : fixedMagnitude 3 magnitude = ['0', '.', '0', '0', '0'] := by
    rw [fixedMagnitude]
    have count : units magnitude (3 : Nat) = 0 := none
    rw [count]
    decide
  rw [fixedTrimmed, fixed, withSpecials, digits]
  cases negative <;> decide

theorem units_of_signs {scale : Rat} (positive : 0 < scale) {count counted : Nat}
    (same : withSign negative (count * scale) = withSign other (counted * scale)) :
    count = counted ∧ (negative = other ∨ count = 0) := by
  have least : (0 : Rat) ≤ count * scale := by positivity
  have also : (0 : Rat) ≤ counted * scale := by positivity
  have alike (equal : (count : Rat) * scale = counted * scale) : count = counted := by
    exact_mod_cast mul_right_cancel₀ positive.ne' equal
  have zero (equal : (count : Rat) * scale = 0) : count = 0 := by
    exact_mod_cast (mul_eq_zero.mp equal).resolve_right positive.ne'
  cases negative <;> cases other <;>
    simp only [withSign, Bool.false_eq_true, if_false, if_true] at same
  · exact ⟨alike same, .inl rfl⟩
  · exact ⟨alike (by linarith), .inr (zero (by linarith))⟩
  · exact ⟨alike (by linarith), .inr (zero (by linarith))⟩
  · exact ⟨alike (neg_injective same), .inl rfl⟩

end Texts

/-- Two labels have one text exactly when their ticks are rounded to one number. -/
theorem tick_label_eq_iff (tick other : Rat) :
    tickLabel tick = tickLabel other ↔ roundRat 3 tick = roundRat 3 other := by
  constructor
  · intro same
    have read := read_tick_label tick
    rw [same, read_tick_label other] at read
    exact (Option.some.inj read).symm
  · intro same
    have sign (tick : Rat) : roundRat 3 tick =
        withSign (decide (tick < 0)) (units tick.abs (3 : Nat) * 10 ^ (-(3 : Nat) : Int)) := by
      rw [round_rat_eq, rounded_eq]
      simp only [withSign, decide_eq_true_eq]
    rw [sign, sign] at same
    obtain ⟨counts, signs⟩ := units_of_signs (by positivity) same
    show fixedTrimmed 3 (.finite (decide (tick < 0)) tick.abs) =
      fixedTrimmed 3 (.finite (decide (other < 0)) other.abs)
    rcases signs with signs | none
    · rw [signs]
      exact fixed_trimmed_congr counts
    · rw [fixed_trimmed_zero none, fixed_trimmed_zero (counts ▸ none)]

/-! Ticks that are told apart -/

/-- Different ticks have different labels. -/
def TellApart (ticks : List Rat) : Prop :=
  ∀ one ∈ ticks, ∀ other ∈ ticks, one ≠ other → tickLabel one ≠ tickLabel other

/-- Every tick can be read off its label. -/
def ReadOff (ticks : List Rat) : Prop := ∀ tick ∈ ticks, readBack? (tickLabel tick) = some tick

theorem ReadOff.tell_apart {ticks : List Rat} (exact : ReadOff ticks) : TellApart ticks := by
  intro one listed other also different same
  have read := exact one listed
  rw [same, exact other also] at read
  exact different (Option.some.inj read).symm

namespace Step

variable {size lo hi : Rat}

/-- The ticks of an axis that have labels. -/
def labelled (size lo hi : Rat) : List Rat :=
  (multiples size lo (hi + size / 2)).filter PlaneScene.awayFromOrigin

theorem away_from_origin_iff (tick : Rat) :
    PlaneScene.awayFromOrigin tick = true ↔ 1 / 10 ^ 9 ≤ |tick| := by
  have least : (1e-9 : Rat) = 1 / 10 ^ 9 := by norm_num
  rw [PlaneScene.awayFromOrigin, abs_rat, Bool.not_eq_true', decide_eq_false_iff_not, not_lt, least]

theorem read_off_of_coarse (nice : IsNice size) (coarse : 1 / 1000 ≤ size) :
    ReadOff (labelled size lo hi) := by
  have unit : (10 : Rat) ^ (-(3 : Nat) : Int) = 1 / 1000 := by norm_num
  intro tick among
  obtain ⟨index, _, rfl⟩ := List.mem_map.mp (List.mem_filter.mp among).1
  rw [read_tick_label, round_rat_self]
  rw [← unit] at coarse
  exact (nice.multiple_of_power coarse).trans (.mul_right _)

/-! Steps finer than labels -/

/-- The steps of the shortest axes. -/
def fineSizes : List Rat := [1 / 10000, 1 / 5000, 1 / 2000]

theorem fine_size (nice : IsNice size) (least : 1 / 10000 ≤ size) (fine : size < 1 / 1000) :
    size ∈ fineSizes := by
  have power : (10 : Rat) ^ (-4 : Int) = 1 / 10000 := by norm_num
  rw [← power] at least
  have sizes := nice.in_decade least
  rw [power] at sizes
  simp only [fineSizes, List.mem_cons, List.not_mem_nil, or_false]
  rcases sizes with one | two | five | beyond
  · exact .inl one
  · exact .inr (.inl (by linarith))
  · exact .inr (.inr (by linarith))
  · linarith

/-- Labels one step on each side of the origin are alike, and so are those three and four steps
away from it. -/
theorem fine_labels_alike : ∀ size ∈ fineSizes,
    roundRat 3 ((-1 : Int) * size) = roundRat 3 ((1 : Int) * size) ∧
      roundRat 3 ((3 : Int) * size) = roundRat 3 ((4 : Int) * size) ∧
      roundRat 3 ((-3 : Int) * size) = roundRat 3 ((-4 : Int) * size) := by
  decide +kernel

theorem mem_labelled (least : 1 / 10000 ≤ size) {count : Int} (away : count ≠ 0)
    (above : lo ≤ count * size) (below : count * size ≤ hi + size / 2) :
    count * size ∈ labelled size lo hi := by
  have positive : 0 < size := by linarith
  refine List.mem_filter.mpr ⟨?_, ?_⟩
  · exact ((lists_multiples positive).mem_iff _).mpr ⟨.mul_right count, above, below⟩
  · rw [away_from_origin_iff, abs_mul, abs_of_pos positive]
    have whole : (1 : Rat) ≤ |(count : Rat)| := by exact_mod_cast Int.one_le_abs away
    have far : size ≤ |(count : Rat)| * size := le_mul_of_one_le_left positive.le whole
    linarith

/-- An axis through the origin, however it lies, has two ticks that such labels confuse. -/
theorem not_apart_of_fine (fine : size ∈ fineSizes) (left : lo ≤ 0) (right : 0 ≤ hi)
    (long : 24 / 5 * size < hi - lo) : ¬TellApart (labelled size lo hi) := by
  intro apart
  have least : 1 / 10000 ≤ size := by
    simp only [fineSizes, List.mem_cons, List.not_mem_nil, or_false] at fine
    rcases fine with rfl | rfl | rfl <;> norm_num
  obtain ⟨one, three, minus⟩ := fine_labels_alike size fine
  have confused {count other : Int} (different : count ≠ other) (away : count ≠ 0)
      (far : other ≠ 0) (first : lo ≤ count * size ∧ count * size ≤ hi + size / 2)
      (second : lo ≤ other * size ∧ other * size ≤ hi + size / 2)
      (same : roundRat 3 (count * size) = roundRat 3 (other * size)) : False := by
    refine apart _ (mem_labelled least away first.1 first.2) _
      (mem_labelled least far second.1 second.2) ?_ ((tick_label_eq_iff _ _).mpr same)
    intro equal
    exact different (by exact_mod_cast mul_right_cancel₀ (by linarith : size ≠ 0) equal)
  -- either there is a tick on both sides of the origin, or nearly all of the axis is on one side
  rcases le_or_gt lo (-size) with below | short
  · rcases le_or_gt size (hi + size / 2) with above | near
    · refine confused (by decide) (by decide) (by decide) ?_ ?_ one <;>
        constructor <;> push_cast <;> linarith
    · refine confused (by decide) (by decide) (by decide) ?_ ?_ minus <;>
        constructor <;> push_cast <;> linarith
  · refine confused (by decide) (by decide) (by decide) ?_ ?_ three <;>
      constructor <;> push_cast <;> linarith

section Axis

variable {span : Rat} {most : Int} (best : IsLeastNice (span / most) size)
include best

/-- Twelve ticks or more leave an axis almost five steps at least. -/
theorem steps_of_axis (positive : 0 < span) (many : 12 ≤ most) : 24 / 5 * size < span := by
  have least : (12 : Rat) ≤ most := by exact_mod_cast many
  have parts : span / most ≤ span / 12 :=
    div_le_div_of_nonneg_left positive.le (by norm_num) least
  have small := best.small
  linarith

variable (some : 0 < most)
include some

theorem thousandth_iff : 1 / 1000 ≤ size ↔ (most : Rat) / 2000 < span := by
  have wanted : (0 : Rat) < most := by exact_mod_cast some
  have reaches : (10 : Rat) * 10 ^ (-4 : Int) ≤ size ↔ _ := best.reaches_iff
  have decade : (10 : Rat) * 10 ^ (-4 : Int) = 1 / 1000 := by norm_num
  have half : (5 : Rat) * 10 ^ (-4 : Int) * most = most / 2000 := by
    norm_num
    ring
  rwa [lt_div_iff₀ wanted, decade, half] at reaches

/-- Fewer than twenty ticks are not set closer than a tenth of a thousandth. -/
theorem least_step (long : 1 / 1000 ≤ span) (few : most < 20) : 1 / 10000 ≤ size := by
  have wanted : (0 : Rat) < most := by exact_mod_cast some
  have greatest : (most : Rat) < 20 := by exact_mod_cast few
  have reaches : (10 : Rat) * 10 ^ (-5 : Int) ≤ size ↔ _ := best.reaches_iff
  have decade : (10 : Rat) * 10 ^ (-5 : Int) = 1 / 10000 := by norm_num
  have half : (5 : Rat) * 10 ^ (-5 : Int) = 1 / 20000 := by norm_num
  rw [lt_div_iff₀ wanted, decade, half] at reaches
  exact reaches.mpr (by linarith)

end Axis

/-- Labels of an axis through the origin tell its ticks apart, and can be read off, exactly when the
step is a thousandth at least, which is when the axis is long enough. -/
theorem labels_of_axis {interval : Interval Rat} {most : Int} (long : 1 / 1000 ≤ interval.span)
    (origin : interval.contains zero = true) (many : 12 ≤ most) (few : most < 20) :
    ∃ ticks, interval.ticks most = .ok ticks ∧
      (TellApart (ticks.filter PlaneScene.awayFromOrigin) ↔ (most : Rat) / 2000 < interval.span) ∧
      (ReadOff (ticks.filter PlaneScene.awayFromOrigin) ↔ (most : Rat) / 2000 < interval.span) := by
  have some : 0 < most := by omega
  have inside := Interval.contains_iff.mp origin
  rw [zero_rat] at inside
  obtain ⟨step, made, best, ticks⟩ := PlaneScene.axis_ticks long some (by omega)
  refine ⟨_, ticks, ?_⟩
  rw [← thousandth_iff best some]
  have coarse (apart : TellApart (labelled step.size interval.lo interval.hi)) :
      1 / 1000 ≤ step.size := by
    by_contra fine
    have least := least_step best some long few
    exact not_apart_of_fine (fine_size best.1.1 least (not_le.mp fine)) inside.1 inside.2
      (steps_of_axis best (by linarith : 0 < interval.span) many) apart
  constructor
  · exact ⟨coarse, fun reached => (read_off_of_coarse best.1.1 reached).tell_apart⟩
  · exact ⟨fun exact => coarse exact.tell_apart, read_off_of_coarse best.1.1⟩

end Step

/-! Views that are shown -/

/-- No axis that is shown is shorter than a thousandth. -/
theorem Interval.least_shown (interval : Interval Rat) : 1 / 1000 ≤ interval.sanitized.span :=
  interval.sanitized_shown.limited.1

/-- What is labelled in a view with the origin are the ticks of both axes away from it. Each label
shows its tick rounded to thousandths. So the labels of the horizontal axis tell its ticks apart,
and say exactly where they are, exactly when it is longer than eight thousandths, and those of the
vertical axis when it is longer than six. -/
theorem labels_tell_ticks_apart_iff (bounds : Viewport Rat)
    (originAcross : bounds.sanitized.x.contains zero = true)
    (originUp : bounds.sanitized.y.contains zero = true) :
    ∃ xs ys : List Rat,
      (∃ across, bounds.sanitized.x.ticks PlaneScene.ticksAcross = .ok across ∧
        xs = across.filter PlaneScene.awayFromOrigin) ∧
      (∃ up, bounds.sanitized.y.ticks PlaneScene.ticksUp = .ok up ∧
        ys = up.filter PlaneScene.awayFromOrigin) ∧
      (∀ (graphs : List (Graph Rat)) (settings : PlaneSettings) (canvas : Canvas Rat)
        (scene : PlaneScene Rat), settings.axes = true → settings.ticks = true →
        PlaneScene.build graphs bounds.sanitized settings canvas = .ok scene →
        scene.labels.map Label.text = xs.map tickLabel ++ ys.map tickLabel) ∧
      (∀ tick ∈ xs ++ ys, readBack? (tickLabel tick) = some (roundRat 3 tick)) ∧
      (TellApart xs ↔ 1 / 125 < bounds.sanitized.x.span) ∧
      (ReadOff xs ↔ 1 / 125 < bounds.sanitized.x.span) ∧
      (TellApart ys ↔ 3 / 500 < bounds.sanitized.y.span) ∧
      (ReadOff ys ↔ 3 / 500 < bounds.sanitized.y.span) := by
  have longAcross : 1 / 1000 ≤ bounds.sanitized.x.span := bounds.x.least_shown
  have longUp : 1 / 1000 ≤ bounds.sanitized.y.span := bounds.y.least_shown
  obtain ⟨across, acrossMade, acrossApart, acrossExact⟩ :=
    Step.labels_of_axis longAcross originAcross (by decide : 12 ≤ PlaneScene.ticksAcross)
      (by decide)
  obtain ⟨up, upMade, upApart, upExact⟩ :=
    Step.labels_of_axis longUp originUp (by decide : 12 ≤ PlaneScene.ticksUp) (by decide)
  have wide : ((PlaneScene.ticksAcross : Int) : Rat) / 2000 = 1 / 125 := by
    norm_num [PlaneScene.ticksAcross]
  have tall : ((PlaneScene.ticksUp : Int) : Rat) / 2000 = 3 / 500 := by
    norm_num [PlaneScene.ticksUp]
  rw [wide] at acrossApart acrossExact
  rw [tall] at upApart upExact
  refine ⟨_, _, ⟨across, acrossMade, rfl⟩, ⟨up, upMade, rfl⟩, ?_, ?_, acrossApart, acrossExact,
    upApart, upExact⟩
  · intro graphs settings canvas scene axes ticks made
    exact PlaneScene.labels_of_build made (Bool.and_eq_true_iff.mpr ⟨axes, ticks⟩)
      (Bool.and_eq_true_iff.mpr ⟨originAcross, originUp⟩) acrossMade upMade
  · intro tick _
    exact read_tick_label tick

/-- In the standard view every label is exact. -/
theorem standard_labels_exact :
    ∃ xs ys : List Rat,
      (PlaneScene.build [] (⟨⟨-10, 10⟩, ⟨-10, 10⟩⟩ : Viewport Rat).sanitized {}
        ⟨800, 800⟩).toOption.map (fun scene => scene.labels.map Label.text) =
          some (xs.map tickLabel ++ ys.map tickLabel) ∧
      ReadOff xs ∧ TellApart xs ∧ ReadOff ys ∧ TellApart ys := by
  obtain ⟨xs, ys, _, _, labels, _, xApart, xExact, yApart, yExact⟩ :=
    labels_tell_ticks_apart_iff ⟨⟨-10, 10⟩, ⟨-10, 10⟩⟩ (by decide +kernel) (by decide +kernel)
  have drawn : ∃ scene, PlaneScene.build [] (⟨⟨-10, 10⟩, ⟨-10, 10⟩⟩ : Viewport Rat).sanitized {}
      (⟨800, 800⟩ : Canvas Rat) = .ok scene := by
    refine PlaneScene.build_rat ?_ ?_ {} (by norm_num) (by norm_num)
    · exact Interval.least_shown _
    · exact Interval.least_shown _
  obtain ⟨scene, made⟩ := drawn
  refine ⟨xs, ys, ?_, xExact.mpr ?_, xApart.mpr ?_, yExact.mpr ?_, yApart.mpr ?_⟩
  · rw [made]
    exact congrArg some (labels [] {} ⟨800, 800⟩ scene rfl rfl made)
  all_goals decide +kernel

/-- On the shortest axis the first two labels after the origin say zero. -/
theorem shortest_labels_alike :
    (PlaneScene.build [] (⟨⟨0, 1 / 500⟩, ⟨0, 20⟩⟩ : Viewport Rat).sanitized {}
        ⟨800, 800⟩).toOption.map (fun scene => scene.labels.map Label.text) =
      some (["0", "0", "0.001", "0.001", "0.001", "0.001", "0.001", "0.002", "0.002", "0.002"] ++
        ["2", "4", "6", "8", "10", "12", "14", "16", "18", "20"]) := by
  decide +kernel

end FormulaPlot
