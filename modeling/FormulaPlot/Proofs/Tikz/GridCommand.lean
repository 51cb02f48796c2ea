import FormulaPlot.Proofs.Scene.TickLabels
import FormulaPlot.Proofs.Tikz.PrintedNumbers

/-!
The grid of an exported document, without rounding. The document asks for it in one command, with
one step for both directions: that of the horizontal axis. The heading above it names the steps of
both axes, and the picture has grid lines at multiples of both. What the command draws is therefore
what the picture shows exactly when the two steps are the same.
-/

namespace FormulaPlot

open FormulaPlot.Decimal FormulaPlot.Scalar FormulaPlot.Text

set_option autoImplicit false

/-! Common multiples -/

namespace Decimal

variable {unit value other : Rat}

theorem IsMultiple.self (value : Rat) : IsMultiple value value := ⟨1, by rw [Int.cast_one, one_mul]⟩

theorem IsMultiple.sub (on : IsMultiple unit value) (also : IsMultiple unit other) :
    IsMultiple unit (value - other) := by
  obtain ⟨count, rfl⟩ := on
  obtain ⟨less, rfl⟩ := also
  exact ⟨count - less, by rw [Int.cast_sub, sub_mul]⟩

theorem IsMultiple.le (positive : 0 < unit) (above : 0 < value) (on : IsMultiple unit value) :
    unit ≤ value := by
  have zero : IsMultiple unit 0 := ⟨0, by rw [Int.cast_zero, zero_mul]⟩
  have apart := zero.apart positive on above
  rwa [zero_add] at apart

/-- An interval that is long enough has two multiples in a row. -/
theorem exists_row {size lo hi : Rat} (positive : 0 < size) (long : 2 * size ≤ hi - lo) :
    ∃ value, IsMultiple size value ∧ lo ≤ value ∧ value + size ≤ hi := by
  refine ⟨⌈lo / size⌉ * size, .mul_right _, ?_, ?_⟩
  · rw [← div_le_iff₀ positive]
    exact Int.le_ceil _
  · have below : (⌈lo / size⌉ : Rat) < lo / size + 1 := Int.ceil_lt_add_one _
    have scaled : (⌈lo / size⌉ : Rat) * size < (lo / size + 1) * size := by gcongr
    have whole : (lo / size + 1) * size = lo + size := by
      rw [add_mul, div_mul_cancel₀ _ positive.ne', one_mul]
    linarith

/-- A size whose multiples in a long interval are all on a grid is on it itself. -/
theorem IsMultiple.of_inside {size lo hi : Rat} (positive : 0 < size) (long : 2 * size ≤ hi - lo)
    (on : ∀ value, IsMultiple size value → lo ≤ value → value ≤ hi → IsMultiple unit value) :
    IsMultiple unit size := by
  obtain ⟨value, first, above, below⟩ := exists_row positive long
  have second : IsMultiple size (value + size) := by
    have difference := first.sub (IsMultiple.self size).neg
    rwa [sub_neg_eq_add] at difference
  have gap := (on _ second (by linarith) below).sub (on _ first above (by linarith))
  rwa [add_sub_cancel_left] at gap

end Decimal

namespace Tikz

/-! Printed steps -/

/-- Nice numbers have few digits, so that they are written as they are. -/
theorem written_of_nice {size : Rat} (nice : Step.IsNice size) : written size = size := by
  have positive := nice.positive
  rw [written_of_nonneg positive.le]
  apply rounded_self positive.le
  by_cases plain : isPlain size = true
  · rw [decimals_of_plain plain]
    apply nice.multiple_of_power
    rcases plain_iff.mp plain with zero | ⟨least, _⟩
    · exact absurd zero positive.ne'
    · norm_num
      linarith
  · rw [decimals_of_not_plain plain, neg_sub]
    have decade := nice.multiple_of_power (leading_exponent_spec positive).1
    exact (multiple_power (by omega)).trans decade

theorem number_rat (value : Rat) :
    ∃ text, number value = .ok text ∧ readBack? text = some (written value) := by
  have read : Scalar.read value = .finite (decide (value < 0)) |value| := by
    rw [← abs_rat]
    rfl
  have whole : withSign (decide (value < 0)) |value| = value := by
    rcases lt_or_ge value 0 with negative | least
    · rw [decide_eq_true negative, abs_of_neg negative]
      exact neg_neg value
    · rw [decide_eq_false (not_lt.mpr least), abs_of_nonneg least]
      rfl
  obtain ⟨text, printed, same⟩ := number_of_read read (abs_nonneg value)
  rw [whole] at same
  exact ⟨text, printed, same⟩

/-! The command and its heading -/

/-- A grid command asks for lines at all multiples of one number, across and up: that of its first
option, which ends at a comma. -/
def AsksFor (command : String) (step : Rat) : Prop :=
  ∃ text rest, command = "\\draw[step=" ++ text ++ "," ++ rest ∧ ',' ∉ text.toList ∧
    Denotes text step

/-- A heading names the steps of both axes. -/
def Announces (heading : String) (across up : Rat) : Prop :=
  ∃ first second, heading = "% Grid (" ++ first ++ " x " ++ second ++ ")" ∧
    ' ' ∉ first.toList ∧ ')' ∉ second.toList ∧ Denotes first across ∧ Denotes second up

theorem front_unique {mark : Char} {first second rest tail : List Char}
    (plain : mark ∉ first) (bare : mark ∉ second)
    (same : first ++ mark :: rest = second ++ mark :: tail) : first = second := by
  have front {characters : List Char} (rest : List Char) (plain : mark ∉ characters) :
      (characters ++ mark :: rest).takeWhile (· ≠ mark) = characters := by
    rw [List.takeWhile_append_of_pos]
    · simp
    · intro character member
      simpa using ne_of_mem_of_not_mem member plain
  rw [← front rest plain, same, front tail bare]

theorem AsksFor.iff {command : String} {step : Rat} (asks : AsksFor command step) (other : Rat) :
    AsksFor command other ↔ other = step := by
  constructor
  · rintro ⟨text, rest, same, plain, denotes⟩
    obtain ⟨another, tail, rfl, bare, also⟩ := asks
    have characters := congrArg String.toList same
    simp only [String.toList_append, List.append_assoc, List.append_cancel_left_eq] at characters
    have alike := front_unique bare plain characters
    rw [String.toList_inj] at alike
    rw [alike] at also
    exact denotes.unique also
  · rintro rfl
    exact asks

/-- The characters between two numbers are in neither. -/
theorem printed_plain {text : String} {value : Rat} (read : readBack? text = some value)
    {mark : Char} (other : ¬IsNumeral mark) : mark ∉ text.toList :=
  fun member => other (numeral_of_read_back read mark member)

theorem not_numeral_of_separator {mark : Char} (separates : mark = ' ' ∨ mark = ',' ∨ mark = ')') :
    ¬IsNumeral mark := by
  rintro (digit | sign)
  · have none : decimalValue? mark = none := by rcases separates with rfl | rfl | rfl <;> decide
    rw [none] at digit
    contradiction
  · rcases separates with rfl | rfl | rfl <;> exact absurd sign (by decide)

section Lines

variable {viewport : Viewport Rat}

theorem pair_rat (x y : Rat) : ∃ text, pair x y = .ok text := by
  obtain ⟨first, one, -⟩ := number_rat x
  obtain ⟨second, other, -⟩ := number_rat y
  exact ⟨_, by rw [pair, one, other]; rfl⟩

/-- The grid takes two lines: the heading has both steps, the command that of the horizontal
axis. -/
theorem grid_lines_rat {across up : Step Rat}
    (acrossMade : Step.nice viewport.x.span ticksAcross = .ok across)
    (upMade : Step.nice viewport.y.span ticksUp = .ok up)
    (acrossNice : Step.IsNice across.size) (upNice : Step.IsNice up.size) :
    ∃ heading command, gridLines viewport = .ok [heading, command] ∧
      Announces heading across.size up.size ∧ AsksFor command across.size := by
  obtain ⟨textX, printedX, readX⟩ := number_rat across.size
  obtain ⟨textY, printedY, readY⟩ := number_rat up.size
  rw [written_of_nice acrossNice] at readX
  rw [written_of_nice upNice] at readY
  obtain ⟨first, one⟩ := pair_rat viewport.x.lo viewport.y.lo
  obtain ⟨second, other⟩ := pair_rat viewport.x.hi viewport.y.hi
  have comma := printed_plain readX (not_numeral_of_separator (.inr (.inl rfl)))
  have blank := printed_plain readX (not_numeral_of_separator (.inl rfl))
  have bracket := printed_plain readY (not_numeral_of_separator (.inr (.inr rfl)))
  have denotesX := denotes_of_read_back readX
  have announces : Announces ("% Grid (" ++ textX ++ " x " ++ textY ++ ")") across.size up.size :=
    ⟨textX, textY, rfl, blank, bracket, denotesX, denotes_of_read_back readY⟩
  have asks : AsksFor ("\\draw[step=" ++ textX ++ ", gray!25, very thin] " ++ first ++ " grid " ++
      second ++ ";") across.size := by
    refine ⟨textX, " gray!25, very thin] " ++ first ++ " grid " ++ second ++ ";", ?_, comma,
      denotesX⟩
    have option : ", gray!25, very thin] " = "," ++ " gray!25, very thin] " := rfl
    simp only [option, String.append_assoc]
  refine ⟨_, _, ?_, announces, asks⟩
  rw [gridLines, acrossMade, upMade]
  simp only [ExportFault.lift, Except.mapError, bind, Except.bind, printedX, printedY, one, other]
  rfl

theorem whenever_made (wanted : Bool) {lines : Except ExportFault (List String)}
    (made : ∃ texts, lines = .ok texts) : ∃ texts, whenever wanted lines = .ok texts := by
  unfold whenever
  split
  · exact made
  · exact ⟨[], rfl⟩

theorem mapM_made {item : Type} {print : item → Exported}
    (made : ∀ one, ∃ text, print one = .ok text) (items : List item) :
    ∃ texts, items.mapM print = .ok texts := by
  have each : ∀ one ∈ items, ∃ text, print one = .ok text ∧ True :=
    fun one _ => (made one).imp fun _ printed => ⟨printed, trivial⟩
  obtain ⟨texts, printed, _⟩ := each_made each
  exact ⟨texts, printed⟩

theorem tick_lines_made {xs ys : List Rat} (across : viewport.x.ticks ticksAcross = .ok xs)
    (up : viewport.y.ticks ticksUp = .ok ys) : ∃ texts, tickLines viewport = .ok texts := by
  have horizontal (half x : Rat) : ∃ text, horizontalTick half x = .ok text := by
    obtain ⟨first, one⟩ := pair_rat x (-half)
    obtain ⟨second, other⟩ := pair_rat x half
    obtain ⟨text, printed, -⟩ := number_rat x
    exact ⟨_, by rw [horizontalTick, one, other, printed]; rfl⟩
  have vertical (half y : Rat) : ∃ text, verticalTick half y = .ok text := by
    obtain ⟨first, one⟩ := pair_rat (-half) y
    obtain ⟨second, other⟩ := pair_rat half y
    obtain ⟨text, printed, -⟩ := number_rat y
    exact ⟨_, by rw [verticalTick, one, other, printed]; rfl⟩
  rw [tickLines, across, up]
  generalize minimum viewport.x.span viewport.y.span * 0.008 = half
  obtain ⟨below, printed⟩ := mapM_made (horizontal half) (xs.filter awayFromOrigin)
  obtain ⟨beside, also⟩ := mapM_made (vertical half) (ys.filter awayFromOrigin)
  refine ⟨below ++ beside, ?_⟩
  simp only [ExportFault.lift, Except.mapError, bind, Except.bind, printed, also]
  rfl

/-- Behind the grid come the axes and the ticks, without faults. -/
theorem grid_comes_first {xs ys : List Rat} (across : viewport.x.ticks ticksAcross = .ok xs)
    (up : viewport.y.ticks ticksUp = .ok ys) {lines : List String}
    (grid : gridLines viewport = .ok lines) (axes ticks : Bool) :
    ∃ others, gridAndAxes viewport ⟨true, axes, ticks⟩ = .ok (lines ++ others) := by
  have horizontal : ∃ texts, (horizontalAxis viewport).map ([·]) = .ok texts := by
    obtain ⟨lo, low, -⟩ := number_rat viewport.x.lo
    obtain ⟨hi, high, -⟩ := number_rat viewport.x.hi
    exact ⟨_, by rw [horizontalAxis, low, high]; rfl⟩
  have vertical : ∃ texts, (verticalAxis viewport).map ([·]) = .ok texts := by
    obtain ⟨lo, low, -⟩ := number_rat viewport.y.lo
    obtain ⟨hi, high, -⟩ := number_rat viewport.y.hi
    exact ⟨_, by rw [verticalAxis, low, high]; rfl⟩
  obtain ⟨first, one⟩ := whenever_made (axes && viewport.y.contains zero) horizontal
  obtain ⟨second, other⟩ := whenever_made (axes && viewport.x.contains zero) vertical
  obtain ⟨third, last⟩ := whenever_made
    (axes && ticks && viewport.x.contains zero && viewport.y.contains zero)
    (tick_lines_made across up)
  have wanted : whenever true (gridLines viewport) = .ok lines := grid
  refine ⟨first ++ second ++ third, ?_⟩
  rw [gridAndAxes]
  simp only [wanted, one, other, last, bind, Except.bind, List.append_assoc]
  rfl

end Lines

/-! Lines in view -/

/-- A command draws a line, across and up, at each multiple of the step that it asks for. -/
def DrawsAt (command : String) (place : Rat) : Prop :=
  ∃ step, AsksFor command step ∧ IsMultiple step place

theorem AsksFor.draws_iff {command : String} {step : Rat} (asks : AsksFor command step)
    (place : Rat) : DrawsAt command place ↔ IsMultiple step place := by
  constructor
  · rintro ⟨other, also, on⟩
    rwa [(asks.iff other).mp also] at on
  · exact fun on => ⟨step, asks, on⟩

/-- Within an interval there are lines at these places and nowhere else. -/
def ShowsLines (interval : Interval Rat) (places : List Rat) (lines : Rat → Prop) : Prop :=
  ∀ place, interval.lo ≤ place → place ≤ interval.hi → (place ∈ places ↔ lines place)

theorem shows_multiples (interval : Interval Rat) {size : Rat} (positive : 0 < size) :
    ShowsLines interval (Step.multiples size interval.lo (interval.hi + size / 2))
      (IsMultiple size) := by
  intro place above below
  rw [(Step.lists_multiples positive).mem_iff, and_iff_left ⟨above, by linarith⟩]

/-- Lines at the multiples of one size are those at the multiples of another one only if the sizes
are the same, in an interval that is long enough for two of them. -/
theorem ShowsLines.multiples_iff {interval : Interval Rat} {places : List Rat} {size other : Rat}
    (positive : 0 < size) (also : 0 < other) (long : 2 * size ≤ interval.span)
    (shows : ShowsLines interval places (IsMultiple size)) :
    ShowsLines interval places (IsMultiple other) ↔ other = size := by
  have length : interval.span = interval.hi - interval.lo := rfl
  rw [length] at long
  constructor
  · intro both
    have same (place : Rat) (above : interval.lo ≤ place) (below : place ≤ interval.hi) :
        IsMultiple size place ↔ IsMultiple other place :=
      (shows place above below).symm.trans (both place above below)
    have finer : IsMultiple other size := .of_inside positive long fun place on above below =>
      (same place above below).mp on
    have less := finer.le also positive
    have coarser : IsMultiple size other :=
      .of_inside also (by linarith) fun place on above below => (same place above below).mpr on
    exact le_antisymm less (coarser.le positive also)
  · rintro rfl
    exact shows

/-- The heading names the steps of both axes, and the picture has its grid lines at their multiples.
The command draws lines at the multiples of the horizontal axis's step in both directions. So its
horizontal lines are at multiples of the vertical axis's step exactly when the one step is a
multiple of the other, and are those of the picture exactly when the steps are the same. -/
theorem exported_grid_drawn_iff (bounds : Viewport Rat) (axes ticks : Bool) :
    ∃ (across up : Step Rat) (xs ys : List Rat) (heading command : String) (others : List String),
      Step.nice bounds.sanitized.x.span PlaneScene.ticksAcross = .ok across ∧
      Step.nice bounds.sanitized.y.span PlaneScene.ticksUp = .ok up ∧
      PlaneScene.grid bounds.sanitized =
        .ok (xs.map (PlaneScene.verticalGridLine bounds.sanitized) ++
          ys.map (PlaneScene.horizontalGridLine bounds.sanitized)) ∧
      ShowsLines bounds.sanitized.x xs (IsMultiple across.size) ∧
      ShowsLines bounds.sanitized.y ys (IsMultiple up.size) ∧
      gridAndAxes bounds.sanitized ⟨true, axes, ticks⟩ = .ok (heading :: command :: others) ∧
      Announces heading across.size up.size ∧
      (∀ place, DrawsAt command place ↔ IsMultiple across.size place) ∧
      ((∀ y, DrawsAt command y → IsMultiple up.size y) ↔ IsMultiple up.size across.size) ∧
      (ShowsLines bounds.sanitized.y ys (DrawsAt command) ↔ across.size = up.size) := by
  have wide : 1 / 1000 ≤ bounds.sanitized.x.span := bounds.x.least_shown
  have tall : 1 / 1000 ≤ bounds.sanitized.y.span := bounds.y.least_shown
  obtain ⟨across, acrossMade, acrossBest, xs⟩ :=
    PlaneScene.axis_ticks wide (by decide : 0 < PlaneScene.ticksAcross) (by decide)
  obtain ⟨up, upMade, upBest, ys⟩ :=
    PlaneScene.axis_ticks tall (by decide : 0 < PlaneScene.ticksUp) (by decide)
  obtain ⟨heading, command, lines, announces, asks⟩ :=
    grid_lines_rat acrossMade upMade acrossBest.1.1 upBest.1.1
  obtain ⟨others, printed⟩ := grid_comes_first xs ys lines axes ticks
  have positive := acrossBest.1.1.positive
  have above := upBest.1.1.positive
  have shows := shows_multiples bounds.sanitized.y above
  have steps : 24 / 5 * up.size < bounds.sanitized.y.span :=
    Step.steps_of_axis upBest (by linarith) (by decide)
  have drawn : DrawsAt command = IsMultiple across.size := funext fun place =>
    propext (asks.draws_iff place)
  refine ⟨across, up, _, _, heading, command, others, acrossMade, upMade, ?_,
    shows_multiples _ positive, shows, printed, announces, asks.draws_iff, ?_, ?_⟩
  · rw [PlaneScene.grid, xs, ys]
    rfl
  · rw [drawn]
    exact ⟨fun within => within _ (.self _), fun on place => on.trans⟩
  · rw [drawn]
    exact shows.multiples_iff above positive (by linarith)

/-- In the square from 0 to 15 the steps are one and two, so that the command draws a horizontal
line at 1, where the picture has none. -/
theorem exported_grid_differs :
    (gridAndAxes (⟨⟨0, 15⟩, ⟨0, 15⟩⟩ : Viewport Rat).sanitized ⟨true, false, false⟩).toOption =
        some ["% Grid (1 x 2)", "\\draw[step=1, gray!25, very thin] (0,0) grid (15,15);"] ∧
      DrawsAt "\\draw[step=1, gray!25, very thin] (0,0) grid (15,15);" 1 ∧
      ((⟨0, 15⟩ : Interval Rat).sanitized.ticks PlaneScene.ticksUp).toOption =
        some [0, 2, 4, 6, 8, 10, 12, 14, 16] ∧
      ¬IsMultiple 2 1 := by
  refine ⟨by decide +kernel, ?_, by decide +kernel, ?_⟩
  · have one : Denotes "1" 1 := denotes_of_read_back (by decide +kernel)
    exact ⟨1, ⟨"1", " gray!25, very thin] (0,0) grid (15,15);", rfl, by decide, one⟩, .self 1⟩
  · rintro ⟨count, same⟩
    have whole : 1 = count * 2 := by exact_mod_cast same
    omega

end Tikz

end FormulaPlot
