import FormulaPlot.Proofs.Decimal.Reading
import FormulaPlot.Proofs.Formula.Outcome
import FormulaPlot.Proofs.Plane.FiniteIntervals
import FormulaPlot.Proofs.Tikz.PlaneLines

/-!
Bounds in exported documents. A printed number is read back as the nearest one with four decimals,
or with three digits where it is written with a power of ten. This keeps the order of two bounds,
but not their distance: bounds that are closer than their last printed places may be written alike.
-/

namespace FormulaPlot

open FormulaPlot.Binary64 FormulaPlot.Decimal

set_option autoImplicit false

namespace Tikz

/-- The decimals that a magnitude is written with; three digits have two after the first one. -/
def decimals (magnitude : Rat) : Int :=
  if isPlain magnitude then 4 else 2 - leadingExponent magnitude

/-- The number that is written for another one. -/
def written (value : Rat) : Rat :=
  withSign (decide (value < 0)) (rounded (decimals |value|) |value|)

/-- What the last printed digit of a number stands for. -/
def lastPlace (value : Rat) : Rat := 10 ^ (-decimals |value|)

theorem plain_iff {magnitude : Rat} :
    isPlain magnitude = true ↔ magnitude = 0 ∨ 1 / 1000 ≤ magnitude ∧ magnitude < 10000 := by
  simp only [isPlain, Bool.or_eq_true, beq_iff_eq, Bool.and_eq_true, decide_eq_true_iff]
  rfl

theorem decimals_of_plain {magnitude : Rat} (plain : isPlain magnitude = true) :
    decimals magnitude = 4 := if_pos plain

theorem decimals_of_not_plain {magnitude : Rat} (other : ¬isPlain magnitude = true) :
    decimals magnitude = 2 - leadingExponent magnitude := if_neg other

theorem rounded_zero (places : Int) : rounded places 0 = 0 := by
  have nearest := units_nearest le_rfl places
  rw [zero_mul] at nearest
  have none : units 0 places = 0 := Nat.le_zero.mp (nearest.mono (.self 0) Nat.cast_zero.symm.le)
  rw [rounded_eq, none, Nat.cast_zero, zero_mul]

theorem pos_of_not_plain {magnitude : Rat} (least : 0 ≤ magnitude)
    (other : ¬isPlain magnitude = true) : 0 < magnitude :=
  lt_of_le_of_ne least fun zero => other (plain_iff.mpr (.inl zero.symm))

/-- What is too small for four decimals is below the third one. -/
theorem short_of_not_plain {magnitude : Rat} (other : ¬isPlain magnitude = true)
    (small : magnitude < 10000) : magnitude < 10 ^ (-3 : Int) := by
  by_contra long
  have reached : (1 : Rat) / 1000 ≤ magnitude := by
    have above := not_lt.mp long
    norm_num at above ⊢
    exact above
  exact other (plain_iff.mpr (.inr ⟨reached, small⟩))

theorem long_of_not_plain {magnitude : Rat} (other : ¬isPlain magnitude = true)
    (large : 1 / 1000 ≤ magnitude) : 10 ^ (4 : Int) ≤ magnitude := by
  have reached : 10000 ≤ magnitude := by
    by_contra short
    exact other (plain_iff.mpr (.inr ⟨large, not_le.mp short⟩))
  norm_num [reached]

theorem exponent_lt {magnitude : Rat} {power : Int} (positive : 0 < magnitude)
    (less : magnitude < 10 ^ power) : leadingExponent magnitude < power :=
  (zpow_lt_zpow_iff_right₀ (by decide : (1 : Rat) < 10)).mp
    ((leading_exponent_spec positive).1.trans_lt less)

theorem exponent_ge {magnitude : Rat} {power : Int} (positive : 0 < magnitude)
    (more : 10 ^ power ≤ magnitude) : power ≤ leadingExponent magnitude := by
  have below := (zpow_lt_zpow_iff_right₀ (by decide : (1 : Rat) < 10)).mp
    (more.trans_lt (leading_exponent_spec positive).2)
  omega

/-- The notations follow one another in the order of magnitude. -/
theorem rounded_in_order {magnitude greater : Rat} (least : 0 ≤ magnitude)
    (order : magnitude ≤ greater) :
    rounded (decimals magnitude) magnitude ≤ rounded (decimals greater) greater := by
  rcases least.eq_or_lt with zero | positive
  · rw [← zero, rounded_zero]
    exact rounded_nonneg _ _
  have larger : 0 < greater := positive.trans_le order
  have lower := leading_exponent_spec positive
  have upper := leading_exponent_spec larger
  -- two notations meet at a power of ten, which both of them write exactly
  by_cases here : isPlain magnitude = true
  · rw [decimals_of_plain here]
    by_cases there : isPlain greater = true
    · rw [decimals_of_plain there]
      exact rounded_mono least order
    · rw [decimals_of_not_plain there]
      rcases plain_iff.mp here with zero | ⟨small, large⟩
      · exact absurd zero positive.ne'
      · have power := exponent_ge larger (long_of_not_plain there (small.trans order))
        apply rounded_across least _ upper.1 (by omega) (by omega)
        calc magnitude
            ≤ 10 ^ (4 : Int) := by norm_num [large.le]
          _ ≤ 10 ^ leadingExponent greater := zpow_le_zpow_right₀ (by decide) power
  · rw [decimals_of_not_plain here]
    by_cases there : isPlain greater = true
    · rw [decimals_of_plain there]
      rcases plain_iff.mp there with zero | ⟨small, large⟩
      · exact absurd zero larger.ne'
      · have short := short_of_not_plain here (order.trans_lt large)
        have power := exponent_lt positive short
        have reached : (10 : Rat) ^ (-3 : Int) ≤ greater := by
          norm_num at small ⊢
          exact small
        exact rounded_across least short.le reached (by omega) (by decide)
    · rw [decimals_of_not_plain there]
      have power := exponent_ge larger (lower.1.trans order)
      rcases power.eq_or_lt with same | less
      · rw [same]
        exact rounded_mono least order
      · apply rounded_across least _ upper.1 (by omega) (by omega)
        exact lower.2.le.trans (zpow_le_zpow_right₀ (by decide) less)

/-! Signs -/

theorem written_of_nonneg {value : Rat} (least : 0 ≤ value) :
    written value = rounded (decimals value) value := by
  rw [written, decide_eq_false (not_lt.mpr least), abs_of_nonneg least]
  rfl

theorem written_of_neg {value : Rat} (negative : value < 0) :
    written value = -rounded (decimals (-value)) (-value) := by
  rw [written, decide_eq_true negative, abs_of_neg negative]
  rfl

/-- Writing keeps the order of numbers. -/
theorem written_mono {value other : Rat} (order : value ≤ other) :
    written value ≤ written other := by
  rcases lt_or_ge value 0 with negative | least
  · rw [written_of_neg negative]
    rcases lt_or_ge other 0 with also | above
    · rw [written_of_neg also]
      exact neg_le_neg (rounded_in_order (neg_pos.mpr also).le (neg_le_neg order))
    · rw [written_of_nonneg above]
      exact (neg_nonpos.mpr (rounded_nonneg _ _)).trans (rounded_nonneg _ _)
  · rw [written_of_nonneg least, written_of_nonneg (least.trans order)]
    exact rounded_in_order least order

/-- What is written is half of the last place away at most. -/
theorem written_error (value : Rat) : |written value - value| ≤ lastPlace value / 2 := by
  rcases lt_or_ge value 0 with negative | least
  · have opposite : written value - value =
        -value - rounded (decimals (-value)) (-value) := by
      rw [written_of_neg negative]
      ring
    rw [opposite, abs_sub_comm, lastPlace, abs_of_neg negative]
    exact rounded_error (neg_pos.mpr negative).le
  · rw [written_of_nonneg least, lastPlace, abs_of_nonneg least]
    exact rounded_error least

/-- Numbers that are farther apart than their last places are written apart. -/
theorem written_lt {value other : Rat}
    (apart : (lastPlace value + lastPlace other) / 2 < other - value) :
    written value < written other := by
  have one := (abs_le.mp (written_error value)).2
  have two := (abs_le.mp (written_error other)).1
  linarith

/-- Below ten thousand the last place is the fourth decimal, or a smaller one. -/
theorem last_place_le {value : Rat} (small : |value| < 10000) : lastPlace value ≤ 1 / 10000 := by
  have four : (1 : Rat) / 10000 = 10 ^ (-4 : Int) := by norm_num
  rw [lastPlace, four]
  apply zpow_le_zpow_right₀ (by decide)
  by_cases plain : isPlain |value| = true
  · rw [decimals_of_plain plain]
  · have positive := pos_of_not_plain (abs_nonneg value) plain
    have power := exponent_lt positive (short_of_not_plain plain small)
    rw [decimals_of_not_plain plain]
    omega

/-! Texts -/

theorem written_of_sign {negative : Bool} {magnitude : Rat} (least : 0 ≤ magnitude) :
    written (withSign negative magnitude) =
      withSign negative (rounded (decimals magnitude) magnitude) := by
  cases negative with
  | false => exact written_of_nonneg least
  | true =>
      show written (-magnitude) = -rounded (decimals magnitude) magnitude
      rcases least.eq_or_lt with zero | positive
      · rw [← zero, neg_zero, written_of_nonneg le_rfl, rounded_zero, neg_zero]
      · rw [written_of_neg (neg_lt_zero.mpr positive), neg_neg]

/-- A number that is read as a finite one is printed, and its text is read back as what is written
for it. -/
theorem number_of_read {α : Type} [Scalar α] {value : α} {negative : Bool} {magnitude : Rat}
    (read : Scalar.read value = .finite negative magnitude) (least : 0 ≤ magnitude) :
    ∃ text, number value = .ok text ∧
      readBack? text = some (written (withSign negative magnitude)) := by
  rw [number, read, numberText, written_of_sign least]
  refine ⟨_, rfl, ?_⟩
  by_cases plain : isPlain magnitude = true
  · rw [if_pos plain, decimals_of_plain plain]
    exact read_fixed_trimmed (by decide) negative magnitude
  · rw [if_neg plain, decimals_of_not_plain plain]
    exact read_three_digits (pos_of_not_plain least plain) negative

theorem number_reads_back {value : Float} (finite : value.isFinite = true) :
    ∃ text, number value = .ok text ∧ readBack? text = some (written (toRat value)) := by
  obtain ⟨negative, magnitude, read, least, worth⟩ := read_eq finite
  have same : toRat value = withSign negative magnitude := (to_rat_eq finite).trans worth
  rw [same]
  exact number_of_read read least

/-- Two texts that are read back as numbers in increasing order. -/
def Increasing (lower upper : String) : Prop :=
  ∃ lo ∈ readBack? lower, ∃ hi ∈ readBack? upper, lo < hi

theorem not_increasing_self (text : String) : ¬Increasing text text := by
  rintro ⟨lo, first, hi, second, less⟩
  rw [Option.mem_unique first second] at less
  exact absurd less (lt_irrefl hi)

/-- Texts for the ends of an interval. They are read back as what is written for the ends, never in
the wrong order, and in increasing order wherever the ends are farther apart than the mean of what
their last printed digits stand for. -/
structure Prints (interval : Interval Float) (lower upper : String) : Prop where
  lo : readBack? lower = some (written (toRat interval.lo))
  hi : readBack? upper = some (written (toRat interval.hi))
  order : written (toRat interval.lo) ≤ written (toRat interval.hi)
  apart : (lastPlace (toRat interval.lo) + lastPlace (toRat interval.hi)) / 2 <
    toRat interval.hi - toRat interval.lo → Increasing lower upper

theorem prints_of_finite {interval : Interval Float} (finite : interval.IsFinite)
    (order : toRat interval.lo ≤ toRat interval.hi) :
    ∃ lower upper, number interval.lo = .ok lower ∧ number interval.hi = .ok upper ∧
      Prints interval lower upper := by
  obtain ⟨lower, lo, below⟩ := number_reads_back finite.lo
  obtain ⟨upper, hi, above⟩ := number_reads_back finite.hi
  exact ⟨lower, upper, lo, hi, below, above, written_mono order,
    fun apart => ⟨_, below, _, above, written_lt apart⟩⟩

/-- Increasing order, wherever both ends of an interval are less than ten thousand in size. -/
def IncreasingIfPlain (interval : Interval Float) (lower upper : String) : Prop :=
  |toRat interval.lo| < 10000 → |toRat interval.hi| < 10000 → Increasing lower upper

/-- The axis of a viewport is longer than the last places of numbers below ten thousand. -/
theorem prints_of_modest {interval : Interval Float} (modest : interval.IsModest) :
    ∃ lower upper, number interval.sanitized.lo = .ok lower ∧
      number interval.sanitized.hi = .ok upper ∧ Prints interval.sanitized lower upper ∧
      IncreasingIfPlain interval.sanitized lower upper := by
  obtain ⟨finite, spread⟩ := Interval.sanitized_spread modest
  obtain ⟨lower, upper, lo, hi, prints⟩ := prints_of_finite finite (by linarith)
  refine ⟨lower, upper, lo, hi, prints, ?_⟩
  intro small large
  apply prints.apart
  have one := last_place_le small
  have two := last_place_le large
  linarith

/-! Documents -/

/-- The last line of a header. -/
def clipLine (left bottom right top : String) : String :=
  "\\clip " ++ ("(" ++ left ++ "," ++ bottom ++ ")") ++ " rectangle " ++
    ("(" ++ right ++ "," ++ top ++ ")") ++ ";"

/-- The lines of a curve that is plotted by its formula. -/
def curveLines (style lo hi : String) (samples : Nat) (expression : String) : List String :=
  ["\\draw[" ++ style ++ ", domain=" ++ lo ++ ":" ++ hi ++ ", samples=" ++ toString samples ++
      ", smooth, variable=\\x]",
    "  plot (" ++ braced "\\x" ++ "," ++ braced expression ++ ");"]

theorem pair_eq {x y : Float} {first second : String} (one : number x = .ok first)
    (other : number y = .ok second) : pair x y = .ok ("(" ++ first ++ "," ++ second ++ ")") := by
  rw [pair, one, other]
  rfl

/-- A header ends with the clipping rectangle. -/
theorem header_ends (viewport : Viewport Float) {left bottom right top : String}
    (least : number viewport.x.lo = .ok left) (lowest : number viewport.y.lo = .ok bottom)
    (greatest : number viewport.x.hi = .ok right) (highest : number viewport.y.hi = .ok top) :
    ∃ lines, header viewport = .ok lines ∧
      lines.getLast? = some (clipLine left bottom right top) := by
  rw [header, pair_eq least lowest, pair_eq greatest highest]
  exact ⟨_, rfl, rfl⟩

/-- A curve that is plotted by its formula is visible between the ends of its domain. -/
theorem domain_of_formula {graph : Graph Float} {viewport : Viewport Float}
    {style expression : String} {domain : Interval Float} {samples : Nat}
    (plotted : plot graph viewport = .ok (.formula style domain samples expression)) :
    graph.domain.visible? viewport.x = some domain := by
  unfold plot at plotted
  split at plotted
  · obtain ⟨style, _, plotted⟩ := bind_eq_ok_iff.mp plotted
    obtain ⟨trace, _, plotted⟩ := bind_eq_ok_iff.mp plotted
    injection plotted with plotted
    contradiction
  · split at plotted
    · injection plotted with plotted
      contradiction
    · next shown =>
        obtain ⟨style, _, plotted⟩ := bind_eq_ok_iff.mp plotted
        split at plotted
        · obtain ⟨count, _, plotted⟩ := bind_eq_ok_iff.mp plotted
          injection plotted with plotted
          injection plotted with _ same
          rw [← same]
          exact shown
        · obtain ⟨trace, _, plotted⟩ := bind_eq_ok_iff.mp plotted
          injection plotted with plotted
          contradiction

theorem formula_of_unquoted {α : Type} {shown : Plot α} (unquoted : shown.quotes = false) :
    ∃ style domain samples expression, shown = .formula style domain samples expression := by
  cases shown with
  | skipped => contradiction
  | formula style domain samples expression => exact ⟨style, domain, samples, expression, rfl⟩
  | coordinates => contradiction

/-- In the viewport of any bounds up to a thousand million, the clipping rectangle is printed with
its bounds in their order, properly so on axes below ten thousand, and so is the domain of every
curve that is plotted by its formula. -/
theorem printed_bounds_keep_order (bounds : Viewport Float) (across : bounds.x.IsModest)
    (up : bounds.y.IsModest) :
    (∃ lines left bottom right top, header bounds.sanitized = .ok lines ∧
      lines.getLast? = some (clipLine left bottom right top) ∧
      Prints bounds.sanitized.x left right ∧ Prints bounds.sanitized.y bottom top ∧
      IncreasingIfPlain bounds.sanitized.x left right ∧
      IncreasingIfPlain bounds.sanitized.y bottom top) ∧
    ∀ graph style domain samples expression,
      plot graph bounds.sanitized = .ok (.formula style domain samples expression) →
      ∃ lo hi, Prints domain lo hi ∧
        graphLines graph bounds.sanitized = .ok (curveLines style lo hi samples expression) := by
  constructor
  · obtain ⟨left, right, least, greatest, printsX, increasingX⟩ := prints_of_modest across
    obtain ⟨bottom, top, lowest, highest, printsY, increasingY⟩ := prints_of_modest up
    obtain ⟨lines, written, last⟩ :=
      header_ends bounds.sanitized least lowest greatest highest
    exact ⟨lines, left, bottom, right, top, written, last, printsX, printsY, increasingX,
      increasingY⟩
  · intro graph style domain samples expression plotted
    have seen : bounds.sanitized.x.IsFinite := (Interval.sanitized_spread across).1
    have shown : Domain.visible? graph.domain.lo graph.domain.hi bounds.sanitized.x =
        some domain := domain_of_formula plotted
    obtain ⟨finite, less⟩ := Domain.visible_finite seen shown
    obtain ⟨lo, hi, first, second, prints⟩ := prints_of_finite finite less.le
    refine ⟨lo, hi, prints, ?_⟩
    rw [graphLines, plotted]
    show plotLines graph.raw (.formula style domain samples expression) = _
    rw [plotLines, first, second]
    rfl

def lineWithin (domain : DomainText) : CurveEntry := { name := "expr-1", raw := "x", domain }

/-- The standard viewport, before it is sanitized. -/
def usual : Viewport Float := ⟨⟨-10.0, 10.0⟩, ⟨-10.0, 10.0⟩⟩

theorem usual_is_modest : usual.x.IsModest ∧ usual.y.IsModest := by
  have sizes : |toRat (-10.0)| ≤ 1000000000 ∧ |toRat 10.0| ≤ 1000000000 := by decide +kernel
  exact ⟨⟨⟨rfl, rfl⟩, sizes.1, sizes.2⟩, ⟨⟨rfl, rfl⟩, sizes.1, sizes.2⟩⟩

theorem usual_bounds_keep_order :
    (usual.x.IsModest ∧ usual.y.IsModest) ∧
      (∃ lines left bottom right top, header usual.sanitized = .ok lines ∧
        lines.getLast? = some (clipLine left bottom right top) ∧
        Increasing left right ∧ Increasing bottom top) ∧
      ∃ graph style domain samples expression lo hi,
        (lineWithin ⟨"-1", "1"⟩).prepare.graph? = some graph ∧
        plot graph usual.sanitized = .ok (.formula style domain samples expression) ∧
        Prints domain lo hi := by
  obtain ⟨across, up⟩ := usual_is_modest
  obtain ⟨headed, drawn⟩ := printed_bounds_keep_order usual across up
  refine ⟨⟨across, up⟩, ?_, ?_⟩
  · obtain ⟨lines, left, bottom, right, top, written, last, _, _, leftRight, bottomTop⟩ := headed
    have plain : (|toRat usual.sanitized.x.lo| < 10000 ∧ |toRat usual.sanitized.x.hi| < 10000) ∧
        |toRat usual.sanitized.y.lo| < 10000 ∧ |toRat usual.sanitized.y.hi| < 10000 := by
      decide +kernel
    exact ⟨lines, left, bottom, right, top, written, last, leftRight plain.1.1 plain.1.2,
      bottomTop plain.2.1 plain.2.2⟩
  · have computed : (lineWithin ⟨"-1", "1"⟩).prepare.graph?.bind (fun graph =>
        (plot graph usual.sanitized).toOption.map Plot.quotes) = some false := by decide +kernel
    obtain ⟨graph, made, plotted⟩ := Option.bind_eq_some_iff.mp computed
    obtain ⟨shown, plotted, unquoted⟩ := Option.map_eq_some_iff.mp plotted
    obtain ⟨style, domain, samples, expression, rfl⟩ := formula_of_unquoted unquoted
    obtain ⟨lo, hi, prints, _⟩ :=
      drawn graph style domain samples expression (ok_of_some plotted)
    exact ⟨graph, style, domain, samples, expression, lo, hi, made, ok_of_some plotted, prints⟩

/-- Ten units behind a million. -/
def distant : Viewport Float := ⟨⟨1000000.0, 1000010.0⟩, ⟨0.0, 10.0⟩⟩

/-- Close bounds are printed alike, be it in three digits or in four decimals. -/
theorem close_bounds_printed_alike :
    (distant.x.IsModest ∧ distant.y.IsModest ∧
      (∃ lines, header distant.sanitized = .ok lines ∧
        lines.getLast? = some (clipLine "1.00e+6" "0" "1.00e+6" "10")) ∧
      ¬Increasing "1.00e+6" "1.00e+6") ∧
    usual.x.IsModest ∧ usual.y.IsModest ∧
      (∃ graph, (lineWithin ⟨"2", "2.00001"⟩).prepare.graph? = some graph ∧
        graphLines graph usual.sanitized = .ok
          (curveLines "line width=2.50pt, draw=\x7brgb,255:red,15;green,118;blue,110\x7d" "2" "2"
            500 "\\x")) ∧
      ¬Increasing "2" "2" := by
  have sizes : (|toRat distant.x.lo| ≤ 1000000000 ∧ |toRat distant.x.hi| ≤ 1000000000) ∧
      |toRat distant.y.lo| ≤ 1000000000 ∧ |toRat distant.y.hi| ≤ 1000000000 := by
    decide +kernel
  have clipped : (header distant.sanitized).toOption.bind List.getLast? =
      some (clipLine "1.00e+6" "0" "1.00e+6" "10") := by decide +kernel
  have drawn : (lineWithin ⟨"2", "2.00001"⟩).prepare.graph?.bind
      (fun graph => (graphLines graph usual.sanitized).toOption) =
        some (curveLines "line width=2.50pt, draw=\x7brgb,255:red,15;green,118;blue,110\x7d" "2"
          "2" 500 "\\x") := by decide +kernel
  obtain ⟨lines, written, last⟩ := Option.bind_eq_some_iff.mp clipped
  obtain ⟨graph, made, exported⟩ := Option.bind_eq_some_iff.mp drawn
  exact ⟨⟨⟨⟨rfl, rfl⟩, sizes.1.1, sizes.1.2⟩, ⟨⟨rfl, rfl⟩, sizes.2.1, sizes.2.2⟩,
      ⟨lines, ok_of_some written, last⟩, not_increasing_self "1.00e+6"⟩,
    usual_is_modest.1, usual_is_modest.2, ⟨graph, made, ok_of_some exported⟩,
    not_increasing_self "2"⟩

end Tikz

end FormulaPlot
