import FormulaPlot.Proofs.Tikz.Formulas
import FormulaPlot.Tikz.PlaneDocument

/-!
The lines of plane documents. All of them are single lines by themselves, but for those that quote
what was entered.
-/

namespace FormulaPlot.Tikz

set_option autoImplicit false

variable {α : Type} [DecimalScale α]

theorem line_style_one_line (appearance : Appearance) : Gives OneLine (lineStyle appearance) := by
  unfold lineStyle
  apply (fixed_number_one_line 2 appearance.lineWidth).bind
  intro width plainWidth
  apply (color_one_line appearance.color).bind
  intro color plainColor
  apply gives_pure
  have dashes := one_line_if appearance.dashed
    (one_line_of_characters (by decide) : OneLine ", dash pattern=on 5pt off 3pt")
    (one_line_of_characters (by decide) : OneLine "")
  simp only [one_line_append, plainWidth, plainColor, dashes, and_true]
  and_intros <;> exact one_line_of_characters (by decide)

/-- Options, expressions and reasons of a plot are single lines. -/
def Plot.IsPlain : Plot α → Prop
  | .skipped => True
  | .formula style _ _ expression => OneLine style ∧ OneLine expression
  | .coordinates style reason _ => OneLine style ∧ OneLine reason

/-- Whether a comment quotes what was entered. Only a plotted formula goes without one. -/
def Plot.quotes : Plot α → Bool
  | .formula .. => false
  | _ => true

theorem plot_plain {graph : Graph α} (plain : graph.formula.IsPlain) (viewport : Viewport α) :
    Gives Plot.IsPlain (plot graph viewport) := by
  unfold plot
  split
  · apply (line_style_one_line graph.appearance).bind
    intro style plainStyle
    apply (gives_anything _).bind
    intro trace _
    exact gives_pure ⟨plainStyle, one_line_of_characters (by decide)⟩
  · split
    · exact gives_ok trivial
    · apply (line_style_one_line graph.appearance).bind
      intro style plainStyle
      have converted := plain.1
      split
      · next expression same =>
          rw [same] at converted
          apply (gives_anything _).bind
          intro samples _
          exact gives_pure ⟨plainStyle, converted⟩
      · next fault same =>
          rw [same] at converted
          apply (gives_anything _).bind
          intro trace _
          exact gives_pure ⟨plainStyle, converted⟩

theorem coordinates_one_line (points : List (Point α)) : Gives OneLine (coordinates points) := by
  unfold coordinates
  apply (gives_anything _).bind
  intro kept _
  apply (gives_all fun point _ => pair_one_line point.x point.y).bind
  intro texts each
  exact gives_pure (one_line_intercalate (one_line_of_characters (by decide)) each)

theorem coordinate_plot_one_line {style : String} (plain : OneLine style)
    (points : List (Point α)) : Gives OneLine (coordinatePlot style points) := by
  unfold coordinatePlot
  apply (coordinates_one_line points).bind
  intro text plainText
  apply gives_pure
  simp only [one_line_append, plain, one_line_braced_iff, plainText, and_true]
  and_intros <;> exact one_line_of_characters (by decide)

theorem one_line_skipped_iff (raw : String) : OneLine (skippedLine raw) ↔ OneLine raw := by
  have start : OneLine "% Skipped " := one_line_of_characters (by decide)
  have rest : OneLine ": domain is outside viewport." := one_line_of_characters (by decide)
  unfold skippedLine
  simp only [one_line_append, start, rest, true_and, and_true]

/-- The lines of a plot are single lines, unless they quote a text that is not one. -/
theorem plot_lines_iff (raw : String) {plot : Plot α} (plain : plot.IsPlain) :
    Gives (fun lines => EachOneLine lines ↔ (plot.quotes = true → OneLine raw))
      (plotLines raw plot) := by
  unfold plotLines
  split
  · apply gives_ok
    simp [one_line_skipped_iff, Plot.quotes]
  · next style domain samples expression =>
      apply (number_one_line domain.lo).bind
      intro lo plainLo
      apply (number_one_line domain.hi).bind
      intro hi plainHi
      apply gives_pure
      apply iff_of_true
      · simp only [each_one_line_cons, each_one_line_nil, one_line_append, one_line_natural,
          one_line_braced_iff, plain.1, plain.2, plainLo, plainHi, and_true]
        and_intros <;> exact one_line_of_characters (by decide)
      · intro quoted
        contradiction
  · next style reason trace =>
      apply (gives_all fun points _ => coordinate_plot_one_line plain.1 points).bind
      intro plots each
      apply gives_pure
      have plots : EachOneLine plots := each
      have start : OneLine "% " := one_line_of_characters (by decide)
      have middle : OneLine " exported as coordinates (" := one_line_of_characters (by decide)
      have last : OneLine ")." := one_line_of_characters (by decide)
      simp only [each_one_line_cons, one_line_append, start, middle, plain.2, last, plots, true_and,
        and_true, Plot.quotes, true_imp_iff]

/-- Whether a comment of the document quotes what was entered for a graph. -/
def IsQuoted (graph : Graph α) (viewport : Viewport α) : Prop :=
  ∃ shown, plot graph viewport = .ok shown ∧ shown.quotes = true

theorem is_quoted_iff {graph : Graph α} {viewport : Viewport α} {shown : Plot α}
    (plotted : plot graph viewport = .ok shown) :
    IsQuoted graph viewport ↔ shown.quotes = true := by
  constructor
  · rintro ⟨other, again, quoted⟩
    rw [plotted] at again
    injection again with same
    rwa [same]
  · exact fun quoted => ⟨shown, plotted, quoted⟩

/-- How a graph is plotted, with the lines that plot it. -/
theorem plotted_lines_iff {graph : Graph α} (plain : graph.formula.IsPlain)
    (viewport : Viewport α) :
    Gives (fun result : List String × Plot α =>
        EachOneLine result.1 ↔ (IsQuoted graph viewport → OneLine graph.raw))
      (do
        let plot ← plot graph viewport
        let lines ← plotLines graph.raw plot
        return (lines, plot)) := by
  apply (plot_plain plain viewport).as_result.bind
  rintro shown ⟨plotted, plainShown⟩
  apply (plot_lines_iff graph.raw plainShown).bind
  intro lines quoted
  apply gives_pure
  rwa [is_quoted_iff plotted]

theorem graph_lines_iff {graph : Graph α} (plain : graph.formula.IsPlain)
    (viewport : Viewport α) :
    Gives (fun lines => EachOneLine lines ↔ (IsQuoted graph viewport → OneLine graph.raw))
      (graphLines graph viewport) := by
  unfold graphLines
  apply (plot_plain plain viewport).as_result.bind
  rintro shown ⟨plotted, plainShown⟩
  rw [is_quoted_iff plotted]
  exact plot_lines_iff graph.raw plainShown

/-! Frames -/

theorem whenever_one_line {lines : Except ExportFault (List String)} (wanted : Bool)
    (plain : Gives EachOneLine lines) : Gives EachOneLine (whenever wanted lines) := by
  unfold whenever
  split
  · exact plain
  · exact gives_ok each_one_line_nil

theorem grid_one_line (viewport : Viewport α) : Gives EachOneLine (gridLines viewport) := by
  unfold gridLines
  apply (gives_anything _).bind
  intro stepX _
  apply (gives_anything _).bind
  intro stepY _
  apply (number_one_line stepX.size).bind
  intro textX plainX
  apply (number_one_line stepY.size).bind
  intro textY plainY
  apply (pair_one_line viewport.x.lo viewport.y.lo).bind
  intro first plainFirst
  apply (pair_one_line viewport.x.hi viewport.y.hi).bind
  intro second plainSecond
  apply gives_pure
  simp only [each_one_line_cons, each_one_line_nil, one_line_append, plainX, plainY, plainFirst,
    plainSecond, and_true]
  and_intros <;> exact one_line_of_characters (by decide)

theorem horizontal_axis_one_line (viewport : Viewport α) :
    Gives OneLine (horizontalAxis viewport) := by
  apply numbers_one_line viewport.x.lo viewport.x.hi
  intro lo hi plainLo plainHi
  simp only [one_line_append, one_line_braced_iff, plainLo, plainHi, and_true]
  and_intros <;> exact one_line_of_characters (by decide)

theorem vertical_axis_one_line (viewport : Viewport α) :
    Gives OneLine (verticalAxis viewport) := by
  apply numbers_one_line viewport.y.lo viewport.y.hi
  intro lo hi plainLo plainHi
  simp only [one_line_append, one_line_braced_iff, plainLo, plainHi, and_true]
  and_intros <;> exact one_line_of_characters (by decide)

theorem one_line_tick {first second side text : String} (plainFirst : OneLine first)
    (plainSecond : OneLine second) (plainSide : OneLine side) (plainText : OneLine text) :
    OneLine (tickLine first second side text) := by
  have label : OneLine ("\\tiny " ++ text) :=
    one_line_append.mpr ⟨one_line_of_characters (by decide), plainText⟩
  unfold tickLine
  simp only [one_line_append, plainFirst, plainSecond, plainSide, one_line_braced_iff, label,
    and_true]
  and_intros <;> exact one_line_of_characters (by decide)

theorem tick_one_line (first second : α × α) (value : α) {side : String}
    (plainSide : OneLine side) :
    Gives OneLine (do
      let first ← pair first.1 first.2
      let second ← pair second.1 second.2
      let text ← number value
      return tickLine first second side text) := by
  apply (pair_one_line first.1 first.2).bind
  intro first plainFirst
  apply (pair_one_line second.1 second.2).bind
  intro second plainSecond
  apply (number_one_line value).bind
  intro text plainText
  exact gives_pure (one_line_tick plainFirst plainSecond plainSide plainText)

theorem horizontal_tick_one_line (half x : α) : Gives OneLine (horizontalTick half x) :=
  tick_one_line (x, -half) (x, half) x (one_line_of_characters (by decide))

theorem vertical_tick_one_line (half y : α) : Gives OneLine (verticalTick half y) :=
  tick_one_line (-half, y) (half, y) y (one_line_of_characters (by decide))

theorem ticks_one_line (viewport : Viewport α) : Gives EachOneLine (tickLines viewport) := by
  unfold tickLines
  apply (gives_anything _).bind
  intro xs _
  apply (gives_all fun x _ => horizontal_tick_one_line _ x).bind
  intro across plainAcross
  apply (gives_anything _).bind
  intro ys _
  apply (gives_all fun y _ => vertical_tick_one_line _ y).bind
  intro up plainUp
  exact gives_pure (each_one_line_append.mpr ⟨plainAcross, plainUp⟩)

theorem grid_and_axes_one_line (viewport : Viewport α) (settings : PlaneSettings) :
    Gives EachOneLine (gridAndAxes viewport settings) := by
  have single : ∀ {line : Exported}, Gives OneLine line → Gives EachOneLine (line.map ([·])) :=
    fun plain => plain.map fun _ plainLine => List.forall_mem_singleton.mpr plainLine
  unfold gridAndAxes
  apply (whenever_one_line _ (grid_one_line viewport)).bind
  intro grid plainGrid
  apply (whenever_one_line _ (single (horizontal_axis_one_line viewport))).bind
  intro across plainAcross
  apply (whenever_one_line _ (single (vertical_axis_one_line viewport))).bind
  intro up plainUp
  apply (whenever_one_line _ (ticks_one_line viewport)).bind
  intro ticks plainTicks
  apply gives_pure
  simp only [each_one_line_append, plainGrid, plainAcross, plainUp, plainTicks, and_true]

theorem border_one_line (viewport : Viewport α) :
    Gives EachOneLine (frameAndWatermark viewport) := by
  unfold frameAndWatermark
  dsimp only
  apply (pair_one_line _ _).bind
  intro first plainFirst
  apply (pair_one_line _ _).bind
  intro second plainSecond
  apply (pair_one_line _ _).bind
  intro corner plainCorner
  apply gives_pure
  simp only [each_one_line_cons, each_one_line_nil, one_line_append, one_line_braced_iff,
    plainFirst, plainSecond, plainCorner, and_true]
  and_intros <;> exact one_line_of_characters (by decide)

theorem header_one_line (viewport : Viewport α) : Gives EachOneLine (header viewport) := by
  unfold header
  apply (pair_one_line viewport.x.lo viewport.y.lo).bind
  intro first plainFirst
  apply (pair_one_line viewport.x.hi viewport.y.hi).bind
  intro second plainSecond
  apply gives_pure
  simp only [each_one_line_cons, each_one_line_nil, one_line_append, plainFirst, plainSecond,
    and_true]
  and_intros <;> exact one_line_of_characters (by decide)

theorem each_one_line_flatten {parts : List (List String)} :
    EachOneLine parts.flatten ↔ ∀ part ∈ parts, EachOneLine part := by
  unfold EachOneLine
  simp only [List.mem_flatten]
  exact ⟨fun all part member line inside => all line ⟨part, member, inside⟩,
    fun all line ⟨part, member, inside⟩ => all part member line inside⟩

/-- The lines of all entries, when it is known of each when its lines are single lines. -/
theorem entries_iff {item shown : Type} {items : List item} {results : List (List String × shown)}
    {holds : item → Prop}
    (each : List.Forall₂ (fun item (result : List String × shown) =>
      EachOneLine result.1 ↔ holds item) items results) :
    EachOneLine (results.map Prod.fst).flatten ↔ ∀ item ∈ items, holds item := by
  rw [each_one_line_flatten, List.forall_mem_map]
  exact forall_mem_iff_of_forall₂ each

theorem plane_document_iff {graphs : List (Graph α)}
    (plain : ∀ graph ∈ graphs, graph.formula.IsPlain) (viewport : Viewport α)
    (settings : PlaneSettings) :
    Gives (fun document => document.lines ≠ [] ∧ (EachOneLine document.lines ↔
        ∀ graph ∈ graphs, IsQuoted graph viewport → OneLine graph.raw))
      (planeDocument graphs viewport settings) := by
  unfold planeDocument
  apply (header_one_line viewport).bind
  intro header plainHeader
  have bodyLines : Gives (fun body : List String × List (Plot α) => EachOneLine body.1 ↔
      ∀ graph ∈ graphs, IsQuoted graph viewport → OneLine graph.raw)
      (body graphs viewport settings) := by
    unfold body
    apply (grid_and_axes_one_line viewport settings).bind
    intro frame plainFrame
    apply (gives_each fun graph member => plotted_lines_iff (plain graph member) viewport).bind
    intro entries each
    apply (border_one_line viewport).bind
    intro border plainBorder
    apply gives_pure
    rw [each_one_line_append, each_one_line_append, entries_iff each]
    simp only [plainFrame, plainBorder, true_and, and_true]
  apply bodyLines.bind
  intro body quoted
  apply gives_pure
  have plainFooter : EachOneLine footer :=
    List.forall_mem_singleton.mpr (one_line_of_characters (by decide))
  refine ⟨by simp [footer], ?_⟩
  simp only [each_one_line_append, plainHeader, plainFooter, quoted, true_and, and_true]

end FormulaPlot.Tikz
