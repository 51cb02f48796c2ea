import FormulaPlot.Proofs.Tikz.PlaneLines
import FormulaPlot.Tikz.SpaceDocument

/-!
The lines of documents with surfaces. Every surface quotes what was entered; nothing else can end a
line.
-/

namespace FormulaPlot.Tikz

set_option autoImplicit false

variable {α : Type} [DecimalScale α]

def SurfacePlot.IsPlain : SurfacePlot α → Prop
  | .skipped => True
  | .formula _ _ _ expression => OneLine expression
  | .table _ reason _ => OneLine reason

theorem surface_plot_plain {surface : SurfaceGraph α} (plain : surface.formula.IsPlain)
    (viewport : Viewport3D α) : Gives SurfacePlot.IsPlain (surfacePlot surface viewport) := by
  unfold surfacePlot
  split
  · exact gives_ok trivial
  · apply (gives_anything _).bind
    intro color _
    have converted := plain.2
    split
    · next expression same =>
        rw [same] at converted
        exact gives_pure converted
    · next fault same =>
        rw [same] at converted
        apply (gives_anything _).bind
        intro mesh _
        exact gives_pure converted

theorem domain_text_one_line (domain : Interval α) : Gives OneLine (domainText domain) := by
  apply numbers_one_line domain.lo domain.hi
  intro lo hi plainLo plainHi
  simp only [one_line_append, plainLo, plainHi, true_and, and_true]
  exact one_line_of_characters (by decide)

theorem vertex_text_one_line (vertex : α × α × Option α) : Gives OneLine (vertexText vertex) := by
  have row : ∀ {x y z : String}, OneLine x → OneLine y → OneLine z →
      OneLine (x ++ " " ++ y ++ " " ++ z) := by
    intro x y z plainX plainY plainZ
    simp only [one_line_append, plainX, plainY, plainZ, and_true, true_and]
    and_intros <;> exact one_line_of_characters (by decide)
  obtain ⟨x, y, height⟩ := vertex
  unfold vertexText
  apply (number_one_line x).bind
  intro textX plainX
  apply (number_one_line y).bind
  intro textY plainY
  cases height with
  | none => exact gives_pure (row plainX plainY (one_line_of_characters (by decide)))
  | some z =>
      apply (number_one_line z).bind
      intro textZ plainZ
      exact gives_pure (row plainX plainY plainZ)

theorem table_rows_one_line (mesh : SurfaceMesh α) : Gives EachOneLine (tableRows mesh) := by
  have rowTexts : ∀ row ∈ mesh.rows, Gives EachOneLine (row.mapM vertexText) :=
    fun row _ => gives_all fun vertex _ => vertex_text_one_line vertex
  have closing : EachOneLine [""] :=
    List.forall_mem_singleton.mpr (one_line_of_characters (by decide))
  unfold tableRows
  apply (gives_all rowTexts).bind
  intro rows each
  apply gives_pure
  rw [each_one_line_flatten, List.forall_mem_map]
  exact fun row member => each_one_line_append.mpr ⟨each row member, closing⟩

theorem one_line_options {opacity drawOpacity width : String} (color : Color) (dashed : Bool)
    (plainOpacity : OneLine opacity) (plainDraw : OneLine drawOpacity)
    (plainWidth : OneLine width) :
    OneLine (surfaceOptions opacity drawOpacity color width dashed) := by
  have dashes := one_line_if dashed (one_line_of_characters (by decide) : OneLine ", dashed")
    (one_line_of_characters (by decide) : OneLine "")
  unfold surfaceOptions
  simp only [one_line_append, plainOpacity, plainDraw, plainWidth, one_line_color, dashes, and_true]
  and_intros <;> exact one_line_of_characters (by decide)

/-- Surfaces are always quoted. -/
theorem surface_plot_lines_iff (surface : SurfaceGraph α) {plot : SurfacePlot α}
    (plain : plot.IsPlain) :
    Gives (fun lines => EachOneLine lines ↔ OneLine surface.raw)
      (surfacePlotLines surface plot) := by
  have start : OneLine "% Surface: z = " := one_line_of_characters (by decide)
  unfold surfacePlotLines
  split
  · apply gives_ok
    simp [one_line_skipped_iff]
  · next color x y expression =>
      have plainExpression : OneLine expression := plain
      apply (fixed_number_one_line 2 _).bind
      intro width plainWidth
      apply (domain_text_one_line x).bind
      intro domainX plainX
      apply (domain_text_one_line y).bind
      intro domainY plainY
      apply gives_pure
      have options := one_line_options color surface.appearance.dashed
        (one_line_of_characters (by decide) : OneLine "0.58")
        (one_line_of_characters (by decide) : OneLine "0.82") plainWidth
      have others : EachOneLine
          [surfaceOptions "0.58" "0.82" color width surface.appearance.dashed ++ ", domain=" ++
            domainX ++ ", y domain=" ++ domainY ++ ", samples=" ++ toString density ++
            ", samples y=" ++ toString density ++ "]", braced expression ++ ";"] := by
        simp only [each_one_line_cons, each_one_line_nil, one_line_append, one_line_natural,
          one_line_braced_iff, options, plainX, plainY, plainExpression, true_and, and_true]
        and_intros <;> exact one_line_of_characters (by decide)
      rw [each_one_line_cons, one_line_append]
      simp only [start, others, true_and, and_true]
  · next color reason mesh =>
      have plainReason : OneLine reason := plain
      apply (table_rows_one_line mesh).bind
      intro rows plainRows
      apply (fixed_number_one_line 2 _).bind
      intro width plainWidth
      apply gives_pure
      have options := one_line_options color surface.appearance.dashed
        (one_line_of_characters (by decide) : OneLine "0.55")
        (one_line_of_characters (by decide) : OneLine "0.8") plainWidth
      have header : EachOneLine
          [surfaceOptions "0.55" "0.8" color width surface.appearance.dashed ++ ", mesh/rows=" ++
            toString (density + 1) ++ ", mesh/cols=" ++ toString (density + 1) ++
            ", unbounded coords=jump]", "table[row sep=\\\\] \x7b"] := by
        simp only [each_one_line_cons, each_one_line_nil, one_line_append, one_line_natural,
          options, true_and, and_true]
        and_intros <;> exact one_line_of_characters (by decide)
      have table : EachOneLine (rows.map tableRow) := by
        unfold EachOneLine
        rw [List.forall_mem_map]
        intro row member
        unfold tableRow
        simp only [one_line_append, plainRows row member, and_true]
        and_intros <;> exact one_line_of_characters (by decide)
      have footer : EachOneLine ["\x7d;"] :=
        List.forall_mem_singleton.mpr (one_line_of_characters (by decide))
      have middle : OneLine " (sampled fallback: " := one_line_of_characters (by decide)
      have last : OneLine ")" := one_line_of_characters (by decide)
      rw [each_one_line_append, each_one_line_append, each_one_line_cons]
      simp only [one_line_append, start, middle, last, plainReason, header, table, footer,
        true_and, and_true]

theorem surface_lines_iff {surface : SurfaceGraph α} (plain : surface.formula.IsPlain)
    (viewport : Viewport3D α) :
    Gives (fun lines => EachOneLine lines ↔ OneLine surface.raw)
      (surfaceLines surface viewport) := by
  unfold surfaceLines
  apply (surface_plot_plain plain viewport).bind
  intro plot plainPlot
  exact surface_plot_lines_iff surface plainPlot

theorem bounds_one_line {axis : String} (plain : OneLine axis) (interval : Interval α) :
    Gives OneLine (boundsLine axis interval) := by
  apply numbers_one_line interval.lo interval.hi
  intro lo hi plainLo plainHi
  simp only [one_line_append, plain, plainLo, plainHi, and_true]
  and_intros <;> exact one_line_of_characters (by decide)

theorem space_header_one_line (viewport : Viewport3D Float) (settings : SpaceSettings) :
    Gives EachOneLine (spaceHeader viewport settings) := by
  unfold spaceHeader
  dsimp only
  apply (number_one_line _).bind
  intro azimuth plainAzimuth
  apply (number_one_line _).bind
  intro elevation plainElevation
  apply (bounds_one_line (one_line_of_characters (by decide)) viewport.x).bind
  intro x plainX
  apply (bounds_one_line (one_line_of_characters (by decide)) viewport.y).bind
  intro y plainY
  apply (bounds_one_line (one_line_of_characters (by decide)) viewport.z).bind
  intro z plainZ
  apply gives_pure
  have grid := one_line_if settings.grid (one_line_of_characters (by decide) : OneLine "both")
    (one_line_of_characters (by decide) : OneLine "none")
  have axes := one_line_if settings.axes (one_line_of_characters (by decide) : OneLine "middle")
    (one_line_of_characters (by decide) : OneLine "none")
  have box := one_line_if settings.box
    (one_line_of_characters (by decide) : OneLine ", axis line style=\x7bdraw opacity=0.5\x7d")
    (one_line_of_characters (by decide) : OneLine "")
  simp only [each_one_line_cons, each_one_line_nil, one_line_append, one_line_braced_iff,
    plainAzimuth, plainElevation, plainX, plainY, plainZ, grid, axes, box, true_and, and_true]
  and_intros <;> exact one_line_of_characters (by decide)

theorem space_document_iff {surfaces : List (SurfaceGraph Float)}
    (plain : ∀ surface ∈ surfaces, surface.formula.IsPlain) (viewport : Viewport3D Float)
    (settings : SpaceSettings) :
    Gives (fun document => document.lines ≠ [] ∧
        (EachOneLine document.lines ↔ ∀ surface ∈ surfaces, OneLine surface.raw))
      (spaceDocument surfaces viewport settings) := by
  have entryLines : ∀ surface ∈ surfaces,
      Gives (fun result : List String × SurfacePlot Float =>
          EachOneLine result.1 ↔ OneLine surface.raw)
        (do
          let plot ← surfacePlot surface viewport
          let lines ← surfacePlotLines surface plot
          return (lines, plot)) := by
    intro surface member
    apply (surface_plot_plain (plain surface member) viewport).bind
    intro plot plainPlot
    apply (surface_plot_lines_iff surface plainPlot).bind
    intro lines quoted
    exact gives_pure quoted
  have plainFooter : EachOneLine spaceFooter := by
    simp only [spaceFooter, each_one_line_cons, each_one_line_nil, and_true]
    and_intros <;> exact one_line_of_characters (by decide)
  have plainEmpty : EachOneLine emptyBody :=
    List.forall_mem_singleton.mpr (one_line_of_characters (by decide))
  unfold spaceDocument
  apply (space_header_one_line viewport settings).bind
  intro header plainHeader
  apply (gives_each entryLines).bind
  intro entries each
  apply gives_pure
  have entriesLines := entries_iff each
  refine ⟨by simp [spaceFooter], ?_⟩
  simp only [each_one_line_append, plainHeader, plainFooter, true_and, and_true]
  rw [← entriesLines]
  split
  · next none =>
      rw [List.isEmpty_iff.mp none]
      exact iff_of_true plainEmpty each_one_line_nil
  · exact Iff.rfl

end FormulaPlot.Tikz
