import FormulaPlot.Proofs.Equation.Sides
import FormulaPlot.Proofs.Tikz.SpaceLines

/-!
Entered texts in the comments of documents. Each comment is one line exactly when the text that it
quotes is. Texts with line ends can be drawn, so that a comment can go on in lines of its own.
-/

namespace FormulaPlot

open FormulaPlot.Equation

set_option autoImplicit false

/-- What is drawn of an entry is what was entered, as a formula that is written in one line. -/
theorem plain_of_graph {entry : CurveEntry} {graph : Graph Float}
    (drawn : entry.prepare.graph? = some graph) :
    graph.raw = entry.raw ∧ graph.formula.IsPlain := by
  unfold PreparedCurve.graph? at drawn
  split at drawn
  · next whole _ isReady =>
      injection drawn with same
      rw [← same]
      obtain ⟨mode, text, _, made⟩ := source_of_ready isReady
      exact ⟨rfl, plain_of_evaluator made⟩
  · contradiction

theorem plain_of_surface {entry : SurfaceEntry} {graph : SurfaceGraph Float}
    (drawn : entry.prepare.graph? = some graph) :
    graph.raw = entry.raw ∧ graph.formula.IsPlain := by
  unfold PreparedSurface.graph? at drawn
  split at drawn
  · next whole _ isReady =>
      injection drawn with same
      rw [← same]
      exact ⟨rfl, plain_of_evaluator (surface_of_ready isReady)⟩
  · contradiction

namespace Tikz

/-- Between two marks there is no other one. -/
theorem not_mem_of_mem_split_on {mark : Char} {part characters : List Char}
    (member : part ∈ characters.splitOn mark) : mark ∉ part := by
  induction characters generalizing part with
  | nil =>
      rw [List.splitOn_nil, List.mem_singleton] at member
      rw [member]
      exact List.not_mem_nil
  | cons character rest induction =>
      rw [List.splitOn_cons_eq_if_modifyHead] at member
      split at member
      · rcases List.mem_cons.mp member with rfl | behind
        · exact List.not_mem_nil
        · exact induction behind
      · next other =>
          cases parts : rest.splitOn mark with
          | nil => exact absurd parts (List.splitOn_ne_nil mark rest)
          | cons first others =>
              rw [parts, List.modifyHead_cons] at member
              rcases List.mem_cons.mp member with rfl | behind
              · rw [List.mem_cons, not_or]
                have apart : mark ≠ character := fun same => other (beq_iff_eq.mpr same.symm)
                exact ⟨apart, induction (by simp [parts])⟩
              · exact induction (by simp [parts, behind])

/-- The lines of a document's text are those of the document exactly when none of them ends
within. -/
theorem lines_of_text_iff {shown : Type} (document : Document shown)
    (present : document.lines ≠ []) :
    document.text.toList.splitOn '\n' = document.lines.map String.toList ↔
      EachOneLine document.lines := by
  have parted : document.text.toList = ['\n'].intercalate (document.lines.map String.toList) := by
    unfold Document.text
    rw [String.toList_intercalate]
    rfl
  constructor
  · intro same line member
    apply not_mem_of_mem_split_on
    rw [same]
    exact List.mem_map_of_mem member
  · intro each
    rw [parted]
    apply List.splitOn_intercalate
    · rw [List.forall_mem_map]
      exact each
    · simpa using present

/-- What is drawn of entries. -/
def drawnCurves (entries : List CurveEntry) : List (Graph Float) :=
  (entries.map CurveEntry.prepare).filterMap PreparedCurve.graph?

def drawnSurfaces (entries : List SurfaceEntry) : List (SurfaceGraph Float) :=
  (entries.map SurfaceEntry.prepare).filterMap PreparedSurface.graph?

theorem plain_of_drawn {entries : List CurveEntry} :
    ∀ graph ∈ drawnCurves entries, graph.formula.IsPlain := by
  intro graph member
  obtain ⟨prepared, among, drawn⟩ := List.mem_filterMap.mp member
  obtain ⟨entry, _, rfl⟩ := List.mem_map.mp among
  exact (plain_of_graph drawn).2

theorem plain_of_drawn_surface {entries : List SurfaceEntry} :
    ∀ surface ∈ drawnSurfaces entries, surface.formula.IsPlain := by
  intro surface member
  obtain ⟨prepared, among, drawn⟩ := List.mem_filterMap.mp member
  obtain ⟨entry, _, rfl⟩ := List.mem_map.mp among
  exact (plain_of_surface drawn).2

/-- Comments stay in their lines exactly when the entered texts that they quote are single lines.
The lines of a written document are its own then. -/
theorem comments_keep_to_lines_iff (viewport : Viewport Float) (space : Viewport3D Float) :
    (∀ (entry : CurveEntry) graph lines,
      entry.prepare.graph? = some graph → graphLines graph viewport = .ok lines →
        (EachOneLine lines ↔ (IsQuoted graph viewport → OneLine entry.raw))) ∧
    (∀ (entry : SurfaceEntry) surface lines,
      entry.prepare.graph? = some surface → surfaceLines surface space = .ok lines →
        (EachOneLine lines ↔ OneLine entry.raw)) ∧
    (∀ entries settings document,
      planeDocument (drawnCurves entries) viewport settings = .ok document →
        (document.text.toList.splitOn '\n' = document.lines.map String.toList ↔
          ∀ graph ∈ drawnCurves entries, IsQuoted graph viewport → OneLine graph.raw)) ∧
    (∀ entries settings document,
      spaceDocument (drawnSurfaces entries) space settings = .ok document →
        (document.text.toList.splitOn '\n' = document.lines.map String.toList ↔
          ∀ surface ∈ drawnSurfaces entries, OneLine surface.raw)) := by
  refine ⟨?_, ?_, ?_, ?_⟩
  · intro entry graph lines drawn exported
    obtain ⟨same, plain⟩ := plain_of_graph drawn
    rw [← same]
    exact (graph_lines_iff plain viewport).of_ok lines exported
  · intro entry surface lines drawn exported
    obtain ⟨same, plain⟩ := plain_of_surface drawn
    rw [← same]
    exact (surface_lines_iff plain space).of_ok lines exported
  · intro entries settings document exported
    obtain ⟨present, quoted⟩ :=
      (plane_document_iff plain_of_drawn viewport settings).of_ok document exported
    rw [lines_of_text_iff document present, quoted]
  · intro entries settings document exported
    obtain ⟨present, quoted⟩ :=
      (space_document_iff plain_of_drawn_surface space settings).of_ok document exported
    rw [lines_of_text_iff document present, quoted]

/-- Domains beyond the standard viewport. -/
def farAway : DomainText := ⟨"20", "30"⟩

def farLine (raw : String) : CurveEntry := { name := "expr-1", raw, domain := farAway }

def farPlane (raw : String) : SurfaceEntry := { name := "expr-1", raw, domainX := farAway }

theorem skipped_comments_keep_to_lines :
    (∃ graph, (farLine "x").prepare.graph? = some graph ∧
      graphLines graph .standard = .ok ["% Skipped x: domain is outside viewport."] ∧
      EachOneLine ["% Skipped x: domain is outside viewport."]) ∧
    (∃ surface, (farPlane "x").prepare.graph? = some surface ∧
      surfaceLines surface .standard = .ok ["% Skipped x: domain is outside viewport."] ∧
      EachOneLine ["% Skipped x: domain is outside viewport."]) ∧
    (∃ document, planeDocument (drawnCurves [farLine "x"]) .standard ⟨false, false, false⟩ =
        .ok document ∧
      document.text.toList.splitOn '\n' = document.lines.map String.toList) ∧
    ∃ document, spaceDocument (drawnSurfaces [farPlane "x"]) .standard {} = .ok document ∧
      document.text.toList.splitOn '\n' = document.lines.map String.toList := by
  have plain : OneLine "x" := by decide
  have curve : (farLine "x").prepare.graph?.bind
      (fun graph => (graphLines graph .standard).toOption) =
        some ["% Skipped x: domain is outside viewport."] := by decide +kernel
  have surface : (farPlane "x").prepare.graph?.bind
      (fun surface => (surfaceLines surface .standard).toOption) =
        some ["% Skipped x: domain is outside viewport."] := by decide +kernel
  have plane : (planeDocument (drawnCurves [farLine "x"]) .standard
      ⟨false, false, false⟩).toOption.isSome = true := by decide +kernel
  have space : (spaceDocument (drawnSurfaces [farPlane "x"]) .standard {}).toOption.isSome =
      true := by decide +kernel
  have rawCurves : ∀ graph ∈ drawnCurves [farLine "x"], OneLine graph.raw := by decide +kernel
  have rawSurfaces : ∀ surface ∈ drawnSurfaces [farPlane "x"], OneLine surface.raw := by
    decide +kernel
  obtain ⟨curves, surfaces, planes, spaces⟩ := comments_keep_to_lines_iff .standard .standard
  refine ⟨?_, ?_, ?_, ?_⟩
  · obtain ⟨graph, drawn, exported⟩ := Option.bind_eq_some_iff.mp curve
    have lines := ok_of_some exported
    exact ⟨graph, drawn, lines,
      (curves _ graph _ drawn lines).mpr fun _ => plain⟩
  · obtain ⟨graph, drawn, exported⟩ := Option.bind_eq_some_iff.mp surface
    have lines := ok_of_some exported
    exact ⟨graph, drawn, lines,
      (surfaces _ graph _ drawn lines).mpr plain⟩
  · obtain ⟨document, exported⟩ := Option.isSome_iff_exists.mp plane
    have written := ok_of_some exported
    exact ⟨document, written,
      (planes _ _ document written).mpr
        fun graph member _ => rawCurves graph member⟩
  · obtain ⟨document, exported⟩ := Option.isSome_iff_exists.mp space
    have written := ok_of_some exported
    exact ⟨document, written,
      (spaces _ _ document written).mpr rawSurfaces⟩

/-- A line end behind an entered text is not read, but quoted. -/
theorem skipped_comment_broken :
    ∃ graph, (farLine "x\n").prepare.graph? = some graph ∧
      graphLines graph .standard = .ok ["% Skipped x\n: domain is outside viewport."] ∧
      ¬EachOneLine ["% Skipped x\n: domain is outside viewport."] := by
  have computed : (farLine "x\n").prepare.graph?.bind
      (fun graph => (graphLines graph .standard).toOption) =
        some ["% Skipped x\n: domain is outside viewport."] := by decide +kernel
  obtain ⟨graph, drawn, exported⟩ := Option.bind_eq_some_iff.mp computed
  exact ⟨graph, drawn, ok_of_some exported, by decide⟩

end Tikz

end FormulaPlot
