import FormulaPlot.Proofs.Drawing.Composition
import FormulaPlot.Proofs.Scene.Painting
import FormulaPlot.Proofs.Scene.PlaneFrames

/-!
Scenes that are built from graphs. The frame of a scene has styles of its own, which are valid, so
that a scene is valid if the graphs have colours and positive widths.
-/

namespace FormulaPlot

open FormulaPlot.Scalar

set_option autoImplicit false

structure Appearance.Valid (appearance : Appearance) : Prop where
  color : ∃ ink, Ink.ofDatum? appearance.color = some ink
  width : 0.0 < appearance.lineWidth

theorem Label.valid_of_standard {label : Label Float} (layer : label.layer = Layer.axes)
    (color : label.color = labelColor) : label.Valid := by
  refine ⟨by rw [layer]; decide, ?_⟩
  rw [color]
  exact ⟨_, rfl⟩

/-! Scenes of the plane -/

namespace PlaneScene

theorem grid_style_valid : gridStyle.Valid :=
  ⟨by decide, ⟨.hex "#d9e3ec", by decide +kernel⟩, by decide⟩

theorem axis_style_valid : axisStyle.Valid :=
  ⟨by decide, ⟨.hex "#1f2937", by decide +kernel⟩, by decide⟩

theorem tick_style_valid : tickStyle.Valid :=
  ⟨by decide, ⟨.hex "#111827", by decide +kernel⟩, by decide⟩

variable {viewport : Viewport Float} {settings : PlaneSettings} {canvas : Canvas Float}
  {scene : PlaneScene Float}

theorem grid_valid {lines : List (Polyline Float)} (made : grid viewport = .ok lines) :
    ∀ line ∈ lines, line.style.Valid := by
  intro line among
  rw [grid_styles made line among]
  exact grid_style_valid

theorem axes_valid (viewport : Viewport Float) : ∀ line ∈ axes viewport, line.style.Valid := by
  intro line among
  rw [axes_styles viewport line among]
  exact axis_style_valid

theorem ticks_valid {marks : List (Polyline Float × Label Float)}
    (made : ticks viewport canvas = .ok marks) :
    ∀ mark ∈ marks, mark.1.style.Valid ∧ mark.2.Valid := by
  intro mark among
  obtain ⟨place, rfl | rfl⟩ := ticks_cases made mark among
  · exact ⟨tick_style_valid, Label.valid_of_standard rfl rfl⟩
  · exact ⟨tick_style_valid, Label.valid_of_standard rfl rfl⟩

theorem frame_valid (made : frame viewport settings canvas = .ok scene) :
    (∀ line ∈ scene.polylines, line.style.Valid) ∧ ∀ label ∈ scene.labels, label.Valid := by
  obtain ⟨lines, marks, gridded, ticked, rfl⟩ := frame_parts made
  have gridLines : ∀ line ∈ lines, line.style.Valid := by
    split at gridded
    · exact grid_valid gridded
    · cases gridded
      exact nofun
  have tickMarks : ∀ mark ∈ marks, mark.1.style.Valid ∧ mark.2.Valid := by
    split at ticked
    · exact ticks_valid ticked
    · cases ticked
      exact nofun
  constructor
  · intro line among
    rcases List.mem_append.mp among with among | among
    · rcases List.mem_append.mp among with among | among
      · exact gridLines line among
      · split at among
        · exact axes_valid viewport line among
        · contradiction
    · obtain ⟨mark, listed, rfl⟩ := List.mem_map.mp among
      exact (tickMarks mark listed).1
  · intro label among
    obtain ⟨mark, listed, rfl⟩ := List.mem_map.mp among
    exact (tickMarks mark listed).2

theorem curves_valid {graphs : List (Graph Float)}
    (valid : ∀ graph ∈ graphs, graph.appearance.Valid) (traces : List (Trace Float)) :
    ∀ line ∈ (List.zipWith curvePolylines graphs traces).flatten, line.style.Valid := by
  intro line among
  obtain ⟨graph, listed, style⟩ := curves_styles line among
  have appearance := valid graph listed
  rw [style]
  exact ⟨(by decide : Layer.curves ∈ Layer.all), appearance.color, appearance.width⟩

/-- What is built of graphs with valid appearances can be drawn with every pen that has the layers
of scenes. -/
theorem build_valid {graphs : List (Graph Float)}
    (made : build graphs viewport settings canvas = .ok scene)
    (valid : ∀ graph ∈ graphs, graph.appearance.Valid) : (Picture.plane scene).Valid := by
  obtain ⟨framed, traces, frame, rfl⟩ := build_parts made
  obtain ⟨lines, labels⟩ := frame_valid frame
  intro primitive drawn
  rcases List.mem_append.mp drawn with drawn | drawn
  · obtain ⟨line, among, rfl⟩ := List.mem_map.mp drawn
    rcases List.mem_append.mp among with among | among
    · exact lines line among
    · exact curves_valid valid traces line among
  · obtain ⟨label, among, rfl⟩ := List.mem_map.mp drawn
    exact labels label among

end PlaneScene

/-! Scenes of space -/

namespace SpaceScene

theorem grid_style_valid : gridStyle.Valid :=
  ⟨by decide, ⟨.hex "#d6deea", by decide +kernel⟩, by decide⟩

theorem box_style_valid : boxStyle.Valid :=
  ⟨by decide, ⟨.hex "#b5c4d8", by decide +kernel⟩, by decide⟩

theorem axis_style_valid {color : String} (ink : ∃ ink, Ink.ofDatum? (.text color) = some ink) :
    (axisStyle color).Valid :=
  ⟨(by decide : Layer.axes ∈ Layer.all), ink, (by decide : (0.0 : Float) < 1.8)⟩

theorem face_alpha_within (dashed : Bool) : 0.0 ≤ faceAlpha dashed ∧ faceAlpha dashed ≤ 1.0 := by
  cases dashed <;> decide

variable {viewport : Viewport3D Float} {settings : SpaceSettings} {canvas : Canvas Float}
  {scene : SpaceScene Float}

theorem grid_valid {lines : List (Line Float)} (made : grid viewport = .ok lines) :
    ∀ line ∈ lines, line.2.Valid := by
  obtain ⟨xs, _, made⟩ := bind_eq_ok_iff.mp made
  obtain ⟨ys, _, made⟩ := bind_eq_ok_iff.mp made
  injection made with same
  intro line among
  rw [← same] at among
  rcases List.mem_append.mp among with across | along
  · obtain ⟨x, _, rfl⟩ := List.mem_map.mp across
    exact grid_style_valid
  · obtain ⟨y, _, rfl⟩ := List.mem_map.mp along
    exact grid_style_valid

theorem box_valid (viewport : Viewport3D Float) : ∀ line ∈ box viewport, line.2.Valid := by
  intro line among
  obtain ⟨edge, _, rfl⟩ := List.mem_map.mp among
  exact box_style_valid

theorem axes_valid (viewport : Viewport3D Float) : ∀ line ∈ axes viewport, line.2.Valid := by
  intro line among
  simp only [axes, List.mem_cons, List.not_mem_nil, or_false] at among
  rcases among with rfl | rfl | rfl
  · exact axis_style_valid ⟨.hex "#d94646", by decide +kernel⟩
  · exact axis_style_valid ⟨.hex "#2563eb", by decide +kernel⟩
  · exact axis_style_valid ⟨.hex "#0f766e", by decide +kernel⟩

theorem axis_labels_valid (project : Projector Float) (viewport : Viewport3D Float) :
    ∀ label ∈ axisLabels project viewport, label.Valid := by
  intro label among
  obtain ⟨⟨text, point⟩, _, shown⟩ := List.mem_filterMap.mp among
  obtain ⟨picture, _, rfl⟩ := Option.map_eq_some_iff.mp shown
  exact Label.valid_of_standard rfl rfl

variable (project : Projector Float)

theorem line_segments_valid {lines : List (Line Float)} (valid : ∀ line ∈ lines, line.2.Valid) :
    ∀ segment ∈ (lineSegments project lines).reduceOption, segment.style.Valid := by
  intro segment among
  obtain ⟨line, listed, shown⟩ := List.mem_map.mp (List.reduceOption_mem_iff.mp among)
  rw [Painter.segment_style shown]
  exact valid line listed

theorem face_valid {corners : Quad (Point3D Float)} {appearance : Appearance}
    {face : PaintedFace Float} (valid : appearance.Valid)
    (shown : Painter.face? project corners appearance.color (faceAlpha appearance.dashed) =
      some face) : face.Valid := by
  unfold Painter.face? at shown
  split at shown
  · injection shown with same
    rw [← same]
    exact ⟨valid.color, face_alpha_within appearance.dashed⟩
  · contradiction

theorem wire_style_valid {surface : SurfaceGraph Float} (valid : surface.appearance.Valid) :
    (wireStyle surface).Valid :=
  ⟨(by decide : Layer.surfaces ∈ Layer.all), valid.color, valid.width⟩

variable {sampled : List (SurfaceGraph Float × Option (SurfaceMesh Float))}

theorem surface_faces_valid (valid : ∀ pair ∈ sampled, pair.1.appearance.Valid) :
    ∀ face ∈ (sampled.flatMap (surfaceFaces project)).reduceOption, face.Valid := by
  intro face among
  obtain ⟨⟨surface, mesh?⟩, listed, here⟩ :=
    List.mem_flatMap.mp (List.reduceOption_mem_iff.mp among)
  cases mesh? with
  | none => exact absurd here List.not_mem_nil
  | some mesh =>
      obtain ⟨corners, _, shown⟩ := List.mem_map.mp here
      exact face_valid project (valid _ listed) shown

theorem surface_segments_valid (valid : ∀ pair ∈ sampled, pair.1.appearance.Valid) :
    ∀ segment ∈ (sampled.flatMap (surfaceSegments project)).reduceOption, segment.style.Valid := by
  intro segment among
  obtain ⟨⟨surface, mesh?⟩, listed, here⟩ :=
    List.mem_flatMap.mp (List.reduceOption_mem_iff.mp among)
  cases mesh? with
  | none => exact absurd here List.not_mem_nil
  | some mesh =>
      obtain ⟨edge, _, shown⟩ := List.mem_map.mp here
      rw [Painter.segment_style shown]
      exact wire_style_valid (valid _ listed)

theorem painted_valid {lines : List (Line Float)} (framed : ∀ line ∈ lines, line.2.Valid)
    (valid : ∀ pair ∈ sampled, pair.1.appearance.Valid) :
    (Picture.space (ofPainter viewport settings canvas
      (sampled.foldl addSurface (addLines (.ofProjector project) lines)))).Valid := by
  rw [add_lines_eq, add_surfaces_eq, Painter.append_append]
  intro primitive drawn
  rcases List.mem_append.mp drawn with drawn | drawn
  · rcases List.mem_append.mp drawn with drawn | drawn
    · obtain ⟨face, among, rfl⟩ := List.mem_map.mp drawn
      refine surface_faces_valid project valid face ?_
      simpa [ofPainter, Painter.orderedFaces, Painter.append, Painter.ofProjector] using among
    · obtain ⟨segment, among, rfl⟩ := List.mem_map.mp drawn
      have listed : segment ∈ (lineSegments project lines).reduceOption ∨
          segment ∈ (sampled.flatMap (surfaceSegments project)).reduceOption := by
        simpa [ofPainter, Painter.orderedSegments, Painter.append, Painter.ofProjector] using among
      rcases listed with line | surface
      · exact line_segments_valid project framed segment line
      · exact surface_segments_valid project valid segment surface
  · obtain ⟨turned, among, rfl⟩ := List.mem_map.mp drawn
    obtain ⟨label, standing, rfl⟩ := List.mem_map.mp among
    dsimp only [ofPainter] at standing
    split at standing
    · have valid := axis_labels_valid _ viewport label standing
      exact ⟨valid.layer, valid.color⟩
    · contradiction

theorem build_valid {surfaces : List (SurfaceGraph Float)}
    (made : build surfaces viewport settings canvas = .ok scene)
    (valid : ∀ surface ∈ surfaces, surface.appearance.Valid) : (Picture.space scene).Valid := by
  obtain ⟨⟨_, meshes⟩, traced, rfl⟩ := map_eq_ok_iff.mp made
  obtain ⟨_, _, traced⟩ := bind_eq_ok_iff.mp traced
  obtain ⟨projector, _, traced⟩ := bind_eq_ok_iff.mp traced
  have traced := (map_error_eq_ok_iff _ _ _).mp traced
  obtain ⟨lines, gridded, traced⟩ := choice_eq_ok traced
  obtain ⟨meshes, _, traced⟩ := bind_eq_ok_iff.mp traced
  cases traced
  refine painted_valid projector ?_ ?_
  · intro line among
    rcases List.mem_append.mp among with among | among
    · rcases List.mem_append.mp among with among | among
      · split at gridded
        · exact grid_valid gridded line among
        · cases gridded
          contradiction
      · split at among
        · exact box_valid viewport line among
        · contradiction
    · split at among
      · exact axes_valid viewport line among
      · contradiction
  · intro pair paired
    exact valid pair.1 (List.of_mem_zip paired).1

end SpaceScene

end FormulaPlot
