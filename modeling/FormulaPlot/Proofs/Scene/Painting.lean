import FormulaPlot.Proofs.Formula.Outcome
import FormulaPlot.Scene.SpaceScene
import Mathlib.Data.List.ReduceOption

/-!
What a picture of space is painted from. The painter collects the pictures of lines and faces in
the order in which they are added; the lines of the frame come first and stay on layers of their
own, so that the faces and the segments of the surface layer are those of the meshes.
-/

namespace FormulaPlot

open FormulaPlot.Formula FormulaPlot.Scalar

set_option autoImplicit false

variable {α : Type}

namespace Painter

/-- A painter with more faces and segments behind those it has. -/
def append (painter : Painter α) (faces : List (PaintedFace α))
    (segments : List (PaintedSegment α)) : Painter α :=
  ⟨painter.project, painter.faces ++ faces.toArray, painter.segments ++ segments.toArray⟩

theorem append_nil (painter : Painter α) : painter.append [] [] = painter := by
  simp [append]

theorem append_append (painter : Painter α) (faces others : List (PaintedFace α))
    (segments more : List (PaintedSegment α)) :
    (painter.append faces segments).append others more =
      painter.append (faces ++ others) (segments ++ more) := by
  simp [append, Array.append_assoc]

variable [Scalar α] (painter : Painter α)

theorem add_segment_eq (first second : Point3D α) (style : Style) :
    (painter.addSegment first second style).2 =
      painter.append [] (segment? painter.project first second style).toList := by
  unfold addSegment
  cases segment? painter.project first second style with
  | none => exact (append_nil painter).symm
  | some segment => simp [append]

theorem add_face_eq (corners : Quad (Point3D α)) (fill : Datum) (alpha : Float) :
    (painter.addFace corners fill alpha).2 =
      painter.append (face? painter.project corners fill alpha).toList [] := by
  unfold addFace
  cases face? painter.project corners fill alpha with
  | none => exact (append_nil painter).symm
  | some face => simp [append]

theorem segment_style {project : Projector α} {first second : Point3D α} {style : Style}
    {segment : PaintedSegment α} (shown : segment? project first second style = some segment) :
    segment.style = style := by
  unfold segment? at shown
  split at shown
  · injection shown with same
    rw [← same]
  · contradiction

theorem segment_isSome {project : Projector α} {first second : Point3D α} (style : Style)
    (one : (project first).isSome = true) (other : (project second).isSome = true) :
    (segment? project first second style).isSome = true := by
  obtain ⟨here, one⟩ := Option.isSome_iff_exists.mp one
  obtain ⟨there, other⟩ := Option.isSome_iff_exists.mp other
  rw [segment?, one, other]
  rfl

theorem face_isSome {project : Projector α} {corners : Quad (Point3D α)} (fill : Datum)
    (alpha : Float) (seen : ∀ corner ∈ corners.toList, (project corner).isSome = true) :
    (face? project corners fill alpha).isSome = true := by
  have seenAt : ∀ corner ∈ corners.toList, ∃ point, project corner = some point := fun corner mem =>
    Option.isSome_iff_exists.mp (seen corner mem)
  obtain ⟨first, one⟩ := seenAt corners.first (by simp [Quad.toList])
  obtain ⟨second, two⟩ := seenAt corners.second (by simp [Quad.toList])
  obtain ⟨third, three⟩ := seenAt corners.third (by simp [Quad.toList])
  obtain ⟨fourth, four⟩ := seenAt corners.fourth (by simp [Quad.toList])
  rw [face?, one, two, three, four]
  rfl

end Painter

namespace SpaceScene

/-! The frame -/

/-- Lines on other layers than that of the surfaces. -/
def KeepOff (lines : List (Line α)) : Prop :=
  ∀ line ∈ lines, (line.2.layer == Layer.surfaces) = false

theorem KeepOff.append {lines others : List (Line α)} (one : KeepOff lines)
    (other : KeepOff others) : KeepOff (lines ++ others) := by
  intro line mem
  rcases List.mem_append.mp mem with mem | mem
  · exact one line mem
  · exact other line mem

theorem keep_off_nil : KeepOff ([] : List (Line α)) := nofun

theorem box_keeps_off (viewport : Viewport3D α) : KeepOff (box viewport) := by
  intro line mem
  obtain ⟨edge, _, here⟩ := List.mem_map.mp mem
  rw [← here]
  rfl

variable [DecimalScale α]

theorem grid_keeps_off {viewport : Viewport3D α} {lines : List (Line α)}
    (made : grid viewport = .ok lines) : KeepOff lines := by
  obtain ⟨xs, _, made⟩ := bind_eq_ok_iff.mp made
  obtain ⟨ys, _, made⟩ := bind_eq_ok_iff.mp made
  injection made with same
  intro line mem
  rw [← same] at mem
  rcases List.mem_append.mp mem with mem | mem
  · obtain ⟨x, _, here⟩ := List.mem_map.mp mem
    rw [← here]
    rfl
  · obtain ⟨y, _, here⟩ := List.mem_map.mp mem
    rw [← here]
    rfl

theorem axes_keep_off (viewport : Viewport3D α) : KeepOff (axes viewport) := by
  intro line mem
  simp only [axes, List.mem_cons, List.not_mem_nil, or_false] at mem
  rcases mem with here | here | here <;> (rw [here]; rfl)

/-! Surfaces -/

variable (project : Projector α)

def lineSegments (lines : List (Line α)) : List (Option (PaintedSegment α)) :=
  lines.map fun line => Painter.segment? project line.1.first line.1.second line.2

/-- The pictures of the faces of a mesh, in their order; a face that is not seen has none. -/
def meshFaces (surface : SurfaceGraph α) (mesh : SurfaceMesh α) : List (Option (PaintedFace α)) :=
  mesh.faces.map fun corners =>
    Painter.face? project corners surface.appearance.color (faceAlpha surface.appearance.dashed)

/-- The pictures of the edges of a mesh, in their order. -/
def meshSegments (surface : SurfaceGraph α) (mesh : SurfaceMesh α) :
    List (Option (PaintedSegment α)) :=
  mesh.edges.map fun edge =>
    Painter.segment? project edge.first edge.second (wireStyle surface)

/-- A surface out of view has no mesh and no pictures. -/
def surfaceFaces (sampled : SurfaceGraph α × Option (SurfaceMesh α)) :
    List (Option (PaintedFace α)) :=
  match sampled.2 with
  | none => []
  | some mesh => meshFaces project sampled.1 mesh

def surfaceSegments (sampled : SurfaceGraph α × Option (SurfaceMesh α)) :
    List (Option (PaintedSegment α)) :=
  match sampled.2 with
  | none => []
  | some mesh => meshSegments project sampled.1 mesh

theorem reduce_cons {β : Type} (first : Option β) (rest : List (Option β)) :
    (first :: rest).reduceOption = first.toList ++ rest.reduceOption := by
  cases first <;> rfl

theorem add_lines_eq (painter : Painter α) (lines : List (Line α)) :
    addLines painter lines =
      painter.append [] (lineSegments painter.project lines).reduceOption := by
  induction lines generalizing painter with
  | nil => exact (painter.append_nil).symm
  | cons line rest ih =>
      have step : addLines painter (line :: rest) =
          addLines (painter.addSegment line.1.first line.1.second line.2).2 rest := rfl
      have shown : lineSegments painter.project (line :: rest) =
          Painter.segment? painter.project line.1.first line.1.second line.2 ::
            lineSegments painter.project rest := rfl
      rw [step, ih, Painter.add_segment_eq, Painter.append_append, shown, reduce_cons]
      rfl

theorem add_faces_eq (painter : Painter α) (faces : List (Quad (Point3D α))) (fill : Datum)
    (alpha : Float) :
    faces.foldl (fun painter face => (painter.addFace face fill alpha).2) painter =
      painter.append
        (faces.map fun face => Painter.face? painter.project face fill alpha).reduceOption [] := by
  induction faces generalizing painter with
  | nil => exact (painter.append_nil).symm
  | cons face rest ih =>
      rw [List.foldl_cons, ih, Painter.add_face_eq, Painter.append_append,
        List.map_cons (l := rest), reduce_cons]
      rfl

theorem add_surface_eq (painter : Painter α)
    (sampled : SurfaceGraph α × Option (SurfaceMesh α)) :
    addSurface painter sampled =
      painter.append (surfaceFaces painter.project sampled).reduceOption
        (surfaceSegments painter.project sampled).reduceOption := by
  obtain ⟨surface, mesh?⟩ := sampled
  cases mesh? with
  | none => exact (painter.append_nil).symm
  | some mesh =>
      have edges : lineSegments painter.project
          (mesh.edges.map fun edge => (edge, wireStyle surface)) =
            meshSegments painter.project surface mesh := by
        simp only [lineSegments, meshSegments, List.map_map]
        rfl
      simp only [addSurface, addMesh, add_faces_eq, add_lines_eq, Painter.append_append]
      show painter.append _ ([] ++ (lineSegments painter.project _).reduceOption) = _
      rw [edges, List.append_nil]
      rfl

theorem add_surfaces_eq (painter : Painter α)
    (sampled : List (SurfaceGraph α × Option (SurfaceMesh α))) :
    sampled.foldl addSurface painter =
      painter.append (sampled.flatMap (surfaceFaces painter.project)).reduceOption
        (sampled.flatMap (surfaceSegments painter.project)).reduceOption := by
  induction sampled generalizing painter with
  | nil => exact (painter.append_nil).symm
  | cons surface rest ih =>
      rw [List.foldl_cons, ih, add_surface_eq, Painter.append_append, List.flatMap_cons,
        List.flatMap_cons, List.reduceOption_append, List.reduceOption_append]
      rfl

/-- The layer of a segment is that of its style. -/
theorem KeepOff.segments {lines : List (Line α)} (off : KeepOff lines) :
    (lineSegments project lines).reduceOption.filter
      (fun segment => segment.style.layer == Layer.surfaces) = [] := by
  rw [List.filter_eq_nil_iff]
  intro segment mem
  obtain ⟨line, here, shown⟩ := List.mem_map.mp (List.reduceOption_mem_iff.mp mem)
  rw [Painter.segment_style shown, off line here]
  decide

theorem surface_segments_layer (sampled : List (SurfaceGraph α × Option (SurfaceMesh α))) :
    (sampled.flatMap (surfaceSegments project)).reduceOption.filter
      (fun segment => segment.style.layer == Layer.surfaces) =
        (sampled.flatMap (surfaceSegments project)).reduceOption := by
  rw [List.filter_eq_self]
  intro segment mem
  obtain ⟨⟨surface, mesh?⟩, _, here⟩ := List.mem_flatMap.mp (List.reduceOption_mem_iff.mp mem)
  cases mesh? with
  | none => exact absurd here List.not_mem_nil
  | some mesh =>
      obtain ⟨edge, _, shown⟩ := List.mem_map.mp here
      rw [Painter.segment_style shown]
      rfl

/-! Pictures -/

/-- What a projector paints of sampled surfaces: one face for each face of a mesh, and on the layer
of the surfaces one segment for each edge, as far as they are seen. -/
structure Paints (sampled : List (SurfaceGraph α × Option (SurfaceMesh α))) (scene : SpaceScene α) :
    Prop where
  faces : scene.faces.Perm (sampled.flatMap (surfaceFaces project)).reduceOption
  segments : (scene.segments.filter fun segment => segment.style.layer == Layer.surfaces).Perm
    (sampled.flatMap (surfaceSegments project)).reduceOption

theorem paints_of_painter {lines : List (Line α)} (off : KeepOff lines)
    (sampled : List (SurfaceGraph α × Option (SurfaceMesh α))) (viewport : Viewport3D α)
    (settings : SpaceSettings) (canvas : Canvas α) :
    Paints project sampled (ofPainter viewport settings canvas
      (sampled.foldl addSurface (addLines (.ofProjector project) lines))) := by
  rw [add_lines_eq, add_surfaces_eq, Painter.append_append]
  constructor
  · refine (List.mergeSort_perm _ _).trans (List.Perm.of_eq ?_)
    simp [Painter.append, Painter.ofProjector]
  · refine ((List.mergeSort_perm _ _).filter _).trans (List.Perm.of_eq ?_)
    simp only [Painter.append, Painter.ofProjector, Array.toList_append, List.nil_append,
      List.filter_append, off.segments project]
    exact surface_segments_layer project sampled

/-- Every picture of space, whatever its projector. -/
theorem paints_of_project {surfaces : List (SurfaceGraph α)} {viewport : Viewport3D α}
    {lines : List (Line α)} {meshes : List (Option (SurfaceMesh α))}
    (gridded : grid viewport = .ok lines)
    (sampled : surfaces.mapM (fun surface => surface.mesh? viewport) = .ok meshes)
    (settings : SpaceSettings) (canvas : Canvas α) :
    ∃ scene, SpaceScene.project project surfaces viewport settings canvas = .ok (scene, meshes) ∧
      Paints project (surfaces.zip meshes) scene := by
  have gridOff : KeepOff (if settings.grid then lines else []) := by
    cases settings.grid
    · exact keep_off_nil
    · exact grid_keeps_off gridded
  have boxOff : KeepOff (if settings.box then box viewport else []) := by
    cases settings.box
    · exact keep_off_nil
    · exact box_keeps_off viewport
  have axesOff : KeepOff (if settings.axes then axes viewport else []) := by
    cases settings.axes
    · exact keep_off_nil
    · exact axes_keep_off viewport
  refine ⟨_, ?_, paints_of_painter project ((gridOff.append boxOff).append axesOff) _ viewport
    settings canvas⟩
  unfold SpaceScene.project
  cases settings.grid
  · simp only [bind, Except.bind, sampled, Bool.false_eq_true, if_false]
    rfl
  · simp only [bind, Except.bind, gridded, sampled, if_true]
    rfl

end SpaceScene

end FormulaPlot
