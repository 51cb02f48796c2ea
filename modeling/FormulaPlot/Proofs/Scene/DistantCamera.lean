import FormulaPlot.Proofs.Space.Meshes
import FormulaPlot.Proofs.Scene.Painting

/-!
A distant camera drops nothing of a surface. Without rounding every vertex of a mesh is a place of
the box and has a picture, so that every face and every edge is painted exactly once.
-/

namespace FormulaPlot

open FormulaPlot.Scalar

set_option autoImplicit false

namespace SurfaceMesh

variable {α : Type} {mesh : SurfaceMesh α} {seen : Point3D α → Prop}

theorem faces_of_vertices
    (vertices : ∀ row column, ∀ vertex ∈ mesh.vertex? row column, seen vertex)
    {corners : Quad (Point3D α)} (mem : corners ∈ mesh.faces) :
    ∀ corner ∈ corners.toList, seen corner := by
  obtain ⟨row, _, mem⟩ := List.mem_flatMap.mp mem
  obtain ⟨column, _, here⟩ := List.mem_filterMap.mp mem
  unfold face? at here
  split at here
  · next first second third fourth =>
      injection here with same
      subst same
      simp only [Quad.toList, List.forall_mem_cons]
      exact ⟨vertices _ _ _ first, vertices _ _ _ second, vertices _ _ _ third,
        vertices _ _ _ fourth, nofun⟩
  · contradiction

theorem edge_of_vertices {first second : Option (Point3D α)} {edge : Edge (Point3D α)}
    (here : edge? first second = some edge) (one : ∀ vertex ∈ first, seen vertex)
    (other : ∀ vertex ∈ second, seen vertex) : seen edge.first ∧ seen edge.second := by
  unfold edge? at here
  split at here
  · injection here with same
    subst same
    exact ⟨one _ rfl, other _ rfl⟩
  · contradiction

theorem edges_of_vertices
    (vertices : ∀ row column, ∀ vertex ∈ mesh.vertex? row column, seen vertex)
    {edge : Edge (Point3D α)} (mem : edge ∈ mesh.edges) : seen edge.first ∧ seen edge.second := by
  rcases List.mem_append.mp mem with mem | mem
  · obtain ⟨row, _, mem⟩ := List.mem_flatMap.mp mem
    obtain ⟨column, _, here⟩ := List.mem_filterMap.mp mem
    exact edge_of_vertices here (vertices _ _) (vertices _ _)
  · obtain ⟨column, _, mem⟩ := List.mem_flatMap.mp mem
    obtain ⟨row, _, here⟩ := List.mem_filterMap.mp mem
    exact edge_of_vertices here (vertices _ _) (vertices _ _)

end SurfaceMesh

namespace SpaceScene

variable {α : Type} [DecimalScale α]

/-- Nothing of the sampled surfaces is missing from a scene: all vertices have a picture, all faces
are painted once, and so are all edges on the layer of the surfaces. -/
structure Completes (project : Projector α) (surfaces : List (SurfaceGraph α))
    (viewport : Viewport3D α) (meshes : List (Option (SurfaceMesh α))) (scene : SpaceScene α) :
    Prop where
  sampled : surfaces.mapM (fun surface => surface.mesh? viewport) = .ok meshes
  vertices : ∀ mesh, some mesh ∈ meshes → ∀ row column, ∀ vertex ∈ mesh.vertex? row column,
    (project vertex).isSome = true
  faces : (scene.faces.map some).Perm ((surfaces.zip meshes).flatMap (surfaceFaces project))
  segments :
    ((scene.segments.filter fun segment => segment.style.layer == Layer.surfaces).map some).Perm
      ((surfaces.zip meshes).flatMap (surfaceSegments project))

/-- Nothing is left out of a list without gaps. -/
theorem map_reduce {β : Type} {entries : List (Option β)}
    (full : ∀ entry ∈ entries, entry.isSome = true) : entries.reduceOption.map some = entries := by
  induction entries with
  | nil => rfl
  | cons first rest ih =>
      obtain ⟨value, here⟩ := Option.isSome_iff_exists.mp (full first List.mem_cons_self)
      rw [here, List.reduceOption_cons_of_some, List.map_cons,
        ih fun entry mem => full entry (List.mem_cons_of_mem _ mem)]

theorem meshes_of_each {surfaces : List (SurfaceGraph α)} {viewport : Viewport3D α}
    {property : Option (SurfaceMesh α) → Prop}
    (each : ∀ surface ∈ surfaces, ∃ mesh, surface.mesh? viewport = .ok mesh ∧ property mesh) :
    ∃ meshes, surfaces.mapM (fun surface => surface.mesh? viewport) = .ok meshes ∧
      ∀ mesh ∈ meshes, property mesh := by
  induction surfaces with
  | nil => exact ⟨[], rfl, nofun⟩
  | cons surface rest ih =>
      obtain ⟨mesh, made, here⟩ := each surface List.mem_cons_self
      obtain ⟨meshes, others, there⟩ :=
        ih fun other mem => each other (List.mem_cons_of_mem _ mem)
      refine ⟨mesh :: meshes, ?_, List.forall_mem_cons.mpr ⟨here, there⟩⟩
      rw [List.mapM_cons, made, others]
      rfl

/-- It is enough that all vertices have a picture. -/
theorem completes_of_vertices {project : Projector α} {surfaces : List (SurfaceGraph α)}
    {viewport : Viewport3D α} {lines : List (Line α)} (gridded : grid viewport = .ok lines)
    (each : ∀ surface ∈ surfaces, ∃ mesh?, surface.mesh? viewport = .ok mesh? ∧
      ∀ mesh ∈ mesh?, ∀ row column, ∀ vertex ∈ mesh.vertex? row column,
        (project vertex).isSome = true)
    (settings : SpaceSettings) (canvas : Canvas α) :
    ∃ scene meshes, SpaceScene.project project surfaces viewport settings canvas =
      .ok (scene, meshes) ∧ Completes project surfaces viewport meshes scene := by
  obtain ⟨meshes, sampled, seen⟩ := meshes_of_each each
  obtain ⟨scene, made, paints⟩ := paints_of_project project gridded sampled settings canvas
  have vertices : ∀ mesh, some mesh ∈ meshes → ∀ row column,
      ∀ vertex ∈ mesh.vertex? row column, (project vertex).isSome = true :=
    fun mesh mem => seen (some mesh) mem mesh rfl
  have facesSeen : ∀ face ∈ (surfaces.zip meshes).flatMap (surfaceFaces project),
      face.isSome = true := by
    intro face mem
    obtain ⟨⟨surface, mesh?⟩, pair, here⟩ := List.mem_flatMap.mp mem
    cases mesh? with
    | none => exact absurd here List.not_mem_nil
    | some mesh =>
        obtain ⟨corners, among, same⟩ := List.mem_map.mp here
        rw [← same]
        exact Painter.face_isSome _ _
          (SurfaceMesh.faces_of_vertices (vertices mesh (List.of_mem_zip pair).2) among)
  have segmentsSeen : ∀ segment ∈ (surfaces.zip meshes).flatMap (surfaceSegments project),
      segment.isSome = true := by
    intro segment mem
    obtain ⟨⟨surface, mesh?⟩, pair, here⟩ := List.mem_flatMap.mp mem
    cases mesh? with
    | none => exact absurd here List.not_mem_nil
    | some mesh =>
        obtain ⟨edge, among, same⟩ := List.mem_map.mp here
        obtain ⟨one, other⟩ :=
          SurfaceMesh.edges_of_vertices (vertices mesh (List.of_mem_zip pair).2) among
        rw [← same]
        exact Painter.segment_isSome _ one other
  refine ⟨scene, meshes, made, sampled, vertices, ?_, ?_⟩
  · rw [← map_reduce facesSeen]
    exact paints.faces.map some
  · rw [← map_reduce segmentsSeen]
    exact paints.segments.map some

theorem grid_real {viewport : Viewport3D ℝ} (properX : viewport.x.lo < viewport.x.hi)
    (properY : viewport.y.lo < viewport.y.hi) : ∃ lines, grid viewport = .ok lines := by
  obtain ⟨xs, across⟩ := Interval.ticks_real properX (show 0 < ticksAlong by decide)
  obtain ⟨ys, along⟩ := Interval.ticks_real properY (show 0 < ticksAlong by decide)
  exact ⟨_, by rw [grid, across, along]; rfl⟩

/-- The half diagonal of a cube from -1 to 1 is the root of 3, and 0.08 is the near plane: from
farther away nothing of a surface in view is dropped, whatever the box, the angles of the camera,
the canvas and the surfaces. -/
theorem distant_camera_drops_nothing {viewport : Viewport3D ℝ} {orientation : Orientation ℝ}
    {surfaces : List (SurfaceGraph ℝ)} (properX : viewport.x.lo < viewport.x.hi)
    (properY : viewport.y.lo < viewport.y.hi) (turn : orientation.IsTurn)
    (distant : Real.sqrt 3 + 0.08 < viewport.distance)
    (samples : ∀ surface ∈ surfaces, surface.appearance.IsSampled)
    (settings : SpaceSettings) (canvas : Canvas ℝ) :
    ∃ scene meshes,
      SpaceScene.project (Camera.ofViewport viewport orientation canvas).project surfaces viewport
        settings canvas = .ok (scene, meshes) ∧
      Completes (Camera.ofViewport viewport orientation canvas).project surfaces viewport meshes
        scene := by
  obtain ⟨lines, gridded⟩ := grid_real properX properY
  refine completes_of_vertices gridded ?_ settings canvas
  intro surface mem
  obtain ⟨mesh?, made, inside⟩ := SurfaceGraph.mesh_contains (samples surface mem) viewport
  refine ⟨mesh?, made, ?_⟩
  intro mesh here row column vertex placed
  exact Camera.project_of_distant canvas turn distant (inside mesh here row column vertex placed)

/-- A saddle over the whole box. -/
noncomputable def saddle : SurfaceGraph ℝ where
  raw := "x*y"
  appearance := {}
  domainX := {}
  domainY := {}
  formula := .binary ⟨.start, .start⟩ .star (.symbol ⟨.start, .start⟩ "x")
    (.symbol ⟨.start, .start⟩ "y")
  height x y := some (x * y)

/-- A camera that looks down sideways. -/
noncomputable def sideways : Orientation ℝ := ⟨3 / 5, 4 / 5, 4 / 5, -(3 / 5)⟩

theorem saddle_in_standard_box :
    sideways.IsTurn ∧ Real.sqrt 3 + 0.08 < (Viewport3D.standard : Viewport3D ℝ).distance ∧
      ∃ scene meshes,
        SpaceScene.project (Camera.ofViewport .standard sideways ⟨800, 600⟩).project [saddle]
          .standard {} ⟨800, 600⟩ = .ok (scene, meshes) ∧
        Completes (Camera.ofViewport .standard sideways ⟨800, 600⟩).project [saddle] .standard
          meshes scene := by
  have proper : (Interval.standard : Interval ℝ).lo < Interval.standard.hi := by
    show -(10.0 : ℝ) < 10.0
    norm_num
  have turn : sideways.IsTurn := by
    constructor <;> norm_num [sideways]
  have distant : Real.sqrt 3 + 0.08 < (Viewport3D.standard : Viewport3D ℝ).distance := by
    have root : Real.sqrt 3 < 2 := by
      rw [Real.sqrt_lt' (by norm_num)]
      norm_num
    show Real.sqrt 3 + 0.08 < 3.35
    linarith
  have samples : ∀ surface ∈ [saddle], surface.appearance.IsSampled := by
    rintro _ (_ | ⟨_, ⟨⟩⟩) _
    show (500.0 : Float).isFinite = true
    decide
  exact ⟨turn, distant,
    distant_camera_drops_nothing proper proper turn distant samples {} ⟨800, 600⟩⟩

end SpaceScene

end FormulaPlot
