import FormulaPlot.Proofs.Formula.Bare
import FormulaPlot.Proofs.Formula.Outcome
import FormulaPlot.Scene.PlaneScene

/-!
Pictures of the plane part by part. What is built consists of grid lines, axes, ticks and curves,
each in a style of its own, and of the labels of the ticks.
-/

namespace FormulaPlot

open FormulaPlot.Scalar

set_option autoImplicit false

/-- What goes on with one of two results goes on with the one that was chosen. -/
theorem choice_eq_ok {fault first second : Type} {choice : Prop} [Decidable choice]
    {one other : Except fault first} {next : first → Except fault second} {result : second}
    (made : (if choice then one.bind next else other.bind next) = .ok result) :
    ∃ value, (if choice then one else other) = .ok value ∧ next value = .ok result := by
  split at made
  · next chosen =>
      rw [if_pos chosen]
      exact bind_eq_ok_iff.mp made
  · next chosen =>
      rw [if_neg chosen]
      exact bind_eq_ok_iff.mp made

/-- What may be left out is made without faults of its own. -/
theorem lift_choice_eq_ok {result : Type} {choice : Prop} [Decidable choice]
    {computed : Except Fault result} {other value : result}
    (made : (if choice then SceneFault.lift computed else .ok other) = .ok value) :
    (if choice then computed else .ok other) = .ok value := by
  split at made
  · next chosen =>
      rw [if_pos chosen]
      exact (map_error_eq_ok_iff _ _ _).mp made
  · next chosen =>
      rw [if_neg chosen, ← Except.ok.inj made]

namespace PlaneScene

variable {α : Type}

theorem curves_styles {graphs : List (Graph α)} {traces : List (Trace α)} :
    ∀ line ∈ (List.zipWith curvePolylines graphs traces).flatten,
      ∃ graph ∈ graphs, line.style = curveStyle graph := by
  intro line among
  obtain ⟨lines, listed, among⟩ := List.mem_flatten.mp among
  rw [← List.map_uncurry_zip_eq_zipWith] at listed
  obtain ⟨⟨graph, trace⟩, paired, rfl⟩ := List.mem_map.mp listed
  obtain ⟨points, _, rfl⟩ := List.mem_map.mp among
  exact ⟨graph, (List.of_mem_zip paired).1, rfl⟩

variable [DecimalScale α] {viewport : Viewport α} {settings : PlaneSettings}
  {canvas : Canvas α} {scene : PlaneScene α}

theorem frame_parts (made : frame viewport settings canvas = .ok scene) :
    ∃ lines marks, (if settings.grid then grid viewport else .ok []) = .ok lines ∧
      (if settings.axes && settings.ticks then ticks viewport canvas else .ok []) = .ok marks ∧
      scene = ⟨viewport, canvas,
        lines ++ (if settings.axes then axes viewport else []) ++ marks.map Prod.fst,
        marks.map Prod.snd⟩ := by
  obtain ⟨_, _, made⟩ := bind_eq_ok_iff.mp made
  obtain ⟨lines, gridded, made⟩ := choice_eq_ok made
  obtain ⟨marks, ticked, made⟩ := choice_eq_ok made
  cases made
  exact ⟨lines, marks, lift_choice_eq_ok gridded, lift_choice_eq_ok ticked, rfl⟩

theorem frame_made {lines : List (Polyline α)} {marks : List (Polyline α × Label α)}
    (checked : canvas.check = .ok ()) (gridded : grid viewport = .ok lines)
    (ticked : ticks viewport canvas = .ok marks) :
    ∃ scene, frame viewport settings canvas = .ok scene := by
  rw [frame, checked, gridded, ticked]
  cases settings.grid <;> cases settings.axes && settings.ticks <;> exact ⟨_, rfl⟩

theorem grid_made {xs ys : List α} (across : viewport.x.ticks ticksAcross = .ok xs)
    (up : viewport.y.ticks ticksUp = .ok ys) : ∃ lines, grid viewport = .ok lines := by
  rw [grid, across, up]
  exact ⟨_, rfl⟩

theorem ticks_made {xs ys : List α} (across : viewport.x.ticks ticksAcross = .ok xs)
    (up : viewport.y.ticks ticksUp = .ok ys) : ∃ marks, ticks viewport canvas = .ok marks := by
  rw [ticks, across, up]
  split
  · exact ⟨_, rfl⟩
  · exact ⟨_, rfl⟩

/-- A picture without curves is its frame. -/
theorem build_none (framed : frame viewport settings canvas = .ok scene) :
    build [] viewport settings canvas = .ok (scene.withCurves [] []) := by
  rw [build, buildTraced, framed]
  rfl

theorem build_parts {graphs : List (Graph α)}
    (made : build graphs viewport settings canvas = .ok scene) :
    ∃ framed traces, frame viewport settings canvas = .ok framed ∧
      scene = framed.withCurves graphs traces := by
  obtain ⟨⟨_, traces⟩, traced, rfl⟩ := map_eq_ok_iff.mp made
  obtain ⟨framed, frame, traced⟩ := bind_eq_ok_iff.mp traced
  obtain ⟨_, _, traced⟩ := bind_eq_ok_iff.mp traced
  cases traced
  exact ⟨framed, traces, frame, rfl⟩

theorem grid_styles {lines : List (Polyline α)} (made : grid viewport = .ok lines) :
    ∀ line ∈ lines, line.style = gridStyle := by
  obtain ⟨xs, _, made⟩ := bind_eq_ok_iff.mp made
  obtain ⟨ys, _, made⟩ := bind_eq_ok_iff.mp made
  injection made with same
  intro line among
  rw [← same] at among
  rcases List.mem_append.mp among with across | up
  · obtain ⟨x, _, rfl⟩ := List.mem_map.mp across
    rfl
  · obtain ⟨y, _, rfl⟩ := List.mem_map.mp up
    rfl

theorem axes_styles (viewport : Viewport α) : ∀ line ∈ axes viewport, line.style = axisStyle := by
  intro line among
  rcases List.mem_append.mp among with here | here
  · split at here
    · rw [List.mem_singleton.mp here]
      rfl
    · contradiction
  · split at here
    · rw [List.mem_singleton.mp here]
      rfl
    · contradiction

/-- Every mark is a tick with its label. -/
theorem ticks_cases {marks : List (Polyline α × Label α)}
    (made : ticks viewport canvas = .ok marks) :
    ∀ mark ∈ marks, ∃ place, mark = horizontalTick (pixel viewport canvas) place ∨
      mark = verticalTick (pixel viewport canvas) place := by
  unfold ticks at made
  split at made
  · obtain ⟨xs, _, made⟩ := bind_eq_ok_iff.mp made
    obtain ⟨ys, _, made⟩ := bind_eq_ok_iff.mp made
    injection made with same
    intro mark among
    rw [← same] at among
    rcases List.mem_append.mp among with across | up
    · obtain ⟨x, _, rfl⟩ := List.mem_map.mp across
      exact ⟨x, .inl rfl⟩
    · obtain ⟨y, _, rfl⟩ := List.mem_map.mp up
      exact ⟨y, .inr rfl⟩
  · injection made with same
    rw [← same]
    exact nofun

theorem ticks_styles {marks : List (Polyline α × Label α)}
    (made : ticks viewport canvas = .ok marks) : ∀ mark ∈ marks, mark.1.style = tickStyle := by
  intro mark among
  obtain ⟨place, rfl | rfl⟩ := ticks_cases made mark among
  · rfl
  · rfl

/-- The lines of a frame are those of the grid, axes and ticks. -/
theorem frame_lines (made : frame viewport settings canvas = .ok scene) :
    ∃ lines, (if settings.grid then grid viewport else .ok []) = .ok lines ∧
      lines ⊆ scene.polylines ∧ ∀ line ∈ scene.polylines,
        line ∈ lines ∨ line.style = axisStyle ∨ line.style = tickStyle := by
  obtain ⟨lines, marks, gridded, ticked, rfl⟩ := frame_parts made
  refine ⟨lines, gridded, fun line among => ?_, fun line among => ?_⟩
  · exact List.mem_append_left _ (List.mem_append_left _ among)
  rcases List.mem_append.mp among with among | among
  · rcases List.mem_append.mp among with among | among
    · exact .inl among
    · split at among
      · exact .inr (.inl (axes_styles viewport line among))
      · contradiction
  · obtain ⟨mark, listed, rfl⟩ := List.mem_map.mp among
    split at ticked
    · exact .inr (.inr (ticks_styles ticked mark listed))
    · cases ticked
      contradiction

/-- On the layer of the grid there are the grid lines and nothing else. -/
theorem grid_layer {graphs : List (Graph α)}
    (made : build graphs viewport settings canvas = .ok scene) (shown : settings.grid = true) :
    ∃ lines, grid viewport = .ok lines ∧
      ∀ line, line ∈ scene.polylines ∧ line.style.layer = Layer.grid ↔ line ∈ lines := by
  obtain ⟨framed, traces, frame, rfl⟩ := build_parts made
  obtain ⟨lines, gridded, within, cases⟩ := frame_lines frame
  rw [if_pos shown] at gridded
  refine ⟨lines, gridded, fun line => ?_⟩
  constructor
  · rintro ⟨among, layer⟩
    rcases List.mem_append.mp among with among | among
    · rcases cases line among with among | style | style
      · exact among
      · rw [style] at layer
        exact absurd layer (by decide)
      · rw [style] at layer
        exact absurd layer (by decide)
    · obtain ⟨graph, _, style⟩ := curves_styles line among
      rw [style] at layer
      exact absurd layer (by decide : Layer.curves ≠ Layer.grid)
  · intro among
    refine ⟨List.mem_append_left _ (within among), ?_⟩
    rw [grid_styles gridded line among]
    rfl

/-- The labels are those of the ticks of both axes, if these cross in view. -/
theorem labels_of_build {graphs : List (Graph α)} {xs ys : List α}
    (made : build graphs viewport settings canvas = .ok scene)
    (shown : (settings.axes && settings.ticks) = true)
    (origin : (viewport.x.contains zero && viewport.y.contains zero) = true)
    (across : viewport.x.ticks ticksAcross = .ok xs) (up : viewport.y.ticks ticksUp = .ok ys) :
    scene.labels.map Label.text =
      (xs.filter awayFromOrigin).map tickLabel ++ (ys.filter awayFromOrigin).map tickLabel := by
  obtain ⟨framed, traces, frame, rfl⟩ := build_parts made
  obtain ⟨lines, marks, _, ticked, rfl⟩ := frame_parts frame
  rw [if_pos shown, ticks, if_pos origin, across, up] at ticked
  injection ticked with same
  show (marks.map Prod.snd).map Label.text = _
  rw [← same, List.map_map, List.map_append, List.map_map, List.map_map]
  rfl

end PlaneScene

end FormulaPlot
