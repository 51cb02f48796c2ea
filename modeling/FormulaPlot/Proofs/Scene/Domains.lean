import FormulaPlot.Proofs.Formula.Outcome
import FormulaPlot.Proofs.Plane.Domains
import FormulaPlot.Tikz.SpaceDocument
import Mathlib.Algebra.Order.Field.Basic
import Mathlib.Tactic.Ring

/-!
What is drawn over a declared domain. A curve is sampled and plotted, and a surface is meshed and
plotted, over what is both visible and admitted, and they are skipped where nothing is, unless
their domain is stranded.
-/

namespace FormulaPlot

open FormulaPlot.Scalar

set_option autoImplicit false

/-! Places of samples -/

/-- A part of the way from the lower to the upper end. -/
theorem Interval.contains_part {domain : Interval Rat} {share : Rat}
    (proper : domain.lo ≤ domain.hi) (least : 0 ≤ share) (greatest : share ≤ 1) :
    domain.contains (domain.lo + share * (domain.hi - domain.lo)) = true := by
  have length : 0 ≤ domain.hi - domain.lo := sub_nonneg.mpr proper
  apply contains_iff.mpr
  constructor
  · exact le_add_of_nonneg_right (mul_nonneg least length)
  · have part := mul_le_of_le_one_left length greatest
    linarith

namespace Curve

variable {domain : Interval Rat} {count index : Nat}

theorem place_contained (proper : domain.lo ≤ domain.hi) (within : index ≤ count) :
    domain.contains (place domain count index) = true := by
  apply Interval.contains_part proper
  · exact div_nonneg (Nat.cast_nonneg index) (Nat.cast_nonneg count)
  · exact div_le_one_of_le₀ (Nat.cast_le.mpr within) (Nat.cast_nonneg count)

theorem sample_place {curve : Rat → Option Rat} {greatest place : Rat} {point : Point Rat}
    (found : sample curve greatest place = some point) : point.x = place := by
  unfold sample at found
  split at found
  · contradiction
  · split at found
    · contradiction
    · injection found with same
      rw [← same]

theorem mem_samples {curve : Rat → Option Rat} {greatest : Rat} {point : Point Rat}
    (proper : domain.lo ≤ domain.hi) (mem : some point ∈ samples curve domain count greatest) :
    domain.contains point.x = true := by
  obtain ⟨index, inRange, found⟩ := List.mem_map.mp mem
  rw [sample_place found]
  exact place_contained proper (Nat.le_of_lt_succ (List.mem_range.mp inRange))

theorem samples_congr {curve other : Rat → Option Rat} {greatest : Rat}
    (proper : domain.lo ≤ domain.hi)
    (agree : ∀ place, domain.contains place = true → other place = curve place) :
    samples other domain count greatest = samples curve domain count greatest := by
  apply List.map_congr_left
  intro index inRange
  have here := place_contained proper (Nat.le_of_lt_succ (List.mem_range.mp inRange))
  unfold sample
  rw [agree _ here]

variable {α : Type}

theorem mem_finished_run {run points : List (Point α)} {point : Point α}
    (finished : points ∈ finishedRun run) (mem : point ∈ points) : point ∈ run := by
  unfold finishedRun at finished
  split at finished
  · rw [List.mem_singleton.mp finished] at mem
    exact List.mem_reverse.mp mem
  · contradiction

/-- Nothing but samples gets into a run. -/
theorem mem_runs_from (joined : Point α → Point α → Bool) {points : List (Point α)}
    {point : Point α} (mem : point ∈ points) (found : List (Option (Point α)))
    (run : List (Point α)) (isRun : points ∈ runsFrom joined run found) :
    point ∈ run ∨ some point ∈ found := by
  induction found generalizing run with
  | nil => exact .inl (mem_finished_run isRun mem)
  | cons sample rest ih =>
      cases sample with
      | none =>
          rcases List.mem_append.mp isRun with finished | later
          · exact .inl (mem_finished_run finished mem)
          · rcases ih [] later with inRun | inRest
            · contradiction
            · exact .inr (List.mem_cons_of_mem _ inRest)
      | some next =>
          have started : points ∈ runsFrom joined [next] rest →
              point ∈ run ∨ some point ∈ some next :: rest := by
            intro later
            rcases ih [next] later with inRun | inRest
            · rw [List.mem_singleton.mp inRun]
              exact .inr (List.mem_cons_self ..)
            · exact .inr (List.mem_cons_of_mem _ inRest)
          cases run with
          | nil => exact started isRun
          | cons previous before =>
              simp only [runsFrom] at isRun
              split at isRun
              · rcases ih _ isRun with inRun | inRest
                · rcases List.mem_cons.mp inRun with here | earlier
                  · rw [here]
                    exact .inr (List.mem_cons_self ..)
                  · exact .inl earlier
                · exact .inr (List.mem_cons_of_mem _ inRest)
              · rcases List.mem_append.mp isRun with finished | later
                · exact .inl (mem_finished_run finished mem)
                · exact started later

end Curve

/-! Curves -/

/-- Everything found lies over admitted places. -/
def Trace.Within (admitted : Rat → Prop) (trace : Trace Rat) : Prop :=
  ∀ points ∈ trace.polylines, ∀ point ∈ points, admitted point.x

/-- Everything plotted lies over admitted places. -/
def Tikz.Plot.Within (admitted : Rat → Prop) : Tikz.Plot Rat → Prop
  | .skipped => True
  | .formula _ domain _ _ => ∀ place, domain.contains place = true → admitted place
  | .coordinates _ _ trace => trace.Within admitted

/-- What a curve owes to its declared domain: what is visible and admitted is sampled and plotted,
and nothing else. -/
structure Graph.Respects (graph : Graph Rat) (viewport : Viewport Rat) : Prop where
  sampled : ∀ domain, graph.domain.visible? viewport.x = some domain →
    graph.domain.Fills viewport.x domain
  drawn : graph.domain.visible? viewport.x = none → graph.domain.Narrow viewport.x
  unread : ∀ function other, graph.shape = .curve function →
    (∀ place, graph.domain.Admits place → other place = function place) →
      ({ graph with shape := .curve other }).trace viewport = graph.trace viewport
  traced : ∀ trace, graph.trace viewport = .ok trace → trace.Within graph.domain.Admits
  plotted : ∀ plot, Tikz.plot graph viewport = .ok plot → plot.Within graph.domain.Admits
  skipped : graph.domain.Narrow viewport.x → graph.trace viewport = .ok .outside ∧
    Tikz.graphLines graph viewport = .ok [Tikz.skippedLine graph.raw]

section Curves

variable {function other : Rat → Option Rat} {domain visible : Interval Rat}
  {admitted : Rat → Prop} {samples : Float}

theorem trace_within {trace : Trace Rat} (proper : domain.lo ≤ domain.hi)
    (inside : ∀ place, domain.contains place = true → admitted place)
    (traced : Trace.ofCurve function domain visible samples = .ok trace) :
    trace.Within admitted := by
  unfold Trace.ofCurve at traced
  obtain ⟨count, _, traced⟩ := bind_eq_ok_iff.mp traced
  injection traced with same
  subst same
  intro points isRun point mem
  rcases Curve.mem_runs_from _ mem _ _ isRun with inRun | isSample
  · contradiction
  · exact inside point.x (Curve.mem_samples proper isSample)

theorem trace_congr (proper : domain.lo ≤ domain.hi)
    (agree : ∀ place, domain.contains place = true → other place = function place) :
    Trace.ofCurve other domain visible samples = Trace.ofCurve function domain visible samples := by
  unfold Trace.ofCurve Curve.polylines
  apply bind_congr
  intro count
  rw [Curve.samples_congr proper agree]

end Curves

theorem lift_eq_ok_iff {result : Type} {computed : Except Fault result} {value : result} :
    ExportFault.lift computed = .ok value ↔ computed = .ok value := by
  cases computed with
  | error fault => simp [ExportFault.lift, Except.mapError]
  | ok found => simp [ExportFault.lift, Except.mapError]

variable {graph : Graph Rat} {viewport : Viewport Rat}

section Shown

variable {function : Rat → Option Rat} {domain : Interval Rat}

theorem Graph.trace_of_hidden (isCurve : graph.shape = .curve function)
    (hidden : graph.domain.visible? viewport.x = none) : graph.trace viewport = .ok .outside := by
  simp only [Graph.trace, isCurve, hidden]

theorem Graph.trace_of_visible (isCurve : graph.shape = .curve function)
    (shown : graph.domain.visible? viewport.x = some domain) :
    graph.trace viewport =
      Trace.ofCurve function domain viewport.y graph.appearance.samples := by
  simp only [Graph.trace, isCurve, shown]

end Shown

/-- It is enough that a curve is sampled over the right interval. -/
theorem Graph.respects_of_sampled {function : Rat → Option Rat}
    (isCurve : graph.shape = .curve function)
    (sampled : ∀ domain, graph.domain.visible? viewport.x = some domain →
      graph.domain.Fills viewport.x domain)
    (hidden : graph.domain.visible? viewport.x = none ↔ graph.domain.Narrow viewport.x) :
    graph.Respects viewport where
  sampled := sampled
  drawn := hidden.mp
  unread := by
    intro curve other same agree
    unfold Graph.trace
    rw [same]
    cases shown : graph.domain.visible? viewport.x with
    | none => rfl
    | some domain =>
        apply trace_congr (DomainText.visible_proper shown).le
        intro place here
        exact agree place ((sampled domain shown).admits place here)
  traced := by
    intro trace traced
    cases shown : graph.domain.visible? viewport.x with
    | none =>
        rw [Graph.trace_of_hidden isCurve shown] at traced
        injection traced with same
        subst same
        intro points mem
        contradiction
    | some domain =>
        rw [Graph.trace_of_visible isCurve shown] at traced
        have inside := (sampled domain shown).admits
        exact trace_within (DomainText.visible_proper shown).le inside traced
  plotted := by
    intro plot plotted
    unfold Tikz.plot at plotted
    rw [isCurve] at plotted
    cases shown : graph.domain.visible? viewport.x with
    | none =>
        simp only [shown] at plotted
        injection plotted with same
        subst same
        trivial
    | some domain =>
        have inside := (sampled domain shown).admits
        simp only [shown] at plotted
        obtain ⟨style, _, plotted⟩ := bind_eq_ok_iff.mp plotted
        cases converted : graph.formula.convert Pgfmath.curve with
        | ok expression =>
            simp only [converted] at plotted
            obtain ⟨count, _, plotted⟩ := bind_eq_ok_iff.mp plotted
            injection plotted with same
            subst same
            exact inside
        | error fault =>
            simp only [converted] at plotted
            obtain ⟨trace, lifted, plotted⟩ := bind_eq_ok_iff.mp plotted
            injection plotted with same
            subst same
            have traced := lift_eq_ok_iff.mp lifted
            exact trace_within (DomainText.visible_proper shown).le inside traced
  skipped := by
    intro narrow
    have shown := hidden.mpr narrow
    constructor
    · exact Graph.trace_of_hidden isCurve shown
    · simp only [Tikz.graphLines, Tikz.plot, isCurve, shown]
      rfl

theorem Graph.respects_iff {function : Rat → Option Rat}
    (isCurve : graph.shape = .curve function) (proper : viewport.x.lo < viewport.x.hi)
    (inOrder : graph.domain.InOrder) :
    graph.Respects viewport ↔ ¬graph.domain.Stranded viewport.x := by
  constructor
  · intro respects stranded
    obtain ⟨domain, shown, _⟩ := DomainText.visible_of_stranded proper stranded
    exact DomainText.afloat_of_fills proper shown (respects.sampled domain shown) stranded
  · intro afloat
    apply Graph.respects_of_sampled isCurve
    · intro domain shown
      exact DomainText.visible_fills proper inOrder afloat shown
    · constructor
      · exact DomainText.narrow_of_hidden proper inOrder
      · exact DomainText.visible_of_narrow proper inOrder afloat

/-! Surfaces -/

/-- Every vertex lies over admitted places. -/
def SurfaceMesh.Within (admittedX admittedY : Rat → Prop) (mesh : SurfaceMesh Rat) : Prop :=
  (∀ x ∈ mesh.xs, admittedX x) ∧ ∀ y ∈ mesh.ys, admittedY y

def Tikz.SurfacePlot.Within (admittedX admittedY : Rat → Prop) : Tikz.SurfacePlot Rat → Prop
  | .skipped => True
  | .formula _ x y _ => (∀ place, x.contains place = true → admittedX place) ∧
      ∀ place, y.contains place = true → admittedY place
  | .table _ _ mesh => mesh.Within admittedX admittedY

/-- What a surface owes to its declared domains, along each axis. -/
structure SurfaceGraph.Respects (surface : SurfaceGraph Rat) (viewport : Viewport3D Rat) :
    Prop where
  sampled : ∀ x y, surface.domain? viewport = some (x, y) →
    surface.domainX.Fills viewport.x x ∧ surface.domainY.Fills viewport.y y
  drawn : surface.domain? viewport = none →
    surface.domainX.Narrow viewport.x ∨ surface.domainY.Narrow viewport.y
  unread : ∀ other,
    (∀ x y, surface.domainX.Admits x → surface.domainY.Admits y →
      other x y = surface.height x y) →
    ({ surface with height := other }).mesh? viewport = surface.mesh? viewport
  meshed : ∀ mesh, surface.mesh? viewport = .ok (some mesh) →
    mesh.Within surface.domainX.Admits surface.domainY.Admits
  plotted : ∀ plot, Tikz.surfacePlot surface viewport = .ok plot →
    plot.Within surface.domainX.Admits surface.domainY.Admits
  skipped : surface.domainX.Narrow viewport.x ∨ surface.domainY.Narrow viewport.y →
    surface.domain? viewport = none ∧ surface.mesh? viewport = .ok none ∧
      Tikz.surfaceLines surface viewport = .ok [Tikz.skippedLine surface.raw]

namespace SurfaceMesh

variable {domain domainX domainY : Interval Rat} {line : Array Rat} {resolution : Nat}
  {height other : Rat → Rat → Option Rat} {heights : Interval Rat} {greatest : Rat}

theorem grid_line_contained (proper : domain.lo ≤ domain.hi)
    (made : gridLine domain resolution = .ok line) (place : Rat) (mem : place ∈ line) :
    domain.contains place = true := by
  obtain ⟨step, divided, made⟩ := bind_eq_ok_iff.mp made
  injection made with same
  subst same
  obtain ⟨index, inRange, here⟩ := Array.mem_map.mp mem
  have within : index ≤ resolution := Nat.le_of_lt_succ (Array.mem_range.mp inRange)
  have part : ofNat index * step =
      (index : Rat) / resolution * (domain.hi - domain.lo) := by
    unfold divide at divided
    split at divided
    · contradiction
    · injection divided with same
      rw [← same]
      show (index : Rat) * ((domain.hi - domain.lo) / resolution) = _
      ring
  rw [← here, part]
  apply Interval.contains_part proper
  · exact div_nonneg (Nat.cast_nonneg index) (Nat.cast_nonneg resolution)
  · exact div_le_one_of_le₀ (Nat.cast_le.mpr within) (Nat.cast_nonneg resolution)

theorem within_of_function {admittedX admittedY : Rat → Prop} {mesh : SurfaceMesh Rat}
    (properX : domainX.lo ≤ domainX.hi) (properY : domainY.lo ≤ domainY.hi)
    (insideX : ∀ place, domainX.contains place = true → admittedX place)
    (insideY : ∀ place, domainY.contains place = true → admittedY place)
    (made : ofFunction height domainX domainY resolution heights greatest = .ok mesh) :
    mesh.Within admittedX admittedY := by
  obtain ⟨xs, across, made⟩ := bind_eq_ok_iff.mp made
  obtain ⟨ys, up, made⟩ := bind_eq_ok_iff.mp made
  injection made with same
  subst same
  constructor
  · intro x mem
    exact insideX x (grid_line_contained properX across x mem)
  · intro y mem
    exact insideY y (grid_line_contained properY up y mem)

theorem of_function_congr (properX : domainX.lo ≤ domainX.hi) (properY : domainY.lo ≤ domainY.hi)
    (agree : ∀ x y, domainX.contains x = true → domainY.contains y = true →
      other x y = height x y) :
    ofFunction other domainX domainY resolution heights greatest =
      ofFunction height domainX domainY resolution heights greatest := by
  unfold ofFunction
  cases across : gridLine domainX resolution with
  | error fault => rfl
  | ok xs =>
      cases up : gridLine domainY resolution with
      | error fault => rfl
      | ok ys =>
          show Except.ok (SurfaceMesh.mk xs ys _) = Except.ok (SurfaceMesh.mk xs ys _)
          congr 2
          apply Array.map_congr_left
          intro y memY
          apply Array.map_congr_left
          intro x memX
          unfold sample
          rw [agree x y (grid_line_contained properX across x memX)
            (grid_line_contained properY up y memY)]

end SurfaceMesh

variable {surface : SurfaceGraph Rat} {viewport : Viewport3D Rat}

theorem SurfaceGraph.domain_eq_some_iff {x y : Interval Rat} :
    surface.domain? viewport = some (x, y) ↔
      surface.domainX.visible? viewport.x = some x ∧
        surface.domainY.visible? viewport.y = some y := by
  unfold SurfaceGraph.domain? visibleDomain?
  cases surface.domainX.visible? viewport.x with
  | none => simp
  | some here =>
      cases surface.domainY.visible? viewport.y with
      | none => simp
      | some there => simp

theorem SurfaceGraph.domain_eq_none_iff :
    surface.domain? viewport = none ↔ surface.domainX.visible? viewport.x = none ∨
      surface.domainY.visible? viewport.y = none := by
  unfold SurfaceGraph.domain? visibleDomain?
  cases surface.domainX.visible? viewport.x with
  | none => simp
  | some here =>
      cases surface.domainY.visible? viewport.y with
      | none => simp
      | some there => simp

/-- It is enough that a surface is sampled over the right rectangle. -/
theorem SurfaceGraph.respects_of_sampled
    (sampled : ∀ x y, surface.domain? viewport = some (x, y) →
      surface.domainX.Fills viewport.x x ∧ surface.domainY.Fills viewport.y y)
    (hidden : surface.domain? viewport = none ↔
      surface.domainX.Narrow viewport.x ∨ surface.domainY.Narrow viewport.y) :
    surface.Respects viewport where
  sampled := sampled
  drawn := hidden.mp
  unread := by
    intro other agree
    have unmoved : ({ surface with height := other } : SurfaceGraph Rat).domain? viewport =
        surface.domain? viewport := rfl
    unfold SurfaceGraph.mesh?
    rw [unmoved]
    cases shown : surface.domain? viewport with
    | none => rfl
    | some domains =>
        obtain ⟨x, y⟩ := domains
        obtain ⟨shownX, shownY⟩ := SurfaceGraph.domain_eq_some_iff.mp shown
        obtain ⟨fillsX, fillsY⟩ := sampled x y shown
        apply bind_congr
        intro resolution
        rw [SurfaceMesh.of_function_congr (DomainText.visible_proper shownX).le
          (DomainText.visible_proper shownY).le]
        intro here there mem memY
        exact agree here there (fillsX.admits here mem) (fillsY.admits there memY)
  meshed := by
    intro mesh meshed
    unfold SurfaceGraph.mesh? at meshed
    cases shown : surface.domain? viewport with
    | none =>
        simp only [shown] at meshed
        injection meshed with absent
        contradiction
    | some domains =>
        obtain ⟨x, y⟩ := domains
        simp only [shown] at meshed
        obtain ⟨resolution, _, meshed⟩ := bind_eq_ok_iff.mp meshed
        obtain ⟨made, isMade, meshed⟩ := bind_eq_ok_iff.mp meshed
        injection meshed with same
        injection same with same
        subst same
        obtain ⟨shownX, shownY⟩ := SurfaceGraph.domain_eq_some_iff.mp shown
        obtain ⟨fillsX, fillsY⟩ := sampled x y shown
        exact SurfaceMesh.within_of_function (DomainText.visible_proper shownX).le
          (DomainText.visible_proper shownY).le fillsX.admits fillsY.admits isMade
  plotted := by
    intro plot plotted
    unfold Tikz.surfacePlot at plotted
    cases shown : surface.domain? viewport with
    | none =>
        simp only [shown] at plotted
        injection plotted with same
        subst same
        trivial
    | some domains =>
        obtain ⟨x, y⟩ := domains
        simp only [shown] at plotted
        obtain ⟨color, _, plotted⟩ := bind_eq_ok_iff.mp plotted
        obtain ⟨fillsX, fillsY⟩ := sampled x y shown
        cases converted : surface.formula.convert Pgfmath.surface with
        | ok expression =>
            simp only [converted] at plotted
            injection plotted with same
            subst same
            exact ⟨fillsX.admits, fillsY.admits⟩
        | error fault =>
            simp only [converted] at plotted
            obtain ⟨mesh, lifted, plotted⟩ := bind_eq_ok_iff.mp plotted
            injection plotted with same
            subst same
            obtain ⟨shownX, shownY⟩ := SurfaceGraph.domain_eq_some_iff.mp shown
            have made := lift_eq_ok_iff.mp lifted
            exact SurfaceMesh.within_of_function (DomainText.visible_proper shownX).le
              (DomainText.visible_proper shownY).le fillsX.admits fillsY.admits made
  skipped := by
    intro narrow
    have shown := hidden.mpr narrow
    refine ⟨shown, ?_, ?_⟩
    · simp only [SurfaceGraph.mesh?, shown]
    · simp only [Tikz.surfaceLines, Tikz.surfacePlot, shown]
      rfl

theorem SurfaceGraph.respects_iff (properX : viewport.x.lo < viewport.x.hi)
    (properY : viewport.y.lo < viewport.y.hi) (inOrderX : surface.domainX.InOrder)
    (inOrderY : surface.domainY.InOrder) :
    surface.Respects viewport ↔ ((surface.domain? viewport).isSome = true →
      ¬surface.domainX.Stranded viewport.x ∧ ¬surface.domainY.Stranded viewport.y) := by
  constructor
  · intro respects shown
    obtain ⟨⟨x, y⟩, shown⟩ := Option.isSome_iff_exists.mp shown
    obtain ⟨shownX, shownY⟩ := SurfaceGraph.domain_eq_some_iff.mp shown
    obtain ⟨fillsX, fillsY⟩ := respects.sampled x y shown
    exact ⟨DomainText.afloat_of_fills properX shownX fillsX,
      DomainText.afloat_of_fills properY shownY fillsY⟩
  · intro afloat
    have drawn : surface.domain? viewport = none →
        surface.domainX.Narrow viewport.x ∨ surface.domainY.Narrow viewport.y := by
      intro hidden
      exact (SurfaceGraph.domain_eq_none_iff.mp hidden).imp
        (DomainText.narrow_of_hidden properX inOrderX)
        (DomainText.narrow_of_hidden properY inOrderY)
    cases shown : surface.domain? viewport with
    | none =>
        apply SurfaceGraph.respects_of_sampled
        · intro x y some
          rw [shown] at some
          contradiction
        · exact ⟨drawn, fun _ => shown⟩
    | some domains =>
        rw [shown] at afloat
        obtain ⟨afloatX, afloatY⟩ := afloat rfl
        apply SurfaceGraph.respects_of_sampled
        · intro x y some
          obtain ⟨shownX, shownY⟩ := SurfaceGraph.domain_eq_some_iff.mp some
          exact ⟨DomainText.visible_fills properX inOrderX afloatX shownX,
            DomainText.visible_fills properY inOrderY afloatY shownY⟩
        · refine ⟨drawn, ?_⟩
          intro narrow
          exact SurfaceGraph.domain_eq_none_iff.mpr (narrow.imp
            (DomainText.visible_of_narrow properX inOrderX afloatX)
            (DomainText.visible_of_narrow properY inOrderY afloatY))

/-- Declared domains are respected unless one is stranded; a stranded domain of a surface does no
harm where the other axis shows nothing. -/
theorem declared_domains_respected_iff (viewport : Viewport Rat) (space : Viewport3D Rat) :
    (∀ (graph : Graph Rat) (function : Rat → Option Rat),
      graph.shape = .curve function → viewport.x.lo < viewport.x.hi → graph.domain.InOrder →
        (graph.Respects viewport ↔ ¬graph.domain.Stranded viewport.x)) ∧
    ∀ surface : SurfaceGraph Rat,
      space.x.lo < space.x.hi → space.y.lo < space.y.hi →
        surface.domainX.InOrder → surface.domainY.InOrder →
          (surface.Respects space ↔ ((surface.domain? space).isSome = true →
            ¬surface.domainX.Stranded space.x ∧ ¬surface.domainY.Stranded space.y)) := by
  constructor
  · intro graph function isCurve proper inOrder
    exact Graph.respects_iff isCurve proper inOrder
  · intro surface properX properY inOrderX inOrderY
    exact SurfaceGraph.respects_iff properX properY inOrderX inOrderY

/-- The place of formulas that are not read from a text. -/
def unread : Span := ⟨.start, .start⟩

/-- The identity over a declared domain. -/
def lineOver (domain : DomainText) : Graph Rat where
  raw := "x"
  appearance := {}
  domain := domain
  formula := .symbol unread "x"
  shape := .curve some

def productOver (domainX domainY : DomainText) : SurfaceGraph Rat where
  raw := "x*y"
  appearance := {}
  domainX := domainX
  domainY := domainY
  formula := .binary unread .star (.symbol unread "x") (.symbol unread "y")
  height x y := some (x * y)

theorem standard_proper : (Interval.standard : Interval Rat).lo < Interval.standard.hi := by
  decide +kernel

theorem bounded_domains_respected :
    (lineOver ⟨"0", "5"⟩).Respects .standard ∧
      (productOver ⟨"0", ""⟩ ⟨"", "40"⟩).Respects .standard := by
  obtain ⟨curves, surfaces⟩ := declared_domains_respected_iff .standard .standard
  have inOrder : DomainText.InOrder ⟨"0", "5"⟩ ∧ DomainText.InOrder ⟨"0", ""⟩ ∧
      DomainText.InOrder ⟨"", "40"⟩ := by decide +kernel
  have afloat : ¬DomainText.Stranded ⟨"0", "5"⟩ .standard ∧
      ¬DomainText.Stranded ⟨"0", ""⟩ .standard ∧ ¬DomainText.Stranded ⟨"", "40"⟩ .standard := by
    decide +kernel
  constructor
  · apply (curves (lineOver ⟨"0", "5"⟩) some rfl standard_proper inOrder.1).mpr
    exact afloat.1
  · apply (surfaces (productOver ⟨"0", ""⟩ ⟨"", "40"⟩) standard_proper standard_proper
      inOrder.2.1 inOrder.2.2).mpr
    intro _
    exact afloat.2

/-- An upper end to the left of everything visible does not hide a curve by itself. -/
theorem open_lower_end_drawn :
    DomainText.InOrder ⟨"", "-20"⟩ ∧
      (∀ place, Interval.standard.contains place = true →
        ¬DomainText.Admits ⟨"", "-20"⟩ place) ∧
      (lineOver ⟨"", "-20"⟩).trace .standard ≠ .ok .outside ∧
      Tikz.graphLines (lineOver ⟨"", "-20"⟩) .standard ≠ .ok [Tikz.skippedLine "x"] := by
  have start : (Interval.standard : Interval Rat).lo = -10 := by decide +kernel
  have upper : DomainText.upper? ⟨"", "-20"⟩ = some (-20) := by decide +kernel
  have stranded : DomainText.Stranded ⟨"", "-20"⟩ .standard := by decide +kernel
  obtain ⟨common, shown, _⟩ := DomainText.visible_of_stranded standard_proper stranded
  have visible : (lineOver ⟨"", "-20"⟩).domain.visible? (Viewport.standard : Viewport Rat).x =
      some common := shown
  refine ⟨by decide +kernel, ?_, ?_, ?_⟩
  · intro place seen admitted
    have left : place ≤ -20 := admitted.2 (-20) upper
    have right := (Interval.contains_iff.mp seen).1
    linarith
  · intro outside
    rw [Graph.trace_of_visible (show (lineOver _).shape = .curve some from rfl) visible] at outside
    unfold Trace.ofCurve at outside
    obtain ⟨count, _, found⟩ := bind_eq_ok_iff.mp outside
    injection found with found
    contradiction
  · intro skipped
    have converted : (lineOver ⟨"", "-20"⟩).formula.convert Pgfmath.curve = .ok "\\x" := by
      decide +kernel
    obtain ⟨plot, plotted, lines⟩ := bind_eq_ok_iff.mp skipped
    simp only [Tikz.plot, visible, converted] at plotted
    obtain ⟨style, _, plotted⟩ := bind_eq_ok_iff.mp plotted
    obtain ⟨count, _, plotted⟩ := bind_eq_ok_iff.mp plotted
    injection plotted with plotted
    subst plotted
    unfold Tikz.plotLines at lines
    obtain ⟨lo, _, lines⟩ := bind_eq_ok_iff.mp lines
    obtain ⟨hi, _, lines⟩ := bind_eq_ok_iff.mp lines
    injection lines with lines
    injection lines with _ more
    contradiction

end FormulaPlot
