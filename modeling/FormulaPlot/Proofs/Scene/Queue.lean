import FormulaPlot.Proofs.Numeric.Counts
import FormulaPlot.Proofs.Numeric.Order
import FormulaPlot.Scene.Painter

/-!
A painter as a queue. Whatever is asked of it in whatever order, it keeps exactly the primitives
whose corners all have pictures, and at any moment it hands all of them out from far to near, those
of one depth in the order in which they were added. The order is only lost where a depth is the
mean of infinities of both signs.
-/

namespace FormulaPlot

open FormulaPlot.Binary64

set_option autoImplicit false

/-! Stable orders -/

/-- The same items by ascending depth, those of one depth in their old order. Nothing is said of the
order where a depth is undefined. -/
structure FarToNear {item : Type} (depth : item → Float) (added painted : List item) : Prop where
  perm : painted.Perm added
  ascending : (∀ one ∈ added, IsDefined (depth one)) →
    painted.Pairwise fun far near => depth far ≤ depth near
  stable : (∀ one ∈ added, IsDefined (depth one)) → ∀ level,
    painted.filter (fun one => depth one == level) = added.filter fun one => depth one == level

section Sorting

variable {item key : Type} [LinearOrder key] (rank : item → key)

/-- Items are compared by a key. -/
def byRank (first second : item) : Bool := decide (rank first ≤ rank second)

theorem by_rank_trans (first second third : item) (one : byRank rank first second = true)
    (other : byRank rank second third = true) : byRank rank first third = true :=
  decide_eq_true ((of_decide_eq_true one).trans (of_decide_eq_true other))

theorem by_rank_total (first second : item) :
    (byRank rank first second || byRank rank second first) = true := by
  simpa [byRank] using le_total (rank first) (rank second)

theorem pairwise_merge_sort (items : List item) :
    (items.mergeSort (byRank rank)).Pairwise fun first second => rank first ≤ rank second :=
  (List.pairwise_mergeSort (by_rank_trans rank) (by_rank_total rank) items).imp of_decide_eq_true

/-- Sorting by a key keeps the order of the items with one key. -/
theorem filter_merge_sort (items : List item) (level : key) :
    (items.mergeSort (byRank rank)).filter (fun one => rank one == level) =
      items.filter fun one => rank one == level := by
  have sorted := List.mergeSort_perm items (byRank rank)
  have alike : (items.filter fun one => rank one == level).Pairwise
      fun first second => byRank rank first second = true := by
    refine List.pairwise_of_forall_mem_list ?_
    intro first one second other
    have same : rank first = level := beq_iff_eq.mp (List.mem_filter.mp one).2
    have also : rank second = level := beq_iff_eq.mp (List.mem_filter.mp other).2
    rw [byRank, decide_eq_true_iff, same, also]
  have kept := (List.sublist_mergeSort (by_rank_trans rank) (by_rank_total rank) alike
    List.filter_sublist).filter fun one => rank one == level
  rw [List.filter_filter] at kept
  simp only [Bool.and_self] at kept
  exact (kept.eq_of_length (sorted.filter _).length_eq.symm).symm

end Sorting

/-- Defined depths are sorted as their places are. -/
theorem far_to_near {item : Type} (depth : item → Float) (items : List item) :
    FarToNear depth items
      (items.mergeSort fun first second => Painter.notBehind (depth first) (depth second)) := by
  have byPlace (defined : ∀ one ∈ items, IsDefined (depth one)) :
      (items.mergeSort fun first second => Painter.notBehind (depth first) (depth second)) =
        items.mergeSort (byRank fun one => place (depth one)) := by
    have alike : ∀ first ∈ items, ∀ second ∈ items,
        Painter.notBehind (depth first) (depth second) =
          byRank (fun one => place (depth one)) (id first) (id second) := by
      intro first one second other
      have behind := lt_iff_place (defined second other) (defined first one)
      rw [Painter.notBehind, byRank, ← decide_not, decide_eq_decide, ← not_lt]
      exact not_congr behind
    simpa only [List.map_id] using List.map_mergeSort alike
  refine ⟨List.mergeSort_perm _ _, ?_, ?_⟩
  · intro defined
    rw [byPlace defined]
    refine (pairwise_merge_sort (fun one => place (depth one)) items).imp_of_mem ?_
    intro far near one other below
    exact (le_iff_place (defined far (List.mem_mergeSort.mp one))
      (defined near (List.mem_mergeSort.mp other))).mpr below
  · intro defined level
    by_cases undefined : ¬IsDefined level
    · simp only [beq_undefined undefined, List.filter_false]
    · have atLevel : ∀ one ∈ items,
          (depth one == level) = (place (depth one) == place level) := by
        intro one mem
        rw [Bool.eq_iff_iff, beq_iff_place (defined one mem) (not_not.mp undefined), beq_iff_eq]
      rw [byPlace defined, List.filter_congr atLevel, List.filter_congr fun one mem =>
        atLevel one (List.mem_mergeSort.mp mem)]
      exact filter_merge_sort (fun one => place (depth one)) items (place level)

namespace Painter

/-! Requests -/

/-- What may be asked of a painter. -/
inductive Request where
  | segment (first second : Point3D Float) (style : Style)
  | face (corners : Quad (Point3D Float)) (fill : Datum) (alpha : Float)
  | ordered

/-- Whether a primitive was added, or all primitives in the order to paint them. -/
inductive Answer where
  | added (shown : Bool)
  | painted (faces : List (PaintedFace Float)) (segments : List (PaintedSegment Float))

def serve (painter : Painter Float) : Request → Answer × Painter Float
  | .segment first second style =>
      let (shown, next) := painter.addSegment first second style
      (.added shown, next)
  | .face corners fill alpha =>
      let (shown, next) := painter.addFace corners fill alpha
      (.added shown, next)
  | .ordered => (.painted painter.orderedFaces painter.orderedSegments, painter)

/-- The answers to requests that are made one after the other, and the painter after them. -/
def serveAll (painter : Painter Float) : List Request → List Answer × Painter Float
  | [] => ([], painter)
  | request :: rest =>
      let (answer, next) := painter.serve request
      let (answers, last) := next.serveAll rest
      (answer :: answers, last)

/-- What a queue of faces and segments answers to a request, and what it holds afterwards. -/
inductive Served (project : Projector Float) (faces : List (PaintedFace Float))
    (segments : List (PaintedSegment Float)) :
    Request → Answer → List (PaintedFace Float) → List (PaintedSegment Float) → Prop where
  | segment {first second : Point3D Float} {one other : ScreenPoint Float} (style : Style) :
      project first = some one → project second = some other →
      Served project faces segments (.segment first second style) (.added true) faces
        (segments ++ [⟨one, other, segmentDepth one other, style⟩])
  | hiddenSegment {first second : Point3D Float} (style : Style) :
      project first = none ∨ project second = none →
      Served project faces segments (.segment first second style) (.added false) faces segments
  | face {corners : Quad (Point3D Float)} {pictures : Quad (ScreenPoint Float)} (fill : Datum)
      (alpha : Float) :
      project corners.first = some pictures.first →
      project corners.second = some pictures.second →
      project corners.third = some pictures.third →
      project corners.fourth = some pictures.fourth →
      Served project faces segments (.face corners fill alpha) (.added true)
        (faces ++ [⟨pictures, faceDepth pictures, fill, alpha⟩]) segments
  | hiddenFace {corners : Quad (Point3D Float)} (fill : Datum) (alpha : Float) :
      (∃ corner ∈ corners.toList, project corner = none) →
      Served project faces segments (.face corners fill alpha) (.added false) faces segments
  | ordered {painted : List (PaintedFace Float)} {drawn : List (PaintedSegment Float)} :
      FarToNear PaintedFace.depth faces painted → FarToNear PaintedSegment.depth segments drawn →
      Served project faces segments .ordered (.painted painted drawn) faces segments

/-- What a queue answers to requests one after the other, and what it holds at the end. -/
inductive ServedAll (project : Projector Float) :
    List (PaintedFace Float) → List (PaintedSegment Float) → List Request → List Answer →
    List (PaintedFace Float) → List (PaintedSegment Float) → Prop where
  | done (faces : List (PaintedFace Float)) (segments : List (PaintedSegment Float)) :
      ServedAll project faces segments [] [] faces segments
  | next {faces held final : List (PaintedFace Float)}
      {segments kept last : List (PaintedSegment Float)} {request : Request} {answer : Answer}
      {rest : List Request} {answers : List Answer} :
      Served project faces segments request answer held kept →
      ServedAll project held kept rest answers final last →
      ServedAll project faces segments (request :: rest) (answer :: answers) final last

/-! Runs -/

theorem face_cases (project : Projector Float) (corners : Quad (Point3D Float)) (fill : Datum)
    (alpha : Float) :
    (∃ pictures : Quad (ScreenPoint Float), project corners.first = some pictures.first ∧
        project corners.second = some pictures.second ∧
        project corners.third = some pictures.third ∧
        project corners.fourth = some pictures.fourth ∧
        face? project corners fill alpha = some ⟨pictures, faceDepth pictures, fill, alpha⟩) ∨
      (∃ corner ∈ corners.toList, project corner = none) ∧
        face? project corners fill alpha = none := by
  unfold face?
  rcases (project corners.first).eq_none_or_eq_some with hidden | ⟨first, one⟩
  · exact .inr ⟨⟨_, by simp [Quad.toList], hidden⟩, by rw [hidden]⟩
  rcases (project corners.second).eq_none_or_eq_some with hidden | ⟨second, two⟩
  · exact .inr ⟨⟨_, by simp [Quad.toList], hidden⟩, by rw [one, hidden]⟩
  rcases (project corners.third).eq_none_or_eq_some with hidden | ⟨third, three⟩
  · exact .inr ⟨⟨_, by simp [Quad.toList], hidden⟩, by rw [one, two, hidden]⟩
  rcases (project corners.fourth).eq_none_or_eq_some with hidden | ⟨fourth, four⟩
  · exact .inr ⟨⟨_, by simp [Quad.toList], hidden⟩, by rw [one, two, three, hidden]⟩
  exact .inl ⟨⟨first, second, third, fourth⟩, one, two, three, four, by
    rw [one, two, three, four]⟩

/-- A request is answered as by a queue and does not change the projector. -/
theorem serve_served (painter : Painter Float) (request : Request) :
    (painter.serve request).2.project = painter.project ∧
      Served painter.project painter.faces.toList painter.segments.toList request
        (painter.serve request).1 (painter.serve request).2.faces.toList
        (painter.serve request).2.segments.toList := by
  cases request with
  | segment first second style =>
      simp only [serve, addSegment, segment?]
      rcases (painter.project first).eq_none_or_eq_some with hidden | ⟨here, one⟩
      · rw [hidden]
        exact ⟨rfl, .hiddenSegment style (.inl hidden)⟩
      rcases (painter.project second).eq_none_or_eq_some with hidden | ⟨there, other⟩
      · rw [one, hidden]
        exact ⟨rfl, .hiddenSegment style (.inr hidden)⟩
      rw [one, other, Array.toList_push]
      exact ⟨rfl, .segment style one other⟩
  | face corners fill alpha =>
      simp only [serve, addFace]
      rcases face_cases painter.project corners fill alpha with
        ⟨pictures, one, two, three, four, shown⟩ | ⟨missing, hidden⟩
      · rw [shown, Array.toList_push]
        exact ⟨rfl, .face fill alpha one two three four⟩
      · rw [hidden]
        exact ⟨rfl, .hiddenFace fill alpha missing⟩
  | ordered => exact ⟨rfl, .ordered (far_to_near _ _) (far_to_near _ _)⟩

theorem serve_all_served (painter : Painter Float) (requests : List Request) :
    (painter.serveAll requests).2.project = painter.project ∧
      ServedAll painter.project painter.faces.toList painter.segments.toList requests
        (painter.serveAll requests).1 (painter.serveAll requests).2.faces.toList
        (painter.serveAll requests).2.segments.toList := by
  induction requests generalizing painter with
  | nil => exact ⟨rfl, .done _ _⟩
  | cons request rest ih =>
      obtain ⟨same, served⟩ := serve_served painter request
      obtain ⟨also, after⟩ := ih (painter.serve request).2
      rw [same] at also after
      exact ⟨also, .next served after⟩

/-! Depths -/

/-- No primitive has an undefined depth. -/
structure AllDefined (faces : List (PaintedFace Float)) (segments : List (PaintedSegment Float)) :
    Prop where
  faces : ∀ face ∈ faces, IsDefined face.depth
  segments : ∀ segment ∈ segments, IsDefined segment.depth

theorem segment_depth_defined {one other : ScreenPoint Float} (here : one.depth.isFinite = true)
    (there : other.depth.isFinite = true) : IsDefined (segmentDepth one other) :=
  mul_defined (add_defined (defined_of_finite here) there) half_opened

theorem face_depth_defined {pictures : Quad (ScreenPoint Float)}
    (finite : ∀ picture ∈ pictures.toList, picture.depth.isFinite = true) :
    IsDefined (faceDepth pictures) := by
  have quarter : opened 0.25 = .finite .positive (2 ^ 52) (-54) (by decide) := rfl
  simp only [Quad.toList, List.forall_mem_cons] at finite
  obtain ⟨one, two, three, four, _⟩ := finite
  have started : IsDefined (Scalar.zero + pictures.first.depth) :=
    add_defined (defined_of_finite rfl) one
  exact mul_defined (add_defined (add_defined (add_defined started two) three) four) quarter

section Finite

variable {project : Projector Float}
  (finite : ∀ point picture, project point = some picture → picture.depth.isFinite = true)
include finite

theorem Served.defined {faces held : List (PaintedFace Float)}
    {segments kept : List (PaintedSegment Float)} {request : Request} {answer : Answer}
    (served : Served project faces segments request answer held kept)
    (before : AllDefined faces segments) : AllDefined held kept := by
  cases served with
  | segment style one other =>
      refine ⟨before.faces, ?_⟩
      intro segment mem
      rcases List.mem_append.mp mem with old | new
      · exact before.segments segment old
      · rw [List.mem_singleton.mp new]
        exact segment_depth_defined (finite _ _ one) (finite _ _ other)
  | hiddenSegment => exact before
  | face fill alpha one two three four =>
      refine ⟨?_, before.segments⟩
      intro face mem
      rcases List.mem_append.mp mem with old | new
      · exact before.faces face old
      · rw [List.mem_singleton.mp new]
        apply face_depth_defined
        simp only [Quad.toList, List.forall_mem_cons]
        exact ⟨finite _ _ one, finite _ _ two, finite _ _ three, finite _ _ four, nofun⟩
  | hiddenFace => exact before
  | ordered => exact before

theorem ServedAll.defined {faces final : List (PaintedFace Float)}
    {segments last : List (PaintedSegment Float)} {requests : List Request}
    {answers : List Answer}
    (served : ServedAll project faces segments requests answers final last)
    (before : AllDefined faces segments) : AllDefined final last := by
  induction served with
  | done => exact before
  | next served _ ih => exact ih (served.defined finite before)

end Finite

/-- The depths that primitives are added with are means, in exact arithmetic. -/
theorem depths_are_means :
    (∀ one other : ScreenPoint Rat, segmentDepth one other = (one.depth + other.depth) / 2) ∧
      ∀ pictures : Quad (ScreenPoint Rat), faceDepth pictures = (pictures.first.depth +
        pictures.second.depth + pictures.third.depth + pictures.fourth.depth) / 4 := by
  constructor
  · intro one other
    show (one.depth + other.depth) * (0.5 : Rat) = _
    norm_num
    ring
  · intro pictures
    show ((0.0 : Rat) + pictures.first.depth + pictures.second.depth + pictures.third.depth +
      pictures.fourth.depth) * (0.25 : Rat) = _
    norm_num
    ring

/-- Whatever is asked of a painter, it answers as a queue does: it keeps each primitive whose
corners all have pictures, at the mean of their depths, and no others, and hands out what it has
from far to near. No depth is undefined where those of all pictures are finite. -/
theorem painter_is_faithful_queue (project : Projector Float) (requests : List Request) :
    ((∀ one other : ScreenPoint Rat, segmentDepth one other = (one.depth + other.depth) / 2) ∧
      ∀ pictures : Quad (ScreenPoint Rat), faceDepth pictures = (pictures.first.depth +
        pictures.second.depth + pictures.third.depth + pictures.fourth.depth) / 4) ∧
    ∃ faces segments,
      ServedAll project [] [] requests ((ofProjector project).serveAll requests).1 faces segments ∧
      ((ofProjector project).serveAll requests).2 = ⟨project, faces.toArray, segments.toArray⟩ ∧
      ((∀ point picture, project point = some picture → picture.depth.isFinite = true) →
        AllDefined faces segments) := by
  obtain ⟨same, served⟩ := serve_all_served (ofProjector project) requests
  refine ⟨depths_are_means, _, _, served, ?_, ?_⟩
  · rw [Array.toArray_toList, Array.toArray_toList]
    exact congrArg (fun kept => Painter.mk kept _ _) same
  · intro finite
    exact served.defined finite ⟨nofun, nofun⟩

/-- Points seen from above, as far as their height is defined. -/
def fromAbove : Projector Float := fun point =>
  if point.z.isNaN then none else some ⟨point.x, point.y, point.z⟩

def upright (low high : Float) : Request :=
  .segment ⟨0.0, 0.0, low⟩ ⟨0.0, 0.0, high⟩ { color := .text "#000000", width := 1.0 }

/-- What is painted of an upright segment seen from above. -/
def shaft (low high : Float) : PaintedSegment Float :=
  ⟨⟨0.0, 0.0, low⟩, ⟨0.0, 0.0, high⟩, (low + high) * 0.5,
    { color := .text "#000000", width := 1.0 }⟩

def endless : Float × Float := (positiveInfinity, -positiveInfinity)

theorem from_above_defined (point : Point3D Float) (picture : ScreenPoint Float)
    (seen : fromAbove point = some picture) : IsDefined picture.depth := by
  unfold fromAbove at seen
  split at seen
  · contradiction
  · next defined =>
      injection seen with same
      rw [← same]
      exact Bool.eq_false_of_not_eq_true defined

/-- Four items are in order if both halves are, and nothing of the first one has to give way. -/
theorem merge_sort_four {item : Type} (le : item → item → Bool) (one two three four : item)
    (first : le one two = true) (last : le three four = true) (across : le one three = true)
    (middle : le two three = true) :
    [one, two, three, four].mergeSort le = [one, two, three, four] := by
  simp [List.mergeSort, first, last, across, middle]

/-- Two segments between opposite infinities keep a near segment in front of a far one. -/
theorem opposite_infinities_break_order :
    (∀ point picture, fromAbove point = some picture → IsDefined picture.depth) ∧
      ((ofProjector fromAbove).serveAll [upright 1.0 1.0, upright endless.1 endless.2,
        upright endless.1 endless.2, upright 0.0 0.0, .ordered]).1.getLast? =
          some (.painted [] [shaft 1.0 1.0, shaft endless.1 endless.2,
            shaft endless.1 endless.2, shaft 0.0 0.0]) ∧
      ¬[shaft 1.0 1.0, shaft endless.1 endless.2, shaft endless.1 endless.2,
        shaft 0.0 0.0].Pairwise fun far near => far.depth ≤ near.depth := by
  refine ⟨from_above_defined, ?_, by decide +kernel⟩
  have kept := merge_sort_four
    (fun first second : PaintedSegment Float => notBehind first.depth second.depth)
    (shaft 1.0 1.0) (shaft endless.1 endless.2) (shaft endless.1 endless.2) (shaft 0.0 0.0)
    (by decide +kernel) (by decide +kernel) (by decide +kernel) (by decide +kernel)
  show some (Answer.painted (List.mergeSort [] _) (List.mergeSort [shaft 1.0 1.0,
    shaft endless.1 endless.2, shaft endless.1 endless.2, shaft 0.0 0.0] _)) = _
  rw [kept, List.mergeSort_nil]

end Painter

end FormulaPlot
