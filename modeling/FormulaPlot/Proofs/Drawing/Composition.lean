import FormulaPlot.Proofs.Drawing.Calls
import FormulaPlot.Proofs.Formula.Outcome
import FormulaPlot.Proofs.Numeric.Order

/-!
Drawing of valid scenes. A pen that has the layers of scenes accepts every style with a colour and a
positive width, so that a picture is drawn with one call for each primitive, in the primitive's own
style, and the entities of a drawing are those of its scenes one after the other.
-/

namespace FormulaPlot

set_option autoImplicit false

/-! Valid scenes -/

/-- A style on a layer of scenes, with a colour and a positive width. -/
structure Style.Valid (style : Style) : Prop where
  layer : style.layer ∈ Layer.all
  color : ∃ ink, Ink.ofDatum? style.color = some ink
  width : 0.0 < style.width

/-- A colour, and an opacity between clear and solid. -/
structure PaintedFace.Valid (face : PaintedFace Float) : Prop where
  fill : ∃ ink, Ink.ofDatum? face.fill = some ink
  alpha : 0.0 ≤ face.alpha ∧ face.alpha ≤ 1.0

structure Label.Valid (label : Label Float) : Prop where
  layer : label.layer ∈ Layer.all
  color : ∃ color, Color.required label.color = .ok color

def Style.look? (style : Style) : Option Look :=
  (Ink.ofDatum? style.color).map fun ink =>
    .stroked (.text style.layer) ink style.width style.dashed

namespace Primitive

def Valid : Primitive → Prop
  | polyline line => line.style.Valid
  | face _ area => area.Valid
  | segment _ line => line.style.Valid
  | label name => name.Valid
  | refused _ => False

/-- The call for a primitive: its mark in its own style, if it has a colour. -/
def call? : Primitive → Option Call
  | polyline line => line.style.look?.map fun look => ⟨look, .polyline line.points⟩
  | face height area => (Ink.ofDatum? area.fill).map fun ink =>
      ⟨.filled (.text Layer.surfaces) ink area.alpha,
        .polygon (area.corners.toList.map (SpaceScene.uprightPicture height))⟩
  | segment height line => line.style.look?.map fun look =>
      ⟨look, .line (SpaceScene.uprightPicture height line.first)
        (SpaceScene.uprightPicture height line.second)⟩
  | label name => some ⟨.lettered (.text name.layer) false none,
      .text name.text name.position Mark.standardAlign name.attributes⟩
  | refused _ => none

end Primitive

/-- A picture of scenes in valid styles. Scenes that are built of graphs are in valid styles if the
graphs have colours and positive widths. -/
def Picture.Valid (picture : Picture) : Prop := ∀ primitive ∈ picture.primitives, primitive.Valid

/-- The layers of scenes are among those of the pen. -/
def Pen.HasSceneLayers (pen : Pen) : Prop := ∀ name ∈ Layer.all, Datum.text name ∈ pen.layers

section Valid

variable {pen : Pen}

theorem Pen.set_layer_of_mem {name : String} (listed : Datum.text name ∈ pen.layers) :
    pen.setLayer (.text name) = .ok { pen with layer := .text name } := by
  have found : pen.layers.any (Datum.text name).agrees = true :=
    List.any_eq_true.mpr ⟨_, listed, by simp [Datum.agrees]⟩
  rw [Pen.setLayer, if_pos found]

theorem Pen.take_of_valid (layers : pen.HasSceneLayers) {style : Style} (valid : style.Valid) :
    ∃ left, pen.take style = .ok left ∧ ∃ ink, Ink.ofDatum? style.color = some ink ∧
      left = { pen with
        layer := .text style.layer
        lineColor := ink
        lineWidth := style.width
        dashed := style.dashed } := by
  obtain ⟨ink, color⟩ := valid.color
  refine ⟨_, ?_, ink, color, rfl⟩
  simp only [take, set_layer_of_mem (layers _ valid.layer), bind, Except.bind, setLineColor, color,
    setLineWidth, if_neg (Binary64.positive_iff.mp valid.width).2, setDashed]

theorem Pen.take_fill_of_valid (layers : pen.HasSceneLayers) {face : PaintedFace Float}
    (valid : face.Valid) :
    ∃ left, SpaceScene.takeFill pen face = .ok left ∧
      ∃ ink, Ink.ofDatum? face.fill = some ink ∧
        left = { pen with
          layer := .text Layer.surfaces
          fillColor := ink
          fillAlpha := face.alpha } := by
  obtain ⟨ink, color⟩ := valid.fill
  refine ⟨_, ?_, ink, color, rfl⟩
  have listed := layers Layer.surfaces (by decide)
  simp only [SpaceScene.takeFill, set_layer_of_mem listed, bind, Except.bind, setFillColor, color,
    setFillAlpha, if_pos valid.alpha]

/-- A valid primitive is drawn with its own call. -/
theorem Primitive.alone_of_valid {primitive : Primitive} (layers : pen.HasSceneLayers)
    (valid : primitive.Valid) :
    ∃ call, primitive.call? = some call ∧ primitive.alone pen.layers = .ok [call] := by
  have fresh : (Pen.ofLayers pen.layers).HasSceneLayers := layers
  cases primitive with
  | polyline line =>
      obtain ⟨left, set, ink, color, same⟩ := Pen.take_of_valid fresh valid
      refine ⟨_, by rw [call?, Style.look?, color]; rfl, ?_⟩
      rw [alone, draw, Polyline.draw, calls_mark, set, same]
      rfl
  | face height area =>
      obtain ⟨left, set, ink, color, same⟩ := Pen.take_fill_of_valid fresh valid
      refine ⟨_, by rw [call?, color]; rfl, ?_⟩
      rw [alone, draw, SpaceScene.drawFace, calls_mark, set, same]
      rfl
  | segment height line =>
      obtain ⟨left, set, ink, color, same⟩ := Pen.take_of_valid fresh valid
      refine ⟨_, by rw [call?, Style.look?, color]; rfl, ?_⟩
      rw [alone, draw, SpaceScene.drawSegment, calls_mark, set, same]
      rfl
  | label name =>
      refine ⟨_, rfl, ?_⟩
      -- a fresh pen is not dashed
      show (name.draw (.ofLayers pen.layers)).calls = _
      rw [Label.draw, calls_mark, Pen.set_layer_of_mem (fresh _ valid.layer)]
      rfl
  | refused value => exact valid.elim

/-- A stroke has an entity, or none if it is a polyline of one point, unless it is a text whose
colour is none. -/
theorem Entity.of_stroke_total [DrawingFormat] {stroke : Stroke}
    (colored : ∀ content position align attributes,
      stroke.mark = .text content position align attributes →
        ∃ color, textColor stroke.pen attributes = .ok color) :
    ∃ entity, ofStroke? stroke = .ok entity := by
  obtain ⟨pen, mark⟩ := stroke
  cases mark with
  | line => exact ⟨_, rfl⟩
  | polyline => exact ⟨_, rfl⟩
  | polygon => exact ⟨_, rfl⟩
  | text content position align attributes =>
      obtain ⟨color, found⟩ : ∃ color, textColor pen attributes = .ok color :=
        colored content position align attributes rfl
      exact ⟨_, by simp only [ofStroke?, found]; rfl⟩

theorem Primitive.entity_of_valid [DrawingFormat] {primitive : Primitive} (valid : primitive.Valid)
    {stroke : Stroke} (asked : primitive.call? = some stroke.call) :
    ∃ entity, Entity.ofStroke? stroke = .ok entity := by
  refine Entity.of_stroke_total ?_
  intro content position align attributes text
  have made : stroke.call.mark = .text content position align attributes := text
  cases primitive with
  | polyline line =>
      obtain ⟨_, _, same⟩ := Option.map_eq_some_iff.mp asked
      rw [← same] at made
      contradiction
  | face height area =>
      obtain ⟨_, _, same⟩ := Option.map_eq_some_iff.mp asked
      rw [← same] at made
      contradiction
  | segment height line =>
      obtain ⟨_, _, same⟩ := Option.map_eq_some_iff.mp asked
      rw [← same] at made
      contradiction
  | label name =>
      injection asked with same
      rw [← same] at made
      injection made with _ _ _ own
      obtain ⟨color, required⟩ := valid.color
      have first : Entity.attribute? attributes "color" = some name.color := by
        rw [← own]
        rfl
      exact ⟨some color, by rw [Entity.textColor, first]; simp [required, Except.map]⟩
  | refused value => exact valid.elim

end Valid

/-! Pictures -/

theorem map_eq_of_alone {pen : Pen} {primitives : List Primitive} {calls : List Call}
    (layers : pen.HasSceneLayers) (valid : ∀ primitive ∈ primitives, primitive.Valid)
    (made : collect (Primitive.alone pen.layers) primitives = .ok calls) :
    calls.map some = primitives.map Primitive.call? := by
  induction primitives generalizing calls with
  | nil =>
      cases made
      rfl
  | cons first rest ih =>
      obtain ⟨call, asked, alone⟩ := Primitive.alone_of_valid layers (valid _ List.mem_cons_self)
      rw [collect_cons, alone] at made
      obtain ⟨more, others, same⟩ := map_eq_ok_iff.mp made
      rw [← same, List.map_cons, asked,
        ← ih (fun one among => valid one (List.mem_cons_of_mem _ among)) others]
      rfl

namespace Picture

variable {picture : Picture}

theorem valid_list {pictures : List Picture} (valid : ∀ picture ∈ pictures, picture.Valid) :
    (list pictures).Valid := by
  induction pictures with
  | nil => exact nofun
  | cons picture rest ih =>
      intro primitive drawn
      rcases List.mem_append.mp drawn with here | there
      · exact valid picture List.mem_cons_self primitive here
      · exact ih (fun other among => valid other (List.mem_cons_of_mem _ among)) primitive there

theorem Valid.leaf (valid : picture.Valid) {leaf : Picture} (among : leaf ∈ picture.leaves) :
    leaf.Valid := by
  intro primitive drawn
  refine valid primitive ?_
  rw [picture.primitives_eq]
  exact List.mem_flatMap.mpr ⟨leaf, among, drawn⟩

/-- A valid picture is drawn, with one call for each primitive. -/
theorem Valid.drawn (valid : picture.Valid) (pen : Pen) (layers : pen.HasSceneLayers) :
    ∃ left strokes, picture.draw pen = .ok (left, strokes) ∧
      strokes.map (fun stroke => some stroke.call) = picture.primitives.map Primitive.call? := by
  obtain ⟨calls, made⟩ := collect_total fun primitive among => by
    obtain ⟨call, _, alone⟩ := Primitive.alone_of_valid layers (valid primitive among)
    exact ⟨[call], alone⟩
  have drawn := picture.draws.calls pen
  rw [made] at drawn
  obtain ⟨⟨left, strokes⟩, ended, same⟩ := map_eq_ok_iff.mp drawn
  refine ⟨left, strokes, ended, ?_⟩
  rw [← map_eq_of_alone layers valid made, ← same, List.map_map]
  rfl

theorem Valid.entities [DrawingFormat] (valid : picture.Valid) {strokes : List Stroke}
    (asked : strokes.map (fun stroke => some stroke.call) =
      picture.primitives.map Primitive.call?) :
    ∃ entities, Entity.ofStrokes strokes = .ok entities := by
  rw [Entity.of_strokes_eq]
  refine collect_total ?_
  intro stroke among
  have mem := List.mem_map_of_mem (f := fun stroke : Stroke => some stroke.call) among
  rw [asked] at mem
  obtain ⟨primitive, drawn, call⟩ := List.mem_map.mp mem
  obtain ⟨entity, made⟩ := Primitive.entity_of_valid (valid primitive drawn) call
  exact ⟨_, by rw [made]; rfl⟩

end Picture

def Drawn.strokes : Drawn → List Stroke
  | .ok (_, strokes) => strokes
  | .error _ => []

/-- A picture makes the calls that its scenes make one after the other, each with a fresh pen. A pen
that has the layers of scenes draws every valid picture, with one call for each primitive in the
primitive's own style, and the entities are those of the scenes one after the other, in every format
of drawings. -/
theorem drawing_is_compositional [DrawingFormat] (pen : Pen) (picture : Picture) :
    (picture.draw pen).calls =
        collect (fun leaf => (leaf.draw (.ofLayers pen.layers)).calls) picture.leaves ∧
      (pen.HasSceneLayers → picture.Valid →
        ∃ left strokes, picture.draw pen = .ok (left, strokes) ∧
          strokes.map (fun stroke => some stroke.call) =
            picture.primitives.map Primitive.call? ∧
          ∃ entities, Entity.ofStrokes strokes = .ok entities ∧
            collect (fun leaf => (leaf.draw (.ofLayers pen.layers)).entities) picture.leaves =
              .ok entities) := by
  refine ⟨picture.calls_eq pen, ?_⟩
  intro layers valid
  obtain ⟨left, strokes, drawn, asked⟩ := valid.drawn pen layers
  obtain ⟨entities, made⟩ := valid.entities asked
  refine ⟨left, strokes, drawn, asked, entities, made, ?_⟩
  let alone (leaf : Picture) : Drawn := leaf.draw (.ofLayers pen.layers)
  have ended : ∀ leaf ∈ picture.leaves,
      ∃ fresh, alone leaf = .ok (fresh, (alone leaf).strokes) := by
    intro leaf among
    obtain ⟨fresh, own, drawn, _⟩ := (valid.leaf among).drawn (.ofLayers pen.layers) layers
    exact ⟨fresh, by rw [show alone leaf = _ from drawn]; rfl⟩
  have calls : strokes.map Stroke.call =
      (picture.leaves.flatMap fun leaf => (alone leaf).strokes).map Stroke.call := by
    have whole := picture.calls_eq pen
    rw [drawn, collect_of_ok fun leaf => (alone leaf).strokes.map Stroke.call] at whole
    · rw [List.map_flatMap]
      exact Except.ok.inj whole
    · intro leaf among
      obtain ⟨fresh, drawn⟩ := ended leaf among
      rw [show leaf.draw (.ofLayers pen.layers) = _ from drawn]
      rfl
  calc collect (fun leaf => (alone leaf).entities) picture.leaves
      = collect (fun leaf => Entity.ofStrokes (alone leaf).strokes) picture.leaves := by
        refine collect_congr fun leaf among => ?_
        obtain ⟨fresh, drawn⟩ := ended leaf among
        rw [drawn]
        rfl
    _ = Entity.ofStrokes (picture.leaves.flatMap fun leaf => (alone leaf).strokes) := by
        simp only [Entity.of_strokes_eq, collect_flatMap]
    _ = .ok entities := by rw [← Entity.of_strokes_congr calls, made]

/-! Two curves and a face -/

def bluePolyline : Polyline Float where
  points := [⟨0.0, 0.0⟩, ⟨1.0, 2.0⟩]
  style := { color := .text "#2563eb", width := 2.0, dashed := true }

def unitLabel : Label Float := { text := "1", position := ⟨1.0, 0.0⟩, height := 12.0 }

def blueFace : PaintedFace Float where
  corners := ⟨⟨0.0, 0.0, 1.0⟩, ⟨4.0, 0.0, 1.0⟩, ⟨4.0, 3.0, 1.0⟩, ⟨0.0, 3.0, 1.0⟩⟩
  depth := 1.0
  fill := .list [.whole 37, .whole 99, .whole 235]
  alpha := 0.24

/-- A line in the colour of its layer. -/
def plainSegment : PaintedSegment Float where
  first := ⟨0.0, 0.0, 1.0⟩
  second := ⟨4.0, 0.0, 1.0⟩
  depth := 1.0
  style := { color := .flag false, width := 1.0, layer := Layer.surfaces }

def curvePicture : Picture :=
  .plane ⟨.standard, ⟨400.0, 300.0⟩, [bluePolyline], [unitLabel]⟩

def facePicture : Picture :=
  .space ⟨.standard, ⟨400.0, 300.0⟩, [blueFace], [plainSegment], []⟩

def nestedPicture : Picture :=
  .list [curvePicture, .list [.list [], facePicture], curvePicture]

/-- A pen that has drawn before. -/
def usedPen : Pen := { Entity.pen with layer := .text Layer.axes, lineWidth := 5.0, dashed := true }

theorem curve_picture_valid : curvePicture.Valid := by
  have line : bluePolyline.style.Valid :=
    ⟨by decide, ⟨.hex "#2563eb", by decide +kernel⟩, by decide⟩
  have name : unitLabel.Valid := ⟨by decide, ⟨_, rfl⟩⟩
  exact List.forall_mem_cons.mpr ⟨line, List.forall_mem_singleton.mpr name⟩

theorem face_picture_valid : facePicture.Valid := by
  have area : blueFace.Valid := ⟨⟨_, rfl⟩, by decide⟩
  have line : plainSegment.style.Valid := ⟨by decide, ⟨_, rfl⟩, by decide⟩
  exact List.forall_mem_cons.mpr ⟨area, List.forall_mem_singleton.mpr line⟩

/-- Six calls, although the pen was dashed and the pictures are nested. -/
theorem nested_picture_drawn :
    usedPen.HasSceneLayers ∧ nestedPicture.Valid ∧
      ∃ left strokes, nestedPicture.draw usedPen = .ok (left, strokes) ∧ strokes.length = 6 ∧
        strokes.map (fun stroke => some stroke.call) =
          nestedPicture.primitives.map Primitive.call? ∧
        ∃ entities, Entity.ofStrokes strokes = .ok entities ∧
          collect (fun leaf => (leaf.draw (.ofLayers usedPen.layers)).entities)
            nestedPicture.leaves = .ok entities := by
  have layers : usedPen.HasSceneLayers := by
    intro name scene
    exact List.mem_cons_of_mem _ (List.mem_cons_of_mem _ (List.mem_map_of_mem scene))
  have nothing : (Picture.list []).Valid := nofun
  have valid : nestedPicture.Valid := by
    refine Picture.valid_list ?_
    simp only [List.forall_mem_cons, List.not_mem_nil, false_imp_iff, implies_true, and_true]
    refine ⟨curve_picture_valid, Picture.valid_list ?_, curve_picture_valid⟩
    exact List.forall_mem_cons.mpr ⟨nothing, List.forall_mem_singleton.mpr face_picture_valid⟩
  obtain ⟨left, strokes, drawn, asked, entities⟩ :=
    (drawing_is_compositional usedPen nestedPicture).2 layers valid
  refine ⟨layers, valid, left, strokes, drawn, ?_, asked, entities⟩
  calc strokes.length = (strokes.map fun stroke => some stroke.call).length :=
        (List.length_map _).symm
    _ = (nestedPicture.primitives.map Primitive.call?).length := congrArg List.length asked
    _ = 6 := rfl

end FormulaPlot
