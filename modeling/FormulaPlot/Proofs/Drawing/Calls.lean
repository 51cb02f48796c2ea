import FormulaPlot.Drawing.Entity
import FormulaPlot.Drawing.Picture

/-!
Drawing as calls. A call is a mark together with those settings of the pen that the mark depends on.
The calls of a picture depend on nothing that the pen has been left with: each primitive sets up all
that its own call depends on, so that a picture makes the calls of its primitives.
-/

namespace FormulaPlot

set_option autoImplicit false

/-! Computing for a list -/

section Collect

variable {item other result : Type}

/-- What is computed for the items of a list, one after the other, until one of them fails. -/
def collect (compute : item → Except PenFault (List result)) (items : List item) :
    Except PenFault (List result) :=
  (items.mapM compute).map List.flatten

variable (compute : item → Except PenFault (List result))

theorem collect_nil : collect compute [] = .ok [] := rfl

theorem collect_cons (first : item) (rest : List item) :
    collect compute (first :: rest) =
      (compute first).bind fun found => (collect compute rest).map (found ++ ·) := by
  unfold collect
  rw [List.mapM_cons]
  cases compute first with
  | error fault => rfl
  | ok found => cases rest.mapM compute <;> rfl

theorem collect_singleton (first : item) : collect compute [first] = compute first := by
  rw [collect_cons, collect_nil]
  cases compute first with
  | error fault => rfl
  | ok found => simp [Except.bind, Except.map]

theorem collect_append (items others : List item) :
    collect compute (items ++ others) =
      (collect compute items).bind fun found => (collect compute others).map (found ++ ·) := by
  induction items with
  | nil =>
      rw [List.nil_append, collect_nil]
      cases collect compute others <;> rfl
  | cons first rest ih =>
      rw [List.cons_append, collect_cons, collect_cons, ih]
      cases compute first with
      | error fault => rfl
      | ok found =>
          cases collect compute rest with
          | error fault => rfl
          | ok more => cases collect compute others <;> simp [Except.bind, Except.map]

theorem collect_flatMap (parts : other → List item) (wholes : List other) :
    collect compute (wholes.flatMap parts) =
      collect (fun whole => collect compute (parts whole)) wholes := by
  induction wholes with
  | nil => rfl
  | cons whole rest ih => rw [List.flatMap_cons, collect_append, collect_cons, ih]

theorem collect_congr {compute computeToo : item → Except PenFault (List result)}
    {items : List item} (same : ∀ item ∈ items, compute item = computeToo item) :
    collect compute items = collect computeToo items := by
  induction items with
  | nil => rfl
  | cons first rest ih =>
      rw [collect_cons, collect_cons, same first List.mem_cons_self,
        ih fun item among => same item (List.mem_cons_of_mem _ among)]

theorem collect_of_ok {compute : item → Except PenFault (List result)}
    {items : List item} (value : item → List result)
    (computed : ∀ item ∈ items, compute item = .ok (value item)) :
    collect compute items = .ok (items.flatMap value) := by
  induction items with
  | nil => rfl
  | cons first rest ih =>
      rw [collect_cons, computed first List.mem_cons_self,
        ih fun item among => computed item (List.mem_cons_of_mem _ among)]
      rfl

theorem collect_total {compute : item → Except PenFault (List result)} {items : List item}
    (computed : ∀ item ∈ items, ∃ found, compute item = .ok found) :
    ∃ found, collect compute items = .ok found := by
  induction items with
  | nil => exact ⟨_, rfl⟩
  | cons first rest ih =>
      obtain ⟨here, first⟩ := computed first List.mem_cons_self
      obtain ⟨more, others⟩ := ih fun item among => computed item (List.mem_cons_of_mem _ among)
      exact ⟨_, by rw [collect_cons, first, others]; rfl⟩

end Collect

/-! Calls -/

/-- The settings of a pen that a mark depends on. To a text that has no colour of its own the pen
lends its line colour. -/
inductive Look where
  | stroked (layer : Datum) (color : Ink) (width : Float) (dashed : Bool)
  | filled (layer : Datum) (color : Ink) (alpha : Float)
  | lettered (layer : Datum) (dashed : Bool) (lent : Option Ink)

structure Call where
  look : Look
  mark : Mark (Point Float)

namespace Pen

def lentInk (pen : Pen) (attributes : Datum) : Option Ink :=
  match Entity.attribute? attributes "color" with
  | none => some pen.lineColor
  | some _ => none

def look (pen : Pen) : Mark (Point Float) → Look
  | .line .. => .stroked pen.layer pen.lineColor pen.lineWidth pen.dashed
  | .polyline _ => .stroked pen.layer pen.lineColor pen.lineWidth pen.dashed
  | .polygon _ => .filled pen.layer pen.fillColor pen.fillAlpha
  | .text _ _ _ attributes => .lettered pen.layer pen.dashed (pen.lentInk attributes)

end Pen

def Stroke.call (stroke : Stroke) : Call := ⟨stroke.pen.look stroke.mark, stroke.mark⟩

section Format

variable [DrawingFormat]

/-- The entity of a stroke depends on its call only. -/
theorem Entity.of_stroke_congr {stroke other : Stroke} (same : stroke.call = other.call) :
    ofStroke? stroke = ofStroke? other := by
  obtain ⟨pen, mark⟩ := stroke
  obtain ⟨otherPen, otherMark⟩ := other
  simp only [Stroke.call, Call.mk.injEq] at same
  obtain ⟨look, rfl⟩ := same
  cases mark with
  | line first second =>
      simp only [Pen.look, Look.stroked.injEq] at look
      simp only [ofStroke?, lineAttributes, layerOf, look]
  | polyline points =>
      simp only [Pen.look, Look.stroked.injEq] at look
      simp only [ofStroke?, lineAttributes, layerOf, look]
  | polygon points =>
      simp only [Pen.look, Look.filled.injEq] at look
      simp only [ofStroke?, layerOf, look]
  | text content position align attributes =>
      simp only [Pen.look, Look.lettered.injEq, Pen.lentInk] at look
      obtain ⟨layer, _, lent⟩ := look
      have color : textColor pen attributes = textColor otherPen attributes := by
        unfold textColor
        cases own : attribute? attributes "color" with
        | none =>
            rw [own] at lent
            rw [Option.some.inj lent]
        | some value => rfl
      simp only [ofStroke?, layerOf, layer, color]

theorem Entity.of_strokes_eq (strokes : List Stroke) :
    ofStrokes strokes = collect (fun stroke => (ofStroke? stroke).map Option.toList) strokes := by
  induction strokes with
  | nil => rfl
  | cons stroke rest ih =>
      rw [ofStrokes, collect_cons, ih]
      cases ofStroke? stroke with
      | error fault => rfl
      | ok entity =>
          cases collect (fun stroke => (ofStroke? stroke).map Option.toList) rest <;> rfl

theorem Entity.of_strokes_congr {strokes others : List Stroke}
    (same : strokes.map Stroke.call = others.map Stroke.call) :
    ofStrokes strokes = ofStrokes others := by
  induction strokes generalizing others with
  | nil =>
      rw [List.map_eq_nil_iff.mp same.symm]
  | cons stroke rest ih =>
      cases others with
      | nil => contradiction
      | cons other more =>
          injection same with here there
          rw [ofStrokes, ofStrokes, of_stroke_congr here, ih there]

end Format

namespace Drawn

/-- The calls that a drawing has made. -/
def calls (drawn : Drawn) : Except PenFault (List Call) :=
  drawn.map fun result => result.2.map Stroke.call

def entities [DrawingFormat] (drawn : Drawn) : Except PenFault (List Entity) :=
  drawn.bind fun result => Entity.ofStrokes result.2

end Drawn

/-! Primitives -/

/-- What is drawn one by one. Faces and segments of space are turned upright in a picture of some
height; a value that is no picture is refused. -/
inductive Primitive where
  | polyline (line : Polyline Float)
  | face (height : Float) (face : PaintedFace Float)
  | segment (height : Float) (segment : PaintedSegment Float)
  | label (label : Label Float)
  | refused (value : Datum)

namespace Primitive

def draw (pen : Pen) : Primitive → Drawn
  | polyline line => line.draw pen
  | face height area => SpaceScene.drawFace height pen area
  | segment height line => SpaceScene.drawSegment height pen line
  | label name => name.draw { pen with dashed := false }
  | refused value => .error (.notAPicture value)

/-- The calls of a primitive that is drawn with a fresh pen. -/
def alone (layers : List Datum) (primitive : Primitive) : Except PenFault (List Call) :=
  (primitive.draw (.ofLayers layers)).calls

end Primitive

/-! Setting up the pen -/

namespace Pen

theorem set_layer_eq (pen : Pen) (value : Datum) :
    pen.setLayer value = ((Pen.ofLayers pen.layers).setLayer value).map fun fresh =>
      { pen with layer := fresh.layer } := by
  cases listed : pen.layers.any value.agrees <;> simp [setLayer, ofLayers, listed, Except.map]

/-- A style sets all that lines depend on. -/
theorem take_eq (pen : Pen) (style : Style) :
    pen.take style = ((Pen.ofLayers pen.layers).take style).map fun fresh =>
      { pen with
        layer := fresh.layer
        lineColor := fresh.lineColor
        lineWidth := fresh.lineWidth
        dashed := fresh.dashed } := by
  cases listed : pen.layers.any (Datum.text style.layer).agrees with
  | false => simp [take, setLayer, ofLayers, listed, bind, Except.bind, Except.map]
  | true =>
      cases color : Ink.ofDatum? style.color with
      | none =>
          simp [take, setLayer, ofLayers, listed, setLineColor, color, bind, Except.bind,
            Except.map]
      | some ink =>
          by_cases thin : style.width ≤ 0.0 <;>
            simp [take, setLayer, ofLayers, listed, setLineColor, color, setLineWidth, thin,
              setDashed, bind, Except.bind, Except.map]

/-- A face sets all that filled areas depend on. -/
theorem take_fill_eq (pen : Pen) (face : PaintedFace Float) :
    SpaceScene.takeFill pen face =
      (SpaceScene.takeFill (.ofLayers pen.layers) face).map fun fresh =>
        { pen with
          layer := fresh.layer
          fillColor := fresh.fillColor
          fillAlpha := fresh.fillAlpha } := by
  cases listed : pen.layers.any (Datum.text Layer.surfaces).agrees with
  | false => simp [SpaceScene.takeFill, setLayer, ofLayers, listed, bind, Except.bind, Except.map]
  | true =>
      cases color : Ink.ofDatum? face.fill with
      | none =>
          simp [SpaceScene.takeFill, setLayer, ofLayers, listed, setFillColor, color, bind,
            Except.bind, Except.map]
      | some ink =>
          by_cases within : 0.0 ≤ face.alpha ∧ face.alpha ≤ 1.0 <;>
            simp [SpaceScene.takeFill, setLayer, ofLayers, listed, setFillColor, color,
              setFillAlpha, within, bind, Except.bind, Except.map]

end Pen

/-! What is drawn -/

/-- A way of drawing makes the calls of some primitives, whatever the pen has been left with, and it
keeps the layers of the pen. -/
structure Draws (draw : Pen → Drawn) (primitives : List Primitive) : Prop where
  layers : ∀ {pen left : Pen} {strokes : List Stroke}, draw pen = .ok (left, strokes) →
    left.layers = pen.layers
  calls : ∀ pen, (draw pen).calls = collect (Primitive.alone pen.layers) primitives

section Draws

variable {draw other : Pen → Drawn} {primitives more : List Primitive}

theorem calls_mark (pen : Except PenFault Pen) (mark : Mark (Point Float)) :
    (Pen.mark pen mark).calls = pen.map fun pen => [⟨pen.look mark, mark⟩] := by
  cases pen <;> rfl

/-- A mark is drawn alike if the pen is set up alike, as far as the mark depends on it. -/
theorem draws_mark {primitive : Primitive} {set : Pen → Except PenFault Pen}
    {mark : Mark (Point Float)} (drawn : ∀ pen, primitive.draw pen = Pen.mark (set pen) mark)
    (change : Pen → Pen → Pen)
    (sets : ∀ pen, set pen = (set (.ofLayers pen.layers)).map (change pen))
    (keeps : ∀ pen fresh, (change pen fresh).layers = pen.layers)
    (looks : ∀ pen fresh, (change pen fresh).look mark = fresh.look mark) :
    Draws (fun pen => primitive.draw pen) [primitive] where
  layers {pen left strokes} ended := by
    rw [drawn, sets, Pen.mark] at ended
    cases fresh : set (.ofLayers pen.layers) with
    | error fault =>
        rw [fresh] at ended
        contradiction
    | ok fresh' =>
        rw [fresh] at ended
        cases ended
        exact keeps pen fresh'
  calls pen := by
    rw [collect_singleton, Primitive.alone, drawn, drawn, calls_mark, calls_mark, sets]
    cases set (.ofLayers pen.layers) with
    | error fault => rfl
    | ok fresh => simp only [Except.map, looks]

theorem draws_primitive (primitive : Primitive) :
    Draws (fun pen => primitive.draw pen) [primitive] := by
  cases primitive with
  | polyline line =>
      exact draws_mark (fun _ => rfl) _ (fun pen => pen.take_eq line.style) (fun _ _ => rfl)
        (fun _ _ => rfl)
  | face height area =>
      exact draws_mark (fun _ => rfl) _ (fun pen => pen.take_fill_eq area) (fun _ _ => rfl)
        (fun _ _ => rfl)
  | segment height line =>
      exact draws_mark (fun _ => rfl) _ (fun pen => pen.take_eq line.style) (fun _ _ => rfl)
        (fun _ _ => rfl)
  | label name =>
      -- a label brings its own colour, so that only layer and dashing come from the pen
      refine draws_mark (fun _ => rfl)
        (fun pen fresh => { pen with dashed := fresh.dashed, layer := fresh.layer })
        ?_ (fun _ _ => rfl) (fun _ _ => rfl)
      intro pen
      rw [Pen.set_layer_eq]
      cases listed : pen.layers.any (Datum.text name.layer).agrees <;>
        simp [Pen.setLayer, Pen.ofLayers, listed, Except.map]
  | refused value => exact ⟨nofun, fun _ => rfl⟩

theorem draws_nothing : Draws (fun pen => .ok (pen, [])) [] where
  layers ended := by
    cases ended
    rfl
  calls _ := rfl

theorem Draws.andThen (one : Draws draw primitives) (two : Draws other more) :
    Draws (fun pen => (draw pen).andThen other) (primitives ++ more) where
  layers {pen left strokes} ended := by
    unfold Drawn.andThen at ended
    split at ended
    · contradiction
    · next middle before first =>
        split at ended
        · contradiction
        · next last after second =>
            cases ended
            exact (two.layers second).trans (one.layers first)
  calls pen := by
    have first := one.calls pen
    rw [collect_append, ← first]
    unfold Drawn.andThen
    cases begun : draw pen with
    | error fault => rfl
    | ok result =>
        obtain ⟨middle, before⟩ := result
        -- the pen in between differs from the first one in all but its layers
        have second := two.calls middle
        rw [one.layers begun] at second
        rw [← second]
        cases ended : other middle with
        | error fault => simp [Drawn.calls, ended, Except.map, Except.bind]
        | ok result => simp [Drawn.calls, ended, Except.map, Except.bind]

theorem draws_each {item : Type} {draw : Pen → item → Drawn} {primitives : item → List Primitive}
    (draws : ∀ item, Draws (fun pen => draw pen item) (primitives item)) (items : List item) :
    Draws (fun pen => Drawn.each draw pen items) (items.flatMap primitives) := by
  induction items with
  | nil => exact draws_nothing
  | cons first rest ih => exact (draws first).andThen ih

theorem draws_map {item : Type} {draw : Pen → item → Drawn} {primitive : item → Primitive}
    (draws : ∀ item, Draws (fun pen => draw pen item) [primitive item]) (items : List item) :
    Draws (fun pen => Drawn.each draw pen items) (items.map primitive) := by
  rw [List.map_eq_flatMap]
  exact draws_each draws items

theorem Draws.undashed (draws : Draws draw primitives) :
    Draws (fun pen => draw { pen with dashed := false }) primitives where
  layers ended := by
    have kept := draws.layers ended
    exact kept
  calls pen := draws.calls { pen with dashed := false }

/-- Labels leave the dashing of the pen as it is, so that it does not matter whether dashing ends
before the first label or before each one. -/
theorem each_label_eq (labels : List (Label Float)) {pen : Pen} (undashed : pen.dashed = false) :
    Drawn.each Label.draw pen labels =
      Drawn.each (fun pen name => (Primitive.label name).draw pen) pen labels := by
  induction labels generalizing pen with
  | nil => rfl
  | cons name rest ih =>
      have same : { pen with dashed := false } = pen := by rw [← undashed]
      have first : (Primitive.label name).draw pen = name.draw pen := by rw [Primitive.draw, same]
      rw [Drawn.each, Drawn.each, first]
      cases drawn : name.draw pen with
      | error fault => rfl
      | ok result =>
          obtain ⟨left, strokes⟩ := result
          have kept : left.dashed = pen.dashed := by
            rw [Label.draw, Pen.mark, Pen.setLayer] at drawn
            split at drawn
            · cases drawn
              rfl
            · contradiction
          dsimp only
          rw [ih (kept.trans undashed)]

theorem draws_labels (labels : List (Label Float)) :
    Draws (drawLabels labels) (labels.map .label) := by
  have same : drawLabels labels = fun pen => Drawn.each
      (fun pen name => (Primitive.label name).draw pen) { pen with dashed := false } labels :=
    funext fun pen => each_label_eq labels rfl
  rw [same]
  exact (draws_map (fun name => draws_primitive (.label name)) labels).undashed

end Draws

/-! Scenes and pictures -/

namespace PlaneScene

def primitives (scene : PlaneScene Float) : List Primitive :=
  scene.polylines.map .polyline ++ scene.labels.map .label

theorem draws (scene : PlaneScene Float) : Draws scene.draw scene.primitives :=
  (draws_map (fun line => draws_primitive (.polyline line)) _).andThen (draws_labels _)

end PlaneScene

namespace SpaceScene

/-- Faces, segments and labels, in this order. -/
def primitives (scene : SpaceScene Float) : List Primitive :=
  let height := scene.canvas.height
  scene.faces.map (.face height) ++ scene.segments.map (.segment height) ++
    (scene.labels.map (uprightLabel height)).map .label

theorem draws (scene : SpaceScene Float) : Draws scene.draw scene.primitives :=
  ((draws_map (fun area => draws_primitive (.face _ area)) _).andThen
    (draws_map (fun line => draws_primitive (.segment _ line)) _)).andThen (draws_labels _)

end SpaceScene

namespace Picture

mutual

/-- The primitives of a picture, in the order of its scenes. -/
def primitives : Picture → List Primitive
  | plane scene => scene.primitives
  | space scene => scene.primitives
  | list pictures => allPrimitives pictures
  | other value => [.refused value]

def allPrimitives : List Picture → List Primitive
  | [] => []
  | picture :: rest => primitives picture ++ allPrimitives rest

end

mutual

/-- The parts of a picture that are no lists. -/
def leaves : Picture → List Picture
  | plane scene => [plane scene]
  | space scene => [space scene]
  | list pictures => allLeaves pictures
  | other value => [other value]

def allLeaves : List Picture → List Picture
  | [] => []
  | picture :: rest => leaves picture ++ allLeaves rest

end

mutual

theorem primitives_eq : (picture : Picture) →
    picture.primitives = picture.leaves.flatMap primitives
  | plane _ => (List.flatMap_singleton ..).symm
  | space _ => (List.flatMap_singleton ..).symm
  | list pictures => all_primitives_eq pictures
  | other _ => (List.flatMap_singleton ..).symm

theorem all_primitives_eq : (pictures : List Picture) →
    allPrimitives pictures = (allLeaves pictures).flatMap primitives
  | [] => rfl
  | picture :: rest => by
      rw [allPrimitives, allLeaves, List.flatMap_append, ← primitives_eq picture,
        ← all_primitives_eq rest]

end

mutual

theorem draws : (picture : Picture) → Draws (fun pen => picture.draw pen) picture.primitives
  | plane scene => scene.draws
  | space scene => scene.draws
  | list pictures => all_draw pictures
  | other value => draws_primitive (.refused value)

theorem all_draw : (pictures : List Picture) →
    Draws (fun pen => drawAll pen pictures) (allPrimitives pictures)
  | [] => draws_nothing
  | picture :: rest => (draws picture).andThen (all_draw rest)

end

/-- A picture makes the calls that its parts make alone, each with a fresh pen. -/
theorem calls_eq (picture : Picture) (pen : Pen) :
    (picture.draw pen).calls =
      collect (fun leaf => (leaf.draw (.ofLayers pen.layers)).calls) picture.leaves := by
  rw [picture.draws.calls, picture.primitives_eq, collect_flatMap]
  refine collect_congr fun leaf _ => ?_
  rw [leaf.draws.calls]
  rfl

end Picture

end FormulaPlot
