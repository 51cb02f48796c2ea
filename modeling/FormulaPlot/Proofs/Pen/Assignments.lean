import FormulaPlot.Pen.State
import FormulaPlot.Proofs.Numeric.Counts
import FormulaPlot.Proofs.Pen.HexColors

/-!
Pens under assignments. A pen takes a value or refuses it; one that refuses a value stays as it was,
and the fault names the setting and the value. Pens stay valid under every run of assignments but
for three kinds of values that are taken although they do not fit: a list of layers without the
layer that is drawn on, a width that is not a number, and a colour with a line end behind its
hexadecimal digits.
-/

namespace FormulaPlot

set_option autoImplicit false

inductive Setting where
  | layers
  | layer
  | lineWidth
  | dashed
  | lineColor
  | fillColor
  | fillAlpha

/-- A value that is offered for a setting. -/
structure Assignment where
  setting : Setting
  value : Datum

namespace Pen

def assign (pen : Pen) : Assignment → Except PenFault Pen
  | ⟨.layers, value⟩ => pen.setLayers value
  | ⟨.layer, value⟩ => pen.setLayer value
  | ⟨.lineWidth, value⟩ => pen.setLineWidth value
  | ⟨.dashed, value⟩ => pen.setDashed value
  | ⟨.lineColor, value⟩ => pen.setLineColor value
  | ⟨.fillColor, value⟩ => pen.setFillColor value
  | ⟨.fillAlpha, value⟩ => pen.setFillAlpha value

/-- A pen that refuses a value stays as it was. -/
def after (pen : Pen) (offer : Assignment) : Pen :=
  match pen.assign offer with
  | .ok left => left
  | .error _ => pen

/-- The pens before, between and behind the assignments of a run. -/
def states (pen : Pen) : List Assignment → List Pen
  | [] => [pen]
  | offer :: rest => pen :: (pen.after offer).states rest

/-- The assignments of a run, each with the pen that it is made on. -/
def steps (pen : Pen) : List Assignment → List (Pen × Assignment)
  | [] => []
  | offer :: rest => (pen, offer) :: (pen.after offer).steps rest

/-- Drawing on a listed layer, with strokes of some width, valid colours, and an opacity between
clear and solid. -/
structure Valid (pen : Pen) : Prop where
  layer : ∃ listed ∈ pen.layers, pen.layer.agrees listed = true
  width : 0.0 < pen.lineWidth
  line : pen.lineColor.Valid
  fill : pen.fillColor.Valid
  alpha : 0.0 ≤ pen.fillAlpha ∧ pen.fillAlpha ≤ 1.0

/-- What every pen keeps to: its width may be undefined, line ends may follow its colours, and its
layer need not be listed. -/
structure Sound (pen : Pen) : Prop where
  width : pen.lineWidth.isNaN = true ∨ 0.0 < pen.lineWidth
  line : pen.lineColor.Sound
  fill : pen.fillColor.Sound
  alpha : 0.0 ≤ pen.fillAlpha ∧ pen.fillAlpha ≤ 1.0

/-- The values that a pen takes, with what it is afterwards. -/
inductive Takes (pen : Pen) : Assignment → Pen → Prop
  | layers (layers : List Datum) :
      pen.Takes ⟨.layers, .list layers⟩ { pen with layers := layers }
  | layer {value listed : Datum} (member : listed ∈ pen.layers)
      (same : value.agrees listed = true) :
      pen.Takes ⟨.layer, value⟩ { pen with layer := value }
  | width {value : Datum} {width : Float} (positive : 0.0 < width) :
      pen.Takes ⟨.lineWidth, value⟩ { pen with lineWidth := width }
  | undefinedWidth {width : Float} (undefined : width.isNaN = true) :
      pen.Takes ⟨.lineWidth, .decimal width⟩ { pen with lineWidth := width }
  | dashed (dashed : Bool) : pen.Takes ⟨.dashed, .flag dashed⟩ { pen with dashed := dashed }
  | lineColor {value : Datum} {ink : Ink} (given : Ink.ofDatum? value = some ink) :
      pen.Takes ⟨.lineColor, value⟩ { pen with lineColor := ink }
  | fillColor {value : Datum} {ink : Ink} (given : Ink.ofDatum? value = some ink) :
      pen.Takes ⟨.fillColor, value⟩ { pen with fillColor := ink }
  | fillAlpha {value : Datum} {alpha : Float} (within : 0.0 ≤ alpha ∧ alpha ≤ 1.0) :
      pen.Takes ⟨.fillAlpha, value⟩ { pen with fillAlpha := alpha }

/-- The faults of refused values. They name the setting and the value, unless a whole width is
beyond all decimals. -/
inductive Refuses : Assignment → PenFault → Prop
  | layers (value : Datum) : Refuses ⟨.layers, value⟩ (.layerList value)
  | layer (value : Datum) : Refuses ⟨.layer, value⟩ (.layer value)
  | widthType (value : Datum) : Refuses ⟨.lineWidth, value⟩ (.lineWidthType value)
  | widthSign (value : Datum) : Refuses ⟨.lineWidth, value⟩ (.lineWidthSign value)
  | widthSize {width : Int} (large : Binary64.ofInt? width = none) :
      Refuses ⟨.lineWidth, .whole width⟩ (.numeric .wholeTooLarge)
  | dashed (value : Datum) : Refuses ⟨.dashed, value⟩ (.dashing value)
  | lineColor (value : Datum) : Refuses ⟨.lineColor, value⟩ (.lineColor value)
  | fillColor (value : Datum) : Refuses ⟨.fillColor, value⟩ (.fillColor value)
  | fillAlpha (value : Datum) : Refuses ⟨.fillAlpha, value⟩ (.fillAlpha value)

/-- The values that a pen takes although they do not fit. -/
inductive Overlooks (pen : Pen) : Assignment → Prop
  | layers {layers : List Datum} (unlisted : ∀ listed ∈ layers, ¬pen.layer.agrees listed = true) :
      pen.Overlooks ⟨.layers, .list layers⟩
  | width {width : Float} (undefined : width.isNaN = true) :
      pen.Overlooks ⟨.lineWidth, .decimal width⟩
  | lineColor {text : String} {stem : List Char} (color : IsHexColor stem)
      (ended : text.toList = stem ++ ['\n']) : pen.Overlooks ⟨.lineColor, .text text⟩
  | fillColor {text : String} {stem : List Char} (color : IsHexColor stem)
      (ended : text.toList = stem ++ ['\n']) : pen.Overlooks ⟨.fillColor, .text text⟩

variable {pen left : Pen} {offer : Assignment} {fault : PenFault}

theorem of_int_positive {width : Int} (positive : ¬width ≤ 0) {rounded : Float}
    (fits : Binary64.ofInt? width = some rounded) : 0.0 < rounded := by
  obtain ⟨count, rfl⟩ := Int.eq_ofNat_of_zero_le (not_le.mp positive).le
  simp only [Binary64.ofInt?, Option.ite_none_right_eq_some, Option.some_inj] at fits
  rw [← fits.2]
  exact Binary64.of_count_positive (by omega)

/-- The outcome of an assignment is a pen that takes the value, or a fault that refuses it. -/
def Decides (pen : Pen) (offer : Assignment) (outcome : Except PenFault Pen) : Prop :=
  (∃ left, outcome = .ok left ∧ pen.Takes offer left) ∨
    ∃ fault, outcome = .error fault ∧ Refuses offer fault

theorem line_width_decides (value : Datum) :
    pen.Decides ⟨.lineWidth, value⟩ (pen.setLineWidth value) := by
  unfold setLineWidth
  split
  · next width =>
      split
      · exact .inr ⟨_, rfl, .widthSign _⟩
      · next positive =>
          split
          · next rounded fits => exact .inl ⟨_, rfl, .width (of_int_positive positive fits)⟩
          · next large => exact .inr ⟨_, rfl, .widthSize large⟩
  · next width =>
      split
      · exact .inr ⟨_, rfl, .widthSign _⟩
      · next above =>
          refine .inl ⟨_, rfl, ?_⟩
          by_cases defined : Binary64.IsDefined width
          · exact .width (Binary64.positive_iff.mpr ⟨defined, above⟩)
          · exact .undefinedWidth (Bool.eq_true_of_not_eq_false defined)
  · exact .inr ⟨_, rfl, .widthType _⟩

theorem fill_alpha_decides (value : Datum) :
    pen.Decides ⟨.fillAlpha, value⟩ (pen.setFillAlpha value) := by
  unfold setFillAlpha
  split
  · next alpha =>
      split
      · next within =>
          refine .inl ⟨_, rfl, .fillAlpha ?_⟩
          obtain rfl | rfl : alpha = 0 ∨ alpha = 1 := by omega
          · decide +kernel
          · decide +kernel
      · exact .inr ⟨_, rfl, .fillAlpha _⟩
  · next alpha =>
      split
      · next within => exact .inl ⟨_, rfl, .fillAlpha within⟩
      · exact .inr ⟨_, rfl, .fillAlpha _⟩
  · exact .inr ⟨_, rfl, .fillAlpha _⟩

theorem assign_decides (pen : Pen) (offer : Assignment) : pen.Decides offer (pen.assign offer) := by
  obtain ⟨setting, value⟩ := offer
  cases setting with
  | layers =>
      rw [assign]
      unfold setLayers
      split
      · exact .inl ⟨_, rfl, .layers _⟩
      · exact .inr ⟨_, rfl, .layers _⟩
  | layer =>
      rw [assign, setLayer]
      split
      · next found =>
          obtain ⟨listed, member, same⟩ := List.any_eq_true.mp found
          exact .inl ⟨_, rfl, .layer member same⟩
      · exact .inr ⟨_, rfl, .layer _⟩
  | lineWidth => exact line_width_decides value
  | dashed =>
      rw [assign]
      unfold setDashed
      split
      · exact .inl ⟨_, rfl, .dashed _⟩
      · exact .inr ⟨_, rfl, .dashed _⟩
  | lineColor =>
      rw [assign, setLineColor]
      split
      · next given => exact .inl ⟨_, rfl, .lineColor given⟩
      · exact .inr ⟨_, rfl, .lineColor _⟩
  | fillColor =>
      rw [assign, setFillColor]
      split
      · next given => exact .inl ⟨_, rfl, .fillColor given⟩
      · exact .inr ⟨_, rfl, .fillColor _⟩
  | fillAlpha => exact fill_alpha_decides value

/-! One assignment -/

theorem after_cases (pen : Pen) (offer : Assignment) :
    pen.Takes offer (pen.after offer) ∨ pen.after offer = pen := by
  rcases assign_decides pen offer with ⟨left, taken, takes⟩ | ⟨fault, refused, -⟩
  · left
    rw [after, taken]
    exact takes
  · right
    rw [after, refused]

theorem Valid.sound (valid : pen.Valid) : pen.Sound where
  width := .inr valid.width
  line := valid.line.sound
  fill := valid.fill.sound
  alpha := valid.alpha

theorem Takes.sound (takes : pen.Takes offer left) (sound : pen.Sound) : left.Sound := by
  cases takes with
  | layers layers => exact { sound with }
  | layer member same => exact { sound with }
  | width positive => exact { sound with width := .inr positive }
  | undefinedWidth undefined => exact { sound with width := .inl undefined }
  | dashed dashed => exact { sound with }
  | lineColor given => exact { sound with line := Ink.of_datum_sound given }
  | fillColor given => exact { sound with fill := Ink.of_datum_sound given }
  | fillAlpha within => exact { sound with alpha := within }

/-- A valid pen takes nothing that spoils it but by oversight. -/
theorem Takes.valid_or (takes : pen.Takes offer left) (valid : pen.Valid) :
    left.Valid ∨ pen.Overlooks offer := by
  cases takes with
  | layers layers =>
      by_cases kept : ∃ listed ∈ layers, pen.layer.agrees listed = true
      · exact .inl { valid with layer := kept }
      · exact .inr (.layers fun listed member same => kept ⟨listed, member, same⟩)
  | layer member same => exact .inl { valid with layer := ⟨_, member, same⟩ }
  | width positive => exact .inl { valid with width := positive }
  | undefinedWidth undefined => exact .inr (.width undefined)
  | dashed dashed => exact .inl { valid with }
  | lineColor given =>
      rcases Ink.of_datum_cases given with line | ⟨text, stem, rfl, -, color, ended⟩
      · exact .inl { valid with line := line }
      · exact .inr (.lineColor color ended)
  | fillColor given =>
      rcases Ink.of_datum_cases given with fill | ⟨text, stem, rfl, -, color, ended⟩
      · exact .inl { valid with fill := fill }
      · exact .inr (.fillColor color ended)
  | fillAlpha within => exact .inl { valid with alpha := within }

theorem ink_of_ended {text : String} {stem : List Char} (color : IsHexColor stem)
    (ended : text.toList = stem ++ ['\n']) :
    Ink.ofDatum? (.text text) = some (.hex text) ∧ ¬(Ink.hex text).Valid := by
  obtain ⟨spelled, read⟩ := Option.isSome_iff_exists.mp
    ((Color.spelled_iff text).mpr ⟨stem, color, .inr ended⟩)
  refine ⟨by rw [Ink.ofDatum?, read, Option.map_some], fun valid => ?_⟩
  refine IsHexColor.has_no_line_end valid ?_
  rw [ended]
  exact List.mem_append_right _ (.head _)

/-- What is overlooked is taken, and leaves a pen that is not valid. -/
theorem Overlooks.spoils (overlooks : pen.Overlooks offer) : ¬(pen.after offer).Valid := by
  cases overlooks with
  | layers unlisted =>
      intro valid
      obtain ⟨listed, member, same⟩ := valid.layer
      exact unlisted listed member same
  | width undefined =>
      have number : ¬Binary64.IsDefined _ := ne_false_of_eq_true undefined
      intro valid
      have positive := valid.width
      rw [after, assign, setLineWidth, if_neg (Binary64.undefined_le number)] at positive
      exact Binary64.lt_undefined number positive
  | lineColor color ended =>
      obtain ⟨given, spoilt⟩ := ink_of_ended color ended
      intro valid
      have line := valid.line
      rw [after, assign, setLineColor, given] at line
      exact spoilt line
  | fillColor color ended =>
      obtain ⟨given, spoilt⟩ := ink_of_ended color ended
      intro valid
      have fill := valid.fill
      rw [after, assign, setFillColor, given] at fill
      exact spoilt fill

theorem Sound.after (sound : pen.Sound) (offer : Assignment) : (pen.after offer).Sound := by
  rcases after_cases pen offer with takes | same
  · exact takes.sound sound
  · rw [same]
    exact sound

theorem Valid.after_iff (valid : pen.Valid) (offer : Assignment) :
    (pen.after offer).Valid ↔ ¬pen.Overlooks offer := by
  refine ⟨fun kept overlooks => overlooks.spoils kept, fun fits => ?_⟩
  rcases after_cases pen offer with takes | same
  · exact (takes.valid_or valid).resolve_right fits
  · rw [same]
    exact valid

/-! Runs of assignments -/

theorem start_mem_states (pen : Pen) (run : List Assignment) : pen ∈ pen.states run := by
  cases run <;> exact .head _

theorem Sound.states (sound : pen.Sound) (run : List Assignment) :
    ∀ state ∈ pen.states run, state.Sound := by
  induction run generalizing pen with
  | nil => exact List.forall_mem_singleton.mpr sound
  | cons offer rest ih => exact List.forall_mem_cons.mpr ⟨sound, ih (sound.after offer)⟩

theorem Valid.states_iff (valid : pen.Valid) (run : List Assignment) :
    (∀ state ∈ pen.states run, state.Valid) ↔
      ∀ step ∈ pen.steps run, ¬step.1.Overlooks step.2 := by
  induction run generalizing pen with
  | nil => exact iff_of_true (List.forall_mem_singleton.mpr valid) nofun
  | cons offer rest ih =>
      rw [states, steps, List.forall_mem_cons, List.forall_mem_cons, and_iff_right valid]
      by_cases kept : (pen.after offer).Valid
      · rw [ih kept, and_iff_right ((valid.after_iff offer).mp kept)]
      · have overlooked := mt (valid.after_iff offer).mpr kept
        exact iff_of_false (fun states => kept (states _ (start_mem_states _ rest)))
          fun steps => overlooked steps.1

theorem standard_valid : standard.Valid where
  layer := ⟨_, .head _, rfl⟩
  width := by decide +kernel
  line := trivial
  fill := trivial
  alpha := by decide +kernel

/-- All pens of a run are sound, refused values leave them as they were, and the pens are all valid
if and only if no value is overlooked. -/
theorem valid_unless_overlooked (run : List Assignment) :
    (∀ state ∈ standard.states run, state.Sound) ∧
      (∀ step ∈ standard.steps run, ∀ fault, step.1.assign step.2 = .error fault →
        Refuses step.2 fault ∧ step.1.after step.2 = step.1) ∧
      ((∀ state ∈ standard.states run, state.Valid) ↔
        ∀ step ∈ standard.steps run, ¬step.1.Overlooks step.2) := by
  refine ⟨standard_valid.sound.states run, fun step _ fault refused => ?_,
    standard_valid.states_iff run⟩
  rcases assign_decides step.1 step.2 with ⟨left, taken, -⟩ | ⟨named, same, refuses⟩
  · rw [taken] at refused
    contradiction
  · rw [same] at refused
    cases refused
    exact ⟨refuses, by rw [after, same]⟩

/-- A line end behind a colour, an undefined width, and a list without the current layer are taken,
and none of the pens that hold them is valid. -/
theorem unfit_values_taken :
    ¬(∀ state ∈ standard.states [⟨.lineColor, .text "#fff\n"⟩], state.Valid) ∧
      ¬(∀ state ∈ standard.states [⟨.lineWidth, .decimal Binary64.notANumber⟩], state.Valid) ∧
      ¬∀ state ∈ standard.states [⟨.layers, .list [.text "CURVES"]⟩], state.Valid := by
  have digit : IsHexDigit 'f' := (hex_digit_iff 'f').mp rfl
  have color : IsHexColor ['#', 'f', 'f', 'f'] :=
    ⟨['#'], ['f', 'f', 'f'], rfl, .inr rfl, by simpa using digit, .inl rfl⟩
  have spoilt {offer : Assignment} (overlooks : standard.Overlooks offer) :
      ¬∀ state ∈ standard.states [offer], state.Valid :=
    fun valid => overlooks.spoils (valid _ (.tail _ (start_mem_states _ [])))
  have undefined : Binary64.notANumber.isNaN = true := by decide +kernel
  have unlisted : ∀ listed ∈ [Datum.text "CURVES"], ¬standard.layer.agrees listed = true :=
    List.forall_mem_singleton.mpr nofun
  exact ⟨spoilt (.lineColor color rfl), spoilt (.width undefined), spoilt (.layers unlisted)⟩

end Pen

end FormulaPlot
