import FormulaPlot.Proofs.Numeric.Rationals
import FormulaPlot.Tikz.Thinning

/-!
Thinned lists. The kept places are the multiples of a step, each rounded to the nearest whole
number. A step that is longer than one keeps them apart, the whole steps hit both ends of a list,
and rounding lengthens or shortens no gap by a whole place.
-/

namespace FormulaPlot.Thinning

open FormulaPlot.Scalar

set_option autoImplicit false

/-- Distance of two kept places before they are rounded. -/
def step (count most : Nat) : Rat := ((count : Rat) - 1) / ((most : Rat) - 1)

/-- The place that is kept for an index. -/
def place (count most index : Nat) : Nat := ⌊index * step count most + 1 / 2⌋.toNat

theorem places_eq {count most : Nat} (least : 2 ≤ most) :
    places Rat count most = .ok ((List.range most).map (place count most)) := by
  have half : (0.5 : Rat) = 1 / 2 := by norm_num
  have one (index : Nat) :
      (floor ((ofNat index : Rat) * (ofInt ((count : Int) - 1) / ofInt ((most : Int) - 1)) +
        0.5)).map Int.toNat = pure (place count most index) := by
    have whole (number : Nat) : (ofInt ((number : Int) - 1) : Rat) = (number : Rat) - 1 := by
      show ((((number : Int) - 1 : Int)) : Rat) = (number : Rat) - 1
      push_cast
      rfl
    rw [floor_rat, of_nat_rat, whole, whole, half]
    rfl
  rw [places, if_neg (by omega)]
  simp only [one]
  exact List.mapM_pure

section Rounding

variable {count most : Nat}

theorem floor_half : ⌊(1 / 2 : Rat)⌋ = 0 := by norm_num

/-- Two places or more have a space between them. -/
theorem spaces_pos (least : 2 ≤ most) : (0 : Rat) < (most : Rat) - 1 := by
  have cast : ((2 : Nat) : Rat) ≤ most := Nat.cast_le.mpr least
  push_cast at cast
  linarith

/-- In a list that is too long a step leads past the next item. -/
theorem one_lt_step (least : 2 ≤ most) (longer : most < count) : 1 < step count most := by
  have more : (most : Rat) < count := Nat.cast_lt.mpr longer
  rw [step, lt_div_iff₀ (spaces_pos least)]
  linarith

theorem place_cast (forward : 0 ≤ step count most) (index : Nat) :
    (place count most index : Int) = ⌊index * step count most + 1 / 2⌋ := by
  apply Int.toNat_of_nonneg
  apply Int.floor_nonneg.mpr
  positivity

/-- Two neighbouring places are a whole step apart, or one place more. -/
theorem place_succ (forward : 0 ≤ step count most) (index : Nat) :
    place count most index + ⌊step count most⌋.toNat ≤ place count most (index + 1) ∧
      place count most (index + 1) ≤ place count most index + ⌊step count most⌋.toNat + 1 := by
  have here := place_cast forward index
  have there := place_cast forward (index + 1)
  have whole := Int.toNat_of_nonneg (Int.floor_nonneg.mpr forward)
  have next : ((index + 1 : Nat) : Rat) * step count most + 1 / 2 =
      (index * step count most + 1 / 2) + step count most := by
    push_cast
    ring
  rw [next] at there
  have below := Int.le_floor_add (index * step count most + 1 / 2) (step count most)
  have above := Int.le_floor_add_floor (index * step count most + 1 / 2) (step count most)
  omega

theorem place_strict_mono (longer : 1 < step count most) : StrictMono (place count most) := by
  apply strictMono_nat_of_lt_succ
  intro index
  have apart := (place_succ (zero_le_one.trans longer.le) index).1
  have whole : 1 ≤ ⌊step count most⌋ := Int.le_floor.mpr (by exact_mod_cast longer.le)
  omega

theorem place_zero : place count most 0 = 0 := by
  rw [place, Nat.cast_zero, zero_mul, zero_add, floor_half]
  rfl

/-- All steps together are as long as the list. -/
theorem place_last (least : 2 ≤ most) (longer : most < count) :
    place count most (most - 1) = count - 1 := by
  have whole : ((most - 1 : Nat) : Rat) * step count most = ((count - 1 : Nat) : Rat) := by
    rw [Nat.cast_pred (by omega), Nat.cast_pred (by omega), step,
      mul_div_cancel₀ _ (spaces_pos least).ne']
  rw [place, whole, Int.floor_natCast_add, floor_half, add_zero, Int.toNat_natCast]

end Rounding

/-- Differences of neighbours. -/
def gaps (places : List Nat) : List Nat :=
  places.zipWith (fun place next => next - place) places.tail

/-- Places that spread over a list of some length, from end to end and with gaps that are alike. -/
structure IsEven (count : Nat) (places : List Nat) : Prop where
  increasing : places.Pairwise (· < ·)
  first : places.head? = some 0
  last : places.getLast? = some (count - 1)
  alike : ∀ gap ∈ gaps places, ∀ other ∈ gaps places, gap ≤ other + 1

theorem mem_gaps {places : List Nat} {gap : Nat} (among : gap ∈ gaps places) :
    ∃ index, ∃ next : index + 1 < places.length, gap = places[index + 1] - places[index] := by
  obtain ⟨index, short, rfl⟩ := List.mem_iff_getElem.mp among
  have next : index + 1 < places.length := by
    simp only [gaps, List.length_zipWith, List.length_tail] at short
    omega
  refine ⟨index, next, ?_⟩
  simp only [gaps, List.getElem_zipWith, List.getElem_tail]

theorem places_even {count most : Nat} (least : 2 ≤ most) (longer : most < count) :
    IsEven count ((List.range most).map (place count most)) := by
  have apart := one_lt_step least longer
  have increasing := place_strict_mono apart
  constructor
  case increasing => exact List.pairwise_map.mpr (List.pairwise_lt_range.imp @increasing)
  case first => rw [List.head?_map, List.head?_range, if_neg (by omega), Option.map_some, place_zero]
  case last =>
    rw [List.getLast?_map, List.getLast?_range, if_neg (by omega), Option.map_some,
      place_last least longer]
  case alike =>
    have size : ∀ gap ∈ gaps ((List.range most).map (place count most)),
        ⌊step count most⌋.toNat ≤ gap ∧ gap ≤ ⌊step count most⌋.toNat + 1 := by
      intro gap among
      obtain ⟨index, next, rfl⟩ := mem_gaps among
      simp only [List.getElem_map, List.getElem_range]
      have between := place_succ (zero_le_one.trans apart.le) index
      omega
    intro gap among other also
    have above := (size gap among).2
    have below := (size other also).1
    omega

section Items

variable {item : Type} {items : List item} {places : List Nat}

/-- What is kept are the items at the places, if all of them are places of the list. -/
theorem kept_eq (within : ∀ place ∈ places, place < items.length) :
    (places.filterMap fun place => items.toArray[place]?) =
      places.pmap (fun place short => items[place]) within := by
  induction places with
  | nil => rfl
  | cons place rest rest_ih =>
      have short : place < items.length := within place List.mem_cons_self
      have here : items.toArray[place]? = some items[place] :=
        List.getElem?_toArray.trans (List.getElem?_eq_getElem _)
      rw [List.filterMap_cons_some here, List.pmap_cons,
        rest_ih fun other among => within other (List.mem_cons_of_mem place among)]

theorem kept_at (within : ∀ place ∈ places, place < items.length) :
    (places.pmap (fun place short => items[place]) within).map some =
      places.map fun place => items[place]? := by
  rw [List.map_pmap, ← List.pmap_eq_map within]
  exact List.pmap_congr_left places fun place _ short _ => (List.getElem?_eq_getElem short).symm

/-- Items at increasing places are kept in their order. -/
theorem kept_sublist (within : ∀ place ∈ places, place < items.length)
    (increasing : places.Pairwise (· < ·)) :
    (places.pmap (fun place short => items[place]) within).Sublist items := by
  have ascending : (places.pmap Fin.mk within).Pairwise (· < ·) :=
    (List.pairwise_pmap within).mpr (increasing.imp fun less _ _ => less)
  have chosen := List.map_getElem_sublist ascending
  rwa [List.map_pmap] at chosen

end Items

/-- A list is thinned to items at places that are spread evenly from its first to its last one. A
list that is short enough is kept. -/
theorem thinned_evenly {item : Type} {most : Nat} (least : 2 ≤ most) (items : List item) :
    ∃ kept, thin Rat most items = .ok kept ∧ kept.Sublist items ∧
      kept.length = min items.length most ∧
      (most < items.length →
        ∃ spread, places Rat items.length most = .ok spread ∧ IsEven items.length spread ∧
          kept.map some = spread.map fun place => items[place]?) := by
  rcases Nat.lt_or_ge most items.length with longer | short
  · let spread := (List.range most).map (place items.length most)
    have even : IsEven items.length spread := places_even least longer
    have within : ∀ place ∈ spread, place < items.length := by
      intro place among
      obtain ⟨index, low, rfl⟩ := List.mem_map.mp among
      have before : index ≤ most - 1 := Nat.le_sub_one_of_lt (List.mem_range.mp low)
      have reached :=
        (place_strict_mono (one_lt_step least longer)).monotone before
      rw [place_last least longer] at reached
      omega
    refine ⟨spread.pmap (fun place short => items[place]) within, ?_,
      kept_sublist within even.increasing, ?_, fun _ => ⟨spread, places_eq least, even,
      kept_at within⟩⟩
    · rw [thin, if_neg (Nat.not_le.mpr longer)]
      show (places Rat items.length most).map _ = _
      rw [places_eq least]
      exact congrArg Except.ok (kept_eq within)
    · rw [List.length_pmap, List.length_map, List.length_range, Nat.min_eq_right longer.le]
  · refine ⟨items, if_pos short, List.Sublist.refl items, (Nat.min_eq_left short).symm, ?_⟩
    exact fun longer => absurd short (Nat.not_le.mpr longer)

theorem six_thinned_to_four :
    2 ≤ 4 ∧ 4 < (List.range 6).length ∧ thin Rat 4 (List.range 6) = .ok [0, 2, 3, 5] ∧
      IsEven 6 [0, 2, 3, 5] := by
  have computed : (thin Rat 4 (List.range 6)).toOption = some [0, 2, 3, 5] ∧
      (places Rat 6 4).toOption = some [0, 2, 3, 5] := by decide +kernel
  obtain ⟨kept, thinned, _, _, spread⟩ := thinned_evenly (by decide : 2 ≤ 4) (List.range 6)
  obtain ⟨places, found, even, _⟩ := spread (by decide)
  rw [List.length_range] at found even
  rw [thinned, found] at computed
  obtain ⟨⟨⟩, ⟨⟩⟩ := computed
  exact ⟨by decide, by decide, thinned, even⟩

end FormulaPlot.Thinning
