import FormulaPlot.Scene.Graph
import Mathlib.Algebra.Order.Ring.Unbundled.Rat
import Mathlib.Tactic.Linarith
import Mathlib.Tactic.NormNum

/-!
Declared domains without rounding. Where the visible part of a declared domain has a length, it is
what is both visible and admitted, unless the lower end is open and the upper end lies to the left
of everything visible.
-/

namespace FormulaPlot

open FormulaPlot.Scalar

set_option autoImplicit false

namespace Interval

variable {interval visible common : Interval Rat} {lo hi value : Rat}

theorem contains_iff :
    interval.contains value = true ↔ interval.lo ≤ value ∧ value ≤ interval.hi := by
  simp only [contains, Bool.and_eq_true, decide_eq_true_iff]

theorem ordered_of_lt (proper : lo < hi) : ordered lo hi = ⟨lo, hi⟩ :=
  if_neg (not_le.mpr proper)

/-- Ends in the wrong order are exchanged, and the upper one is moved up a little. -/
theorem ordered_of_le (reversed : hi ≤ lo) : ordered lo hi = ⟨hi, lo + degeneratePad⟩ := by
  have least : minimum lo hi = hi := by
    unfold minimum
    split
    · rfl
    · next above => exact le_antisymm (not_lt.mp above) reversed
  have greatest : maximum lo hi = lo := if_neg (not_lt.mpr reversed)
  rw [ordered, if_pos reversed, least, greatest]

theorem maximum_le_iff : maximum lo hi ≤ value ↔ lo ≤ value ∧ hi ≤ value := by
  unfold maximum
  split
  · next below => exact ⟨fun most => ⟨below.le.trans most, most⟩, And.right⟩
  · next above => exact ⟨fun most => ⟨most, (not_lt.mp above).trans most⟩, And.left⟩

theorem le_minimum_iff : value ≤ minimum lo hi ↔ value ≤ lo ∧ value ≤ hi := by
  unfold minimum
  split
  · next below => exact ⟨fun least => ⟨least.trans below.le, least⟩, And.right⟩
  · next above => exact ⟨fun least => ⟨least, least.trans (not_lt.mp above)⟩, And.left⟩

theorem overlap_contains_iff : (interval.overlap visible).contains value = true ↔
    interval.contains value = true ∧ visible.contains value = true := by
  simp only [contains_iff, overlap, maximum_le_iff, le_minimum_iff]
  constructor
  · rintro ⟨⟨low, lower⟩, high, higher⟩
    exact ⟨⟨low, high⟩, lower, higher⟩
  · rintro ⟨⟨low, high⟩, lower, higher⟩
    exact ⟨⟨low, lower⟩, high, higher⟩

theorem overlap_of_clip (clipped : interval.clip? visible = some common) :
    interval.overlap visible = common ∧ common.lo < common.hi := by
  simp only [clip?] at clipped
  split at clipped
  · contradiction
  · next some =>
      injection clipped with same
      subst same
      rw [isEmpty, decide_eq_true_iff, not_le] at some
      exact ⟨rfl, some⟩

theorem clip_eq_none (apart : ¬(interval.overlap visible).lo < (interval.overlap visible).hi) :
    interval.clip? visible = none := by
  have empty : (interval.overlap visible).isEmpty = true := decide_eq_true (not_lt.mp apart)
  simp only [clip?, empty, if_true]

theorem clip_of_lt (proper : (interval.overlap visible).lo < (interval.overlap visible).hi) :
    interval.clip? visible = some (interval.overlap visible) := by
  have some : (interval.overlap visible).isEmpty = false := decide_eq_false (not_le.mpr proper)
  simp only [clip?, some, Bool.false_eq_true, if_false]

end Interval

namespace DomainText

/-- The ends that are given as numbers. -/
def lower? (domain : DomainText) : Option Rat := Domain.leadingNumber? domain.lo

def upper? (domain : DomainText) : Option Rat := Domain.leadingNumber? domain.hi

/-- Places at which something may be drawn. -/
def Admits (domain : DomainText) (place : Rat) : Prop :=
  (∀ lo ∈ domain.lower?, lo ≤ place) ∧ ∀ hi ∈ domain.upper?, place ≤ hi

/-- Two given ends are in their proper order. -/
def InOrder (domain : DomainText) : Prop :=
  ∀ lo ∈ domain.lower?, ∀ hi ∈ domain.upper?, lo < hi

/-- The lower end is open and the upper end does not lie inside what is visible. -/
def Stranded (domain : DomainText) (visible : Interval Rat) : Prop :=
  domain.lower? = none ∧ ∃ hi ∈ domain.upper?, hi ≤ visible.lo

instance (domain : DomainText) : Decidable domain.InOrder :=
  inferInstanceAs (Decidable (∀ lo ∈ domain.lower?, ∀ hi ∈ domain.upper?, lo < hi))

instance (domain : DomainText) (visible : Interval Rat) : Decidable (domain.Stranded visible) :=
  inferInstanceAs (Decidable (domain.lower? = none ∧ ∃ hi ∈ domain.upper?, hi ≤ visible.lo))

/-- An interval holds what is both visible and admitted, and nothing else. -/
def Fills (domain : DomainText) (visible common : Interval Rat) : Prop :=
  ∀ place, common.contains place = true ↔ visible.contains place = true ∧ domain.Admits place

/-- What is both visible and admitted has no length. -/
def Narrow (domain : DomainText) (visible : Interval Rat) : Prop :=
  ∀ first second, visible.contains first = true → domain.Admits first →
    visible.contains second = true → domain.Admits second → first = second

theorem visible_eq (domain : DomainText) (visible : Interval Rat) :
    domain.visible? visible = (Interval.ordered (domain.lower?.getD visible.lo)
      (domain.upper?.getD visible.hi)).clip? visible := rfl

variable {domain : DomainText} {visible common : Interval Rat}

/-- Ends that are given or taken from what is visible admit the same visible places as the given
ends alone. -/
theorem admits_iff {place : Rat} (seen : visible.contains place = true) :
    domain.Admits place ↔
      domain.lower?.getD visible.lo ≤ place ∧ place ≤ domain.upper?.getD visible.hi := by
  obtain ⟨left, right⟩ := Interval.contains_iff.mp seen
  apply and_congr
  · cases domain.lower? with
    | none => exact ⟨fun _ => left, fun _ _ given => absurd given (Option.not_mem_none _)⟩
    | some lo => exact ⟨fun all => all lo rfl, fun low _ given => Option.some.inj given ▸ low⟩
  · cases domain.upper? with
    | none => exact ⟨fun _ => right, fun _ _ given => absurd given (Option.not_mem_none _)⟩
    | some hi => exact ⟨fun all => all hi rfl, fun high _ given => Option.some.inj given ▸ high⟩

theorem contains_of_admitted {place : Rat} (seen : visible.contains place = true)
    (admitted : domain.Admits place) :
    (Interval.overlap ⟨domain.lower?.getD visible.lo, domain.upper?.getD visible.hi⟩
      visible).contains place = true := by
  rw [Interval.overlap_contains_iff, Interval.contains_iff]
  exact ⟨(admits_iff seen).mp admitted, seen⟩

/-- The ends that a domain is left with are in their proper order, or the lower one lies to the
right of everything visible. -/
theorem ends_in_order (proper : visible.lo < visible.hi) (inOrder : domain.InOrder)
    (afloat : ¬domain.Stranded visible) :
    domain.lower?.getD visible.lo < domain.upper?.getD visible.hi ∨
      domain.upper? = none ∧ visible.hi ≤ domain.lower?.getD visible.lo := by
  cases lower : domain.lower? with
  | none =>
      cases upper : domain.upper? with
      | none => exact .inl proper
      | some hi =>
          have inside : ¬hi ≤ visible.lo := fun left => afloat ⟨lower, hi, upper, left⟩
          exact .inl (not_le.mp inside)
  | some lo =>
      cases upper : domain.upper? with
      | none => exact (lt_or_ge lo visible.hi).imp id fun right => ⟨rfl, right⟩
      | some hi => exact .inl (inOrder lo lower hi upper)

/-- A lower end to the right of everything visible leaves nothing to be drawn. -/
theorem visible_eq_none (upperOpen : domain.upper? = none)
    (right : visible.hi ≤ domain.lower?.getD visible.lo) : domain.visible? visible = none := by
  rw [visible_eq, upperOpen, Option.getD_none, Interval.ordered_of_le right]
  apply Interval.clip_eq_none
  apply not_lt.mpr
  have high := (Interval.le_minimum_iff.mp (le_refl (Interval.overlap
    ⟨visible.hi, domain.lower?.getD visible.lo + Interval.degeneratePad⟩ visible).hi)).2
  have low := (Interval.maximum_le_iff.mp (le_refl (Interval.overlap
    ⟨visible.hi, domain.lower?.getD visible.lo + Interval.degeneratePad⟩ visible).lo)).1
  exact high.trans low

theorem Fills.admits (fills : domain.Fills visible common) (place : Rat)
    (here : common.contains place = true) : domain.Admits place := ((fills place).mp here).2

theorem visible_fills (proper : visible.lo < visible.hi) (inOrder : domain.InOrder)
    (afloat : ¬domain.Stranded visible) (shown : domain.visible? visible = some common) :
    domain.Fills visible common := by
  intro place
  rcases ends_in_order proper inOrder afloat with ends | ⟨upperOpen, right⟩
  · rw [visible_eq, Interval.ordered_of_lt ends] at shown
    rw [← (Interval.overlap_of_clip shown).1, Interval.overlap_contains_iff, and_comm]
    apply and_congr_right
    intro seen
    rw [admits_iff seen, Interval.contains_iff]
  · rw [visible_eq_none upperOpen right] at shown
    contradiction

theorem visible_proper (shown : domain.visible? visible = some common) : common.lo < common.hi :=
  (Interval.overlap_of_clip shown).2

theorem visible_of_narrow (proper : visible.lo < visible.hi) (inOrder : domain.InOrder)
    (afloat : ¬domain.Stranded visible) (narrow : domain.Narrow visible) :
    domain.visible? visible = none := by
  cases shown : domain.visible? visible with
  | none => rfl
  | some common =>
      have length := visible_proper shown
      have inside := visible_fills proper inOrder afloat shown
      have ⟨seen, admitted⟩ :=
        (inside common.lo).mp (Interval.contains_iff.mpr ⟨le_rfl, length.le⟩)
      have ⟨seenToo, admittedToo⟩ :=
        (inside common.hi).mp (Interval.contains_iff.mpr ⟨length.le, le_rfl⟩)
      exact absurd (narrow _ _ seen admitted seenToo admittedToo) length.ne

/-- The ends of a stranded domain are taken for reversed ones, and what is drawn lies to the right
of the upper end. -/
theorem visible_of_stranded (proper : visible.lo < visible.hi)
    (stranded : domain.Stranded visible) :
    ∃ common, domain.visible? visible = some common ∧
      common.contains common.hi = true ∧ ¬domain.Admits common.hi := by
  obtain ⟨lowerOpen, hi, upper, left⟩ := stranded
  have given : domain.upper? = some hi := upper
  have padded : visible.lo < visible.lo + Interval.degeneratePad := by
    apply lt_add_of_pos_right
    show (0 : Rat) < 1e-6
    norm_num
  have beyond : visible.lo <
      (Interval.overlap ⟨hi, visible.lo + Interval.degeneratePad⟩ visible).hi := by
    simp only [Interval.overlap, minimum]
    split
    · exact proper
    · exact padded
  have start : (Interval.overlap ⟨hi, visible.lo + Interval.degeneratePad⟩ visible).lo ≤
      visible.lo := Interval.maximum_le_iff.mpr ⟨left, le_rfl⟩
  have shown : domain.visible? visible =
      some (Interval.overlap ⟨hi, visible.lo + Interval.degeneratePad⟩ visible) := by
    rw [visible_eq, lowerOpen, given, Option.getD_none, Option.getD_some,
      Interval.ordered_of_le left]
    exact Interval.clip_of_lt (start.trans_lt beyond)
  refine ⟨_, shown, Interval.contains_iff.mpr ⟨(visible_proper shown).le, le_rfl⟩, ?_⟩
  intro admitted
  exact absurd (admitted.2 hi upper) (not_le.mpr (left.trans_lt beyond))

theorem afloat_of_fills (proper : visible.lo < visible.hi)
    (shown : domain.visible? visible = some common)
    (fills : domain.Fills visible common) : ¬domain.Stranded visible := by
  intro stranded
  obtain ⟨drawn, same, here, beyond⟩ := visible_of_stranded proper stranded
  rw [shown] at same
  injection same with same
  subst same
  exact beyond (fills.admits common.hi here)

/-- A domain is hidden only where it has to be. -/
theorem narrow_of_hidden (proper : visible.lo < visible.hi) (inOrder : domain.InOrder)
    (hidden : domain.visible? visible = none) : domain.Narrow visible := by
  have afloat : ¬domain.Stranded visible := by
    intro stranded
    obtain ⟨drawn, shown, _⟩ := visible_of_stranded proper stranded
    rw [hidden] at shown
    contradiction
  have notBelow : ∀ first second, visible.contains first = true → domain.Admits first →
      visible.contains second = true → domain.Admits second → ¬first < second := by
    intro first second seen admitted seenToo admittedToo below
    rcases ends_in_order proper inOrder afloat with ends | ⟨_, right⟩
    · rw [visible_eq, Interval.ordered_of_lt ends] at hidden
      have start := contains_of_admitted seen admitted
      have stop := contains_of_admitted seenToo admittedToo
      have length := ((Interval.contains_iff.mp start).1.trans_lt below).trans_le
        (Interval.contains_iff.mp stop).2
      rw [Interval.clip_of_lt length] at hidden
      contradiction
    · have beyond := right.trans ((admits_iff seen).mp admitted).1
      exact absurd ((Interval.contains_iff.mp seenToo).2.trans beyond) (not_le.mpr below)
  intro first second seen admitted seenToo admittedToo
  apply le_antisymm
  · exact not_lt.mp (notBelow second first seenToo admittedToo seen admitted)
  · exact not_lt.mp (notBelow first second seen admitted seenToo admittedToo)

end DomainText

end FormulaPlot
