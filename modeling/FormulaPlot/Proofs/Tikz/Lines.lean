import FormulaPlot.Tikz.Number
import Mathlib.Data.List.Forall2

/-!
Texts without line ends. Numbers, points and colours of documents are such texts.
-/

namespace FormulaPlot

set_option autoImplicit false

/-- No line ends within the text. -/
def OneLine (text : String) : Prop := '\n' ∉ text.toList

instance (text : String) : Decidable (OneLine text) :=
  inferInstanceAs (Decidable ('\n' ∉ text.toList))

@[simp] theorem one_line_append {first second : String} :
    OneLine (first ++ second) ↔ OneLine first ∧ OneLine second := by
  simp [OneLine, String.toList_append, not_or]

theorem one_line_of_characters {characters : List Char} (plain : '\n' ∉ characters) :
    OneLine (String.ofList characters) := by
  rwa [OneLine, String.toList_ofList]

theorem one_line_if (wanted : Bool) {first second : String} (plainFirst : OneLine first)
    (plainSecond : OneLine second) : OneLine (if wanted then first else second) := by
  split
  · exact plainFirst
  · exact plainSecond

/-! Lists of lines -/

def EachOneLine (lines : List String) : Prop := ∀ line ∈ lines, OneLine line

@[simp] theorem each_one_line_nil : EachOneLine [] := List.forall_mem_nil _

@[simp] theorem each_one_line_cons {first : String} {rest : List String} :
    EachOneLine (first :: rest) ↔ OneLine first ∧ EachOneLine rest := List.forall_mem_cons

@[simp] theorem each_one_line_append {first second : List String} :
    EachOneLine (first ++ second) ↔ EachOneLine first ∧ EachOneLine second :=
  List.forall_mem_append

instance (lines : List String) : Decidable (EachOneLine lines) :=
  inferInstanceAs (Decidable (∀ line ∈ lines, OneLine line))

theorem one_line_intercalate {separator : String} {texts : List String}
    (plain : OneLine separator) (each : EachOneLine texts) :
    OneLine (separator.intercalate texts) := by
  induction texts with
  | nil =>
      rw [String.intercalate_nil]
      exact one_line_of_characters (by decide)
  | cons first rest induction =>
      obtain ⟨plainFirst, others⟩ := each_one_line_cons.mp each
      cases rest with
      | nil => rwa [String.intercalate_singleton]
      | cons second rest =>
          rw [String.intercalate_cons_cons]
          exact one_line_append.mpr ⟨one_line_append.mpr ⟨plainFirst, plain⟩, induction others⟩

/-! Results -/

/-- Whatever a computation gives has a property. -/
structure Gives {ε α : Type} (property : α → Prop) (computed : Except ε α) : Prop where
  of_ok : ∀ value, computed = .ok value → property value

section Gives

variable {ε ζ α β : Type} {property : α → Prop} {other : β → Prop} {computed : Except ε α}

theorem gives_ok {value : α} (holds : property value) :
    Gives property (.ok value : Except ε α) where
  of_ok found same := by
    injection same with same
    rwa [← same]

theorem gives_pure {value : α} (holds : property value) :
    Gives property (pure value : Except ε α) := gives_ok holds

theorem gives_error (fault : ε) : Gives property (.error fault : Except ε α) where
  of_ok value same := by contradiction

theorem gives_anything (computed : Except ε α) : Gives (fun _ => True) computed :=
  ⟨fun _ _ => trivial⟩

theorem Gives.as_result (gives : Gives property computed) :
    Gives (fun value => computed = .ok value ∧ property value) computed :=
  ⟨fun value same => ⟨same, gives.of_ok value same⟩⟩

theorem Gives.bind {next : α → Except ε β} (gives : Gives property computed)
    (goesOn : ∀ value, property value → Gives other (next value)) :
    Gives other (computed >>= next) := by
  cases computed with
  | error fault => exact gives_error fault
  | ok value => exact goesOn value (gives.of_ok value rfl)

theorem Gives.map {change : α → β} (gives : Gives property computed)
    (keeps : ∀ value, property value → other (change value)) :
    Gives other (computed.map change) := by
  cases computed with
  | error fault => exact gives_error fault
  | ok value => exact gives_ok (keeps value (gives.of_ok value rfl))

theorem gives_each {relation : β → α → Prop} {items : List β} {compute : β → Except ε α}
    (each : ∀ item ∈ items, Gives (relation item) (compute item)) :
    Gives (List.Forall₂ relation items) (items.mapM compute) := by
  induction items with
  | nil => exact gives_pure .nil
  | cons item rest induction =>
      obtain ⟨first, others⟩ := List.forall_mem_cons.mp each
      rw [List.mapM_cons]
      apply first.bind
      intro value holds
      apply (induction others).bind
      intro values hold
      exact gives_pure (.cons holds hold)

theorem forall_mem_iff_of_forall₂ {items : List β} {values : List α}
    (related : List.Forall₂ (fun item value => property value ↔ other item) items values) :
    (∀ value ∈ values, property value) ↔ ∀ item ∈ items, other item := by
  induction related with
  | nil => simp
  | cons first rest induction => rw [List.forall_mem_cons, List.forall_mem_cons, first, induction]

theorem gives_all {items : List β} {compute : β → Except ε α}
    (each : ∀ item ∈ items, Gives property (compute item)) :
    Gives (fun values => ∀ value ∈ values, property value) (items.mapM compute) := by
  have related : ∀ item ∈ items, Gives (fun value => property value ↔ True) (compute item) :=
    fun item member => ⟨fun value same => iff_true_intro ((each item member).of_ok value same)⟩
  constructor
  intro values computed
  exact (forall_mem_iff_of_forall₂ ((gives_each related).of_ok values computed)).mpr
    fun _ _ => trivial

end Gives

/-! Numbers -/

namespace Decimal

theorem no_newline_in_digits (number : Nat) : '\n' ∉ digits number := by
  intro newline
  exact absurd (Nat.isDigit_of_mem_toDigits (by decide) (by decide) newline) (by decide)

theorem no_newline_in_pad_left {filler : Char} {characters : List Char} (width : Nat)
    (visible : filler ≠ '\n') (plain : '\n' ∉ characters) :
    '\n' ∉ padLeft width filler characters := by
  simp [padLeft, plain, visible.symm]

theorem drop_end_while_subset (drop : Char → Bool) (characters : List Char) :
    dropEndWhile drop characters ⊆ characters := by
  intro character member
  have suffix := List.dropWhile_suffix (l := characters.reverse) drop
  exact List.mem_reverse.mp (suffix.subset (List.mem_reverse.mp member))

theorem trim_fraction_subset (characters : List Char) : trimFraction characters ⊆ characters := by
  unfold trimFraction
  split
  · exact List.Subset.trans (drop_end_while_subset _ _) (drop_end_while_subset _ _)
  · exact List.Subset.refl _

theorem no_newline_in_fixed_magnitude (places : Nat) (magnitude : Rat) :
    '\n' ∉ fixedMagnitude places magnitude := by
  have padded := no_newline_in_pad_left (places + 1) (by decide : '0' ≠ '\n')
    (no_newline_in_digits (units magnitude places))
  have front := fun count => mt (List.mem_of_mem_take (i := count)) padded
  have behind := fun count => mt (List.mem_of_mem_drop (i := count)) padded
  unfold fixedMagnitude
  dsimp only
  split
  · exact front _
  · simp [front, behind]

theorem no_newline_in_mantissa {number : Scientific} (plain : '\n' ∉ number.significand) :
    '\n' ∉ number.mantissa := by
  unfold Scientific.mantissa
  split
  · next first second rest shape =>
      rw [shape] at plain
      simp_all
  · exact plain

theorem no_newline_in_exponential (width : Nat) {number : Scientific}
    (plain : '\n' ∉ number.significand) : '\n' ∉ number.exponential width := by
  have sign : '\n' ≠ if number.exponent < 0 then '-' else '+' := by split <;> decide
  have exponent := no_newline_in_pad_left width (by decide : '0' ≠ '\n')
    (no_newline_in_digits number.exponent.natAbs)
  simp [Scientific.exponential, no_newline_in_mantissa plain, sign, exponent]

theorem no_newline_in_scientific (count : Nat) (magnitude : Rat) :
    '\n' ∉ (Scientific.ofMagnitude count magnitude).significand := by
  unfold Scientific.ofMagnitude
  split
  · simp [Scientific.zero]
  · dsimp only
    split
    · exact mt List.mem_of_mem_take (no_newline_in_digits _)
    · exact no_newline_in_digits _

theorem one_line_signed (negative : Bool) {characters : List Char} (plain : '\n' ∉ characters) :
    OneLine (signed negative characters) := by
  apply one_line_of_characters
  split
  · simp [plain]
  · exact plain

theorem one_line_fixed (places : Nat) (number : Extended) : OneLine (fixed places number) := by
  cases number with
  | finite negative magnitude =>
      exact one_line_signed negative (no_newline_in_fixed_magnitude places magnitude)
  | infinite negative => exact one_line_signed negative (by decide)
  | notANumber => exact (by decide : OneLine "nan")

theorem one_line_fixed_trimmed (places : Nat) (number : Extended) :
    OneLine (fixedTrimmed places number) := by
  unfold fixedTrimmed
  dsimp only
  split
  · decide
  · exact one_line_of_characters
      (mt (@trim_fraction_subset _ _) (one_line_fixed places number))

end Decimal

theorem one_line_natural (number : Nat) : OneLine (toString number) := by
  rw [OneLine, Nat.toString_eq_repr, Nat.toList_repr]
  exact Decimal.no_newline_in_digits number

namespace Tikz

theorem one_line_color (color : Color) : OneLine (colorText color) := by
  unfold colorText
  simp only [one_line_append, one_line_natural, and_true]
  and_intros <;> exact one_line_of_characters (by decide)

theorem one_line_braced_iff {text : String} : OneLine (braced text) ↔ OneLine text := by
  have opens : OneLine "\x7b" := one_line_of_characters (by decide)
  have closes : OneLine "\x7d" := one_line_of_characters (by decide)
  unfold braced
  simp only [one_line_append, opens, closes, true_and, and_true]

theorem number_text_one_line (number : Extended) : Gives OneLine (numberText number) := by
  cases number with
  | finite negative magnitude =>
      apply gives_ok
      split
      · exact Decimal.one_line_fixed_trimmed _ _
      · exact Decimal.one_line_signed negative
          (Decimal.no_newline_in_exponential 1 (Decimal.no_newline_in_scientific 3 magnitude))
  | infinite negative => exact gives_error _
  | notANumber => exact gives_ok (Decimal.one_line_fixed_trimmed _ _)

variable {α : Type} [Scalar α]

theorem number_one_line (value : α) : Gives OneLine (number value) := number_text_one_line _

theorem fixed_number_one_line (places : Nat) (value : Float) :
    Gives OneLine (fixedNumber places value) := by
  unfold fixedNumber
  split
  · exact gives_ok (Decimal.one_line_fixed _ _)
  · exact gives_error _

theorem color_one_line (value : Datum) : Gives OneLine (color value) :=
  (gives_anything (colorOf value)).map fun color _ => one_line_color color

/-- Two numbers within a line. -/
theorem numbers_one_line (x y : α) {write : String → String → String}
    (plain : ∀ {first second}, OneLine first → OneLine second → OneLine (write first second)) :
    Gives OneLine (do
      let first ← number x
      let second ← number y
      return write first second) := by
  apply (number_one_line x).bind
  intro first plainFirst
  apply (number_one_line y).bind
  intro second plainSecond
  exact gives_pure (plain plainFirst plainSecond)

theorem pair_one_line (x y : α) : Gives OneLine (pair x y) := by
  apply numbers_one_line x y
  intro first second plainFirst plainSecond
  simp only [one_line_append, plainFirst, plainSecond, and_true]
  and_intros <;> exact one_line_of_characters (by decide)

end Tikz

end FormulaPlot
