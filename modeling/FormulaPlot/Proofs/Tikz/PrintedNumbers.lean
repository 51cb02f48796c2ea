import FormulaPlot.Proofs.Text.Blanks
import FormulaPlot.Proofs.Tikz.Bounds

/-!
Printed numbers. A text denotes one decimal, which lies as close to the printed number as its last
place allows and on the same side of zero. The fixed notation leaves out what says nothing, and
both notations together keep the order of numbers.
-/

namespace FormulaPlot

open FormulaPlot.Binary64 FormulaPlot.Decimal FormulaPlot.Text

set_option autoImplicit false

namespace Decimal

/-- The numeral that a text starts with, behind white space, reaches to its end and has this
value. -/
def Denotes (text : String) (value : Rat) : Prop :=
  ∃ numeral, takeNumeral (text.toList.dropWhile isBlank) = some (numeral, []) ∧
    numeral.value = value

theorem Denotes.unique {text : String} {value other : Rat} (first : Denotes text value)
    (second : Denotes text other) : value = other := by
  obtain ⟨numeral, taken, rfl⟩ := first
  obtain ⟨same, again, rfl⟩ := second
  rw [taken] at again
  injection again with again
  injection again with again
  rw [again]

/-- No numeral starts with white space. -/
theorem take_numeral_blank {character : Char} (blank : isBlank character = true)
    (rest : List Char) : takeNumeral (character :: rest) = none := by
  have other (mark : Char) (stays : isBlank mark = false) : character ≠ mark := by
    rintro rfl
    rw [blank] at stays
    contradiction
  have unsigned : takeSign (character :: rest) = (false, character :: rest) := by
    unfold takeSign
    split
    · next same => exact absurd (List.head_eq_of_cons_eq same) (other '-' rfl)
    · next same => exact absurd (List.head_eq_of_cons_eq same) (other '+' rfl)
    · rfl
  have none : takeDigits (character :: rest) = ([], character :: rest) := by
    rw [takeDigits, blank_not_decimal blank]
  have noPoint : (character :: rest).head? ≠ some '.' := fun point =>
    other '.' rfl (Option.some_injective _ point)
  rw [takeNumeral, unsigned]
  dsimp only
  rw [none]
  dsimp only
  rw [take_fraction_none noPoint]
  rfl

theorem denotes_of_read_back {text : String} {value : Rat} (read : readBack? text = some value) :
    Denotes text value := by
  obtain ⟨numeral, whole, worth⟩ := Option.map_eq_some_iff.mp read
  have taken : takeNumeral text.toList = some (numeral, []) := by
    unfold readNumeral? at whole
    split at whole
    · next other taken =>
        injection whole with same
        rw [taken, same]
    · contradiction
  refine ⟨numeral, ?_, worth⟩
  cases characters : text.toList with
  | nil =>
      rw [characters] at taken
      exact taken
  | cons first rest =>
      rw [characters] at taken
      have solid : ¬isBlank first = true := by
        intro blank
        rw [take_numeral_blank blank] at taken
        contradiction
      rw [List.dropWhile_cons_of_neg solid]
      exact taken

/-! Needless characters -/

/-- A text without needless zeros, points and signs. -/
structure IsTidy (text : String) : Prop where
  zeros : '.' ∈ text.toList → text.toList.getLast? ≠ some '0'
  point : text.toList.getLast? ≠ some '.'
  sign : text ≠ "-0"

theorem last_of_drop_end (mark : Char) (characters : List Char) :
    (dropEndWhile (· == mark) characters).getLast? ≠ some mark := by
  intro ends
  rw [dropEndWhile, List.getLast?_reverse] at ends
  have other := List.head?_dropWhile_not (· == mark) characters.reverse
  rw [ends] at other
  simp at other

/-- Digits and decimals end with a digit, which is a decimal if there is a point. -/
theorem last_of_pointed {whole fraction : List Char} (plain : Plain whole) (any : whole ≠ [])
    (decimals : Plain fraction) :
    ∃ last, (pointed whole fraction).getLast? = some last ∧ last.isDigit = true ∧
      ('.' ∈ pointed whole fraction → fraction.getLast? = some last) := by
  cases fraction with
  | nil =>
      refine ⟨whole.getLast any, List.getLast?_eq_some_getLast any,
        plain _ (List.getLast_mem any), fun point => ?_⟩
      exact absurd (plain '.' point) (by decide)
  | cons first others =>
      have some : first :: others ≠ [] := List.cons_ne_nil _ _
      have ends := List.getLast?_eq_some_getLast some
      refine ⟨(first :: others).getLast some, ?_, decimals _ (List.getLast_mem some),
        fun _ => ends⟩
      show (whole ++ '.' :: first :: others).getLast? = _
      rw [List.getLast?_append, List.getLast?_cons_cons, ends]
      rfl

theorem tidy_of_last {characters : List Char} {last : Char}
    (ends : characters.getLast? = some last) (digit : last.isDigit = true)
    (zeros : '.' ∈ characters → last ≠ '0') (sign : String.ofList characters ≠ "-0") :
    IsTidy (String.ofList characters) := by
  constructor
  case zeros =>
    rw [String.toList_ofList, ends]
    exact fun point zero => zeros point (Option.some_injective _ zero)
  case point =>
    rw [String.toList_ofList, ends]
    intro point
    rw [Option.some_injective _ point] at digit
    contradiction
  case sign => exact sign

theorem fixed_trimmed_tidy {places : Nat} (some : 0 < places) (negative : Bool)
    (magnitude : Rat) : IsTidy (fixedTrimmed places (.finite negative magnitude)) := by
  obtain ⟨whole, fraction, plain, any, decimals, _, _, text⟩ :=
    trimmed_parts some negative magnitude
  obtain ⟨last, ends, digit, decimal⟩ := last_of_pointed plain any (plain_drop_end decimals '0')
  have zeros : '.' ∈ pointed whole (dropEndWhile (· == '0') fraction) → last ≠ '0' := by
    rintro point rfl
    exact last_of_drop_end '0' fraction (decimal point)
  unfold fixedTrimmed
  dsimp only
  split
  · exact ⟨by decide, by decide, by decide⟩
  · next sign =>
      rw [text] at sign ⊢
      cases negative with
      | true =>
          have behind : ('-' :: pointed whole (dropEndWhile (· == '0') fraction)).getLast? =
              Option.some last := by
            rw [List.getLast?_cons, ends]
            rfl
          exact tidy_of_last behind digit
            (fun point => zeros (List.mem_of_ne_of_mem (by decide) point)) sign
      | false => exact tidy_of_last ends digit zeros sign

end Decimal

namespace Tikz

/-! Values -/

/-- No number is rounded to zero, for the power of ten below it is kept. -/
theorem rounded_pos {magnitude : Rat} (positive : 0 < magnitude) :
    0 < rounded (decimals magnitude) magnitude := by
  have reached (power : Int) (least : 10 ^ power ≤ magnitude)
      (on : 0 ≤ power + decimals magnitude) : 0 < rounded (decimals magnitude) magnitude :=
    calc (0 : Rat)
        < 10 ^ power := by positivity
      _ = rounded (decimals magnitude) (10 ^ power) := (rounded_power on).symm
      _ ≤ rounded (decimals magnitude) magnitude := rounded_mono (by positivity) least
  by_cases plain : isPlain magnitude = true
  · rcases plain_iff.mp plain with zero | ⟨least, _⟩
    · exact absurd zero positive.ne'
    · apply reached (-3)
      · norm_num at least ⊢
        exact least
      · rw [decimals_of_plain plain]
        decide
  · apply reached (leadingExponent magnitude) (leading_exponent_spec positive).1
    rw [decimals_of_not_plain plain]
    omega

theorem written_sign (value : Rat) : SignType.sign (written value) = SignType.sign value := by
  rcases lt_trichotomy value 0 with negative | rfl | positive
  · rw [written_of_neg negative, sign_neg negative]
    exact sign_neg (neg_lt_zero.mpr (rounded_pos (neg_pos.mpr negative)))
  · rw [written_of_nonneg le_rfl, rounded_zero]
  · rw [written_of_nonneg positive.le, sign_pos (rounded_pos positive), sign_pos positive]

/-- Numbers that are written without a power of ten. -/
def InFixedRange (value : Rat) : Prop := value = 0 ∨ 1 / 1000 ≤ |value| ∧ |value| < 10000

theorem plain_abs_iff {value : Rat} : isPlain |value| = true ↔ InFixedRange value := by
  rw [plain_iff, abs_eq_zero, InFixedRange]

/-- How a number is printed: as a decimal of the same sign, half of the fourth place away at most and
without needless characters, or half of the third digit away. -/
structure Shows (value : Rat) (text : String) (shown : Rat) : Prop where
  denotes : Denotes text shown
  sign : SignType.sign shown = SignType.sign value
  zero : shown = 0 ↔ value = 0
  places : InFixedRange value → |shown - value| ≤ 5 / 100000
  tidy : InFixedRange value → IsTidy text
  digits : ¬InFixedRange value → ∃ power : Int, 10 ^ power ≤ |value| ∧
    |value| < 10 ^ (power + 1) ∧ |shown - value| ≤ 10 ^ (power - 2) / 2

theorem abs_with_sign {magnitude : Rat} (least : 0 ≤ magnitude) (negative : Bool) :
    |withSign negative magnitude| = magnitude := by
  cases negative with
  | true => exact (abs_of_nonpos (neg_nonpos.mpr least)).trans (neg_neg magnitude)
  | false => exact abs_of_nonneg least

theorem number_tidy {value : Float} {text : String} (finite : value.isFinite = true)
    (range : InFixedRange (toRat value)) (printed : number value = .ok text) : IsTidy text := by
  obtain ⟨negative, magnitude, read, least, worth⟩ := read_eq finite
  have same : |toRat value| = magnitude := by
    rw [to_rat_eq finite, worth]
    exact abs_with_sign least negative
  have scalar : Scalar.read value = .finite negative magnitude := read
  rw [number, scalar, numberText, if_pos (same ▸ plain_abs_iff.mpr range)] at printed
  injection printed with printed
  rw [← printed]
  exact fixed_trimmed_tidy (by decide) negative magnitude

theorem number_shows {value : Float} (finite : value.isFinite = true) :
    ∃ text, number value = .ok text ∧ Shows (toRat value) text (written (toRat value)) := by
  obtain ⟨text, printed, read⟩ := number_reads_back finite
  refine ⟨text, printed, ?_⟩
  have error := written_error (toRat value)
  have sign := written_sign (toRat value)
  constructor
  case denotes => exact denotes_of_read_back read
  case sign => exact sign
  case zero => rw [← sign_eq_zero_iff, sign, sign_eq_zero_iff]
  case places =>
    intro range
    rw [lastPlace, decimals_of_plain (plain_abs_iff.mpr range)] at error
    norm_num at error ⊢
    exact error
  case tidy => exact fun range => number_tidy finite range printed
  case digits =>
    intro outside
    have other := mt plain_abs_iff.mp outside
    have decade := leading_exponent_spec (pos_of_not_plain (abs_nonneg _) other)
    refine ⟨leadingExponent |toRat value|, decade.1, decade.2, ?_⟩
    rw [lastPlace, decimals_of_not_plain other, neg_sub] at error
    exact error

/-- Every finite number is printed as a decimal that is close to it, and greater numbers are not
printed as smaller decimals, whatever their notations are. -/
theorem numbers_printed_faithfully {value : Float} (finite : value.isFinite = true) :
    ∃ text shown, number value = .ok text ∧ Shows (toRat value) text shown ∧
      ∀ {other : Float} {otherText : String} {otherShown : Rat}, other.isFinite = true →
        number other = .ok otherText → Denotes otherText otherShown →
        toRat value ≤ toRat other → shown ≤ otherShown := by
  obtain ⟨text, printed, shows⟩ := number_shows finite
  refine ⟨text, written (toRat value), printed, shows, ?_⟩
  intro other otherText otherShown alsoFinite alsoPrinted denotes order
  obtain ⟨same, again, otherShows⟩ := number_shows alsoFinite
  rw [again] at alsoPrinted
  injection alsoPrinted with alsoPrinted
  rw [alsoPrinted] at otherShows
  rw [denotes.unique otherShows.denotes]
  exact written_mono order

/-- Just below ten thousand and there, where the notation changes. -/
theorem switch_printed_faithfully :
    ((9999.99996 : Float).isFinite = true ∧ (10000.0 : Float).isFinite = true ∧
      toRat 9999.99996 ≤ toRat 10000.0) ∧
      ∃ shown otherShown,
        number (9999.99996 : Float) = .ok "10000" ∧ Shows (toRat 9999.99996) "10000" shown ∧
        number (10000.0 : Float) = .ok "1.00e+4" ∧ Shows (toRat 10000.0) "1.00e+4" otherShown ∧
        shown ≤ otherShown := by
  have finite : (9999.99996 : Float).isFinite = true ∧ (10000.0 : Float).isFinite = true := by
    decide +kernel
  have order : toRat 9999.99996 ≤ toRat 10000.0 := by decide +kernel
  have texts : (number (9999.99996 : Float)).toOption = some "10000" ∧
      (number (10000.0 : Float)).toOption = some "1.00e+4" := by decide +kernel
  obtain ⟨text, shown, printed, shows, below⟩ := numbers_printed_faithfully finite.1
  obtain ⟨otherText, otherShown, otherPrinted, otherShows, _⟩ :=
    numbers_printed_faithfully finite.2
  have above := below finite.2 otherPrinted otherShows.denotes order
  rw [printed, otherPrinted] at texts
  obtain ⟨⟨⟩, ⟨⟩⟩ := texts
  exact ⟨⟨finite.1, finite.2, order⟩, shown, otherShown, printed, shows, otherPrinted, otherShows,
    above⟩

end Tikz

end FormulaPlot
