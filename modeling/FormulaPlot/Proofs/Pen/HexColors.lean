import FormulaPlot.Pen.Color
import Mathlib.Data.List.Basic

/-!
Valid inks. A text spells a colour in hexadecimal exactly if it is an optional number sign with
three or six digits, and perhaps a line end behind them. What a value gives is therefore a valid ink
but for that line end.
-/

namespace FormulaPlot

set_option autoImplicit false

/-! Colours in hexadecimal -/

def IsHexDigit (character : Char) : Prop :=
  '0' ≤ character ∧ character ≤ '9' ∨ 'a' ≤ character ∧ character ≤ 'f' ∨
    'A' ≤ character ∧ character ≤ 'F'

/-- Three or six hexadecimal digits after an optional number sign, and nothing else. -/
def IsHexColor (text : List Char) : Prop :=
  ∃ sign digits, text = sign ++ digits ∧ (sign = [] ∨ sign = ['#']) ∧
    (∀ digit ∈ digits, IsHexDigit digit) ∧ (digits.length = 3 ∨ digits.length = 6)

theorem hex_digit_iff (character : Char) :
    (hexDigit? character).isSome = true ↔ IsHexDigit character := by
  have code (first second : Char) : first ≤ second ↔ first.toNat ≤ second.toNat := Iff.rfl
  simp only [IsHexDigit, code, hexDigit?]
  split
  · next digit => exact iff_of_true rfl (.inl digit)
  · split
    · next lower => exact iff_of_true rfl (.inr (.inl lower))
    · split
      · next upper => exact iff_of_true rfl (.inr (.inr upper))
      · next digit lower upper =>
          exact iff_of_false nofun fun member => member.elim digit fun rest => rest.elim lower upper

theorem IsHexColor.has_no_line_end {text : List Char} (color : IsHexColor text) : '\n' ∉ text := by
  obtain ⟨sign, digits, rfl, marked, valid, -⟩ := color
  rw [List.mem_append, not_or]
  constructor
  · rcases marked with rfl | rfl <;> decide
  · intro member
    exact absurd (valid _ member) (by unfold IsHexDigit; decide)

namespace Color

theorem hex_digits_of {digits : List Char} (valid : ∀ digit ∈ digits, IsHexDigit digit) :
    ∃ values, hexDigits? digits = some values ∧ hexDigits? (digits ++ ['\n']) = some values ∧
      values.length = digits.length := by
  induction digits with
  | nil => exact ⟨[], rfl, rfl, rfl⟩
  | cons digit rest ih =>
      obtain ⟨values, alone, ended, count⟩ := ih fun other member => valid other (.tail _ member)
      obtain ⟨value, read⟩ := Option.isSome_iff_exists.mp
        ((hex_digit_iff digit).mpr (valid digit (.head _)))
      have longer : digit ≠ '\n' := by
        intro same
        rw [same] at read
        exact absurd read nofun
      refine ⟨value :: values, ?_, ?_, congrArg (· + 1) count⟩
      · rw [hexDigits?, read, alone]
        exact fun same _ => longer same
      · rw [List.cons_append, hexDigits?, read, ended]
        exact fun same _ => longer same

theorem of_hex_digits {characters : List Char} {values : List Nat}
    (read : hexDigits? characters = some values) :
    ∃ digits, (∀ digit ∈ digits, IsHexDigit digit) ∧ digits.length = values.length ∧
      (characters = digits ∨ characters = digits ++ ['\n']) := by
  fun_induction hexDigits? characters generalizing values with
  | case1 =>
      cases read
      exact ⟨[], nofun, rfl, .inl rfl⟩
  | case2 =>
      cases read
      exact ⟨[], nofun, rfl, .inr rfl⟩
  | case3 character rest _ value others same one ih =>
      cases read
      obtain ⟨digits, valid, count, shape⟩ := ih same
      have first : IsHexDigit character :=
        (hex_digit_iff character).mp (Option.isSome_iff_exists.mpr ⟨value, one⟩)
      refine ⟨character :: digits, ?_, congrArg (· + 1) count, ?_⟩
      · exact List.forall_mem_cons.mpr ⟨first, valid⟩
      · exact shape.imp (congrArg _) (congrArg _)
  | case4 => contradiction

theorem of_digits_iff (values : List Nat) :
    (ofDigits? values).isSome = true ↔ values.length = 3 ∨ values.length = 6 := by
  unfold ofDigits?
  split
  · simp
  · simp
  · next three six =>
      refine ⟨nofun, ?_⟩
      rintro (count | count)
      · obtain ⟨red, green, blue, rfl⟩ := List.length_eq_three.mp count
        exact absurd rfl (three _ _ _)
      · match values, count with
        | [red, red2, green, green2, blue, blue2], _ => exact absurd rfl (six _ _ _ _ _ _)

theorem drop_number_sign_of {sign digits : List Char} (rest : List Char)
    (marked : sign = [] ∨ sign = ['#']) (valid : ∀ digit ∈ digits, IsHexDigit digit)
    (nonempty : digits ≠ []) :
    dropNumberSign (sign ++ (digits ++ rest)) = digits ++ rest := by
  rcases marked with rfl | rfl
  · obtain ⟨first, others, rfl⟩ := List.exists_cons_of_ne_nil nonempty
    show dropNumberSign (first :: (others ++ rest)) = _
    rw [dropNumberSign]
    · rfl
    · intro others same
      have sharp := valid first (.head _)
      rw [(List.cons.inj same).1] at sharp
      exact absurd sharp (by unfold IsHexDigit; decide)
  · rfl

theorem exists_number_sign (text : List Char) :
    ∃ sign, text = sign ++ dropNumberSign text ∧ (sign = [] ∨ sign = ['#']) := by
  unfold dropNumberSign
  split
  · exact ⟨['#'], rfl, .inr rfl⟩
  · exact ⟨[], rfl, .inl rfl⟩

/-- A text spells a colour if it is one in hexadecimal, with at most a line end behind it. -/
theorem spelled_iff (text : String) :
    (ofHex? text).isSome = true ↔
      ∃ stem, IsHexColor stem ∧ (text.toList = stem ∨ text.toList = stem ++ ['\n']) := by
  constructor
  · intro spelled
    obtain ⟨color, bound⟩ := Option.isSome_iff_exists.mp spelled
    obtain ⟨values, read, made⟩ := Option.bind_eq_some_iff.mp bound
    obtain ⟨sign, parted, marked⟩ := exists_number_sign text.toList
    obtain ⟨digits, valid, count, shape⟩ := of_hex_digits read
    have number := (of_digits_iff values).mp (Option.isSome_iff_exists.mpr ⟨color, made⟩)
    rw [← count] at number
    refine ⟨sign ++ digits, ⟨sign, digits, rfl, marked, valid, number⟩, ?_⟩
    rw [parted, List.append_assoc]
    exact shape.imp (congrArg _) (congrArg _)
  · rintro ⟨stem, ⟨sign, digits, rfl, marked, valid, number⟩, shape⟩
    obtain ⟨values, alone, ended, count⟩ := hex_digits_of valid
    have nonempty : digits ≠ [] := by
      rintro rfl
      contradiction
    have read : hexDigits? (dropNumberSign text.toList) = some values := by
      rcases shape with same | same
      · have bare := drop_number_sign_of [] marked valid nonempty
        rw [List.append_nil] at bare
        rw [same, bare, alone]
      · rw [same, List.append_assoc, drop_number_sign_of _ marked valid nonempty, ended]
    rw [ofHex?, read, Option.bind_some, of_digits_iff, count]
    exact number

end Color

namespace Ink

/-- The layer's colour, a colour in hexadecimal, or three bytes. -/
def Valid : Ink → Prop
  | byLayer => True
  | hex text => IsHexColor text.toList
  | bytes color => color.red ≤ 255 ∧ color.green ≤ 255 ∧ color.blue ≤ 255

/-- A line end may follow a colour in hexadecimal. -/
def Sound : Ink → Prop
  | hex text => ∃ stem, IsHexColor stem ∧ (text.toList = stem ∨ text.toList = stem ++ ['\n'])
  | ink => ink.Valid

variable {ink : Ink} {value : Datum}

theorem Valid.sound (valid : ink.Valid) : ink.Sound := by
  cases ink with
  | byLayer => exact trivial
  | hex text => exact ⟨_, valid, .inl rfl⟩
  | bytes color => exact valid

theorem byte_le {count : Nat} (read : byte? value = some count) : count ≤ 255 := by
  unfold byte? at read
  split at read
  · split at read
    · next small =>
        cases read
        exact small
    · contradiction
  · contradiction

theorem of_items_valid {items : List Datum} (given : ofItems? items = some ink) : ink.Valid := by
  unfold ofItems? at given
  split at given
  · split at given
    · next red green blue =>
        cases given
        exact ⟨byte_le red, byte_le green, byte_le blue⟩
    · contradiction
  · contradiction

/-- What a value gives is valid, or it is a colour in hexadecimal with a line end behind it. -/
theorem of_datum_cases (given : ofDatum? value = some ink) :
    ink.Valid ∨ ∃ text stem, value = .text text ∧ ink = .hex text ∧
      IsHexColor stem ∧ text.toList = stem ++ ['\n'] := by
  unfold ofDatum? at given
  split at given
  · cases given
    exact .inl trivial
  · next text =>
      obtain ⟨color, read, rfl⟩ := Option.map_eq_some_iff.mp given
      obtain ⟨stem, valid, same | same⟩ :=
        (Color.spelled_iff text).mp (Option.isSome_iff_exists.mpr ⟨color, read⟩)
      · rw [← same] at valid
        exact .inl valid
      · exact .inr ⟨text, stem, rfl, rfl, valid, same⟩
  · exact .inl (of_items_valid given)
  · exact .inl (of_items_valid given)
  · contradiction

theorem of_datum_sound (given : ofDatum? value = some ink) : ink.Sound := by
  rcases of_datum_cases given with valid | ⟨text, stem, -, rfl, color, same⟩
  · exact valid.sound
  · exact ⟨stem, color, .inr same⟩

end Ink

end FormulaPlot
