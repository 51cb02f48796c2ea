import FormulaPlot.Text.Blank
import FormulaPlot.Text.Word

/-!
White space does not belong to words, and what stands at the ends of a text does not count when the
text is stripped.
-/

namespace FormulaPlot.Text

set_option autoImplicit false

/-- Ranges that do not overlap have no character in common. -/
theorem Ranges.not_contains_of_apart {first second : Ranges} {code : Nat}
    (apart : ∀ one ∈ first, ∀ other ∈ second, one.2 < other.1 ∨ other.2 < one.1)
    (inside : first.contains code = true) : second.contains code = false := by
  cases found : second.contains code with
  | false => rfl
  | true =>
      obtain ⟨one, oneMember, oneBounds⟩ := exists_mem_of_contains inside
      obtain ⟨other, otherMember, otherBounds⟩ := exists_mem_of_contains found
      have gap := apart one oneMember other otherMember
      omega

theorem decimal_value_none_of_apart {zeros : List Nat} {code : Nat}
    (apart : ∀ start ∈ zeros, code < start ∨ start + 9 < code) :
    decimalValueFrom zeros code = none := by
  induction zeros with
  | nil => rfl
  | cons start rest induction =>
      rw [List.forall_mem_cons] at apart
      unfold decimalValueFrom
      split
      · rfl
      · rw [if_neg (by omega)]
        exact induction apart.2

theorem blanks_apart_from_letters :
    ∀ one ∈ blankRanges, ∀ other ∈ letterRanges, one.2 < other.1 ∨ other.2 < one.1 := by
  decide +kernel

theorem blanks_apart_from_digits :
    ∀ one ∈ blankRanges, ∀ other ∈ otherDigitRanges, one.2 < other.1 ∨ other.2 < one.1 := by
  decide +kernel

theorem blanks_apart_from_number_signs :
    ∀ one ∈ blankRanges, ∀ other ∈ numberSignRanges, one.2 < other.1 ∨ other.2 < one.1 := by
  decide +kernel

theorem blanks_apart_from_decimals :
    ∀ one ∈ blankRanges, ∀ start ∈ decimalZeros, one.2 < start ∨ start + 9 < one.1 := by
  decide +kernel

theorem blank_not_decimal {character : Char} (blank : isBlank character = true) :
    decimalValue? character = none := by
  obtain ⟨range, member, bounds⟩ := Ranges.exists_mem_of_contains blank
  apply decimal_value_none_of_apart
  intro start zeroMember
  have gap := blanks_apart_from_decimals range member start zeroMember
  omega

theorem blank_not_word {character : Char} (blank : isBlank character = true) :
    isWordCharacter character = false := by
  have noLetter := Ranges.not_contains_of_apart blanks_apart_from_letters blank
  have noDigit := Ranges.not_contains_of_apart blanks_apart_from_digits blank
  have noSign := Ranges.not_contains_of_apart blanks_apart_from_number_signs blank
  have noDecimal := blank_not_decimal blank
  have noLine : (character == '_') = false := by
    rw [beq_eq_false_iff_ne]
    rintro rfl
    exact absurd blank (by decide)
  simp only [isWordCharacter, isAlphanumeric, isLetter, isNumberSign, isDigit, isDecimal,
    noLetter, noDigit, noSign, noDecimal, noLine]
  rfl

def Blank (characters : List Char) : Prop := ∀ character ∈ characters, isBlank character = true

theorem strip_behind_blank {character : Char} (blank : isBlank character = true)
    (rest : List Char) : strip (character :: rest) = strip rest := by
  unfold strip stripAll
  rw [List.dropWhile_cons_of_pos blank]

theorem strip_blanks_append {blanks : List Char} (blank : Blank blanks) (characters : List Char) :
    strip (blanks ++ characters) = strip characters := by
  unfold strip stripAll
  rw [List.dropWhile_append_of_pos blank]

theorem strip_append_blanks (characters : List Char) {blanks : List Char} (blank : Blank blanks) :
    strip (characters ++ blanks) = strip characters := by
  induction characters with
  | nil =>
      have whole := strip_blanks_append blank []
      rwa [List.append_nil] at whole
  | cons character rest induction =>
      cases isBlank : isBlank character with
      | true =>
          rw [List.cons_append, strip_behind_blank isBlank, strip_behind_blank isBlank, induction]
      | false =>
          have kept :
              ∀ others, (character :: others).dropWhile Text.isBlank = character :: others :=
            fun others => List.dropWhile_cons_of_neg (by simp [isBlank])
          have backwards : ∀ other ∈ blanks.reverse, Text.isBlank other = true := by
            intro other member
            exact blank other (List.mem_reverse.mp member)
          unfold strip stripAll trimEnd
          simp only [Bool.not_not]
          rw [List.cons_append, kept, kept, ← List.cons_append, List.reverse_append,
            List.dropWhile_append_of_pos backwards]

theorem drop_blanks_around {character : Char} (keeps : isBlank character = false)
    (first second : List Char) :
    (first ++ character :: second).dropWhile isBlank =
      first.dropWhile isBlank ++ character :: second := by
  induction first with
  | nil => exact List.dropWhile_cons_of_neg (by simp [keeps])
  | cons next rest induction =>
      rw [List.cons_append]
      cases blank : isBlank next with
      | true =>
          rw [List.dropWhile_cons_of_pos blank, List.dropWhile_cons_of_pos blank, induction]
      | false =>
          rw [List.dropWhile_cons_of_neg (by simp [blank]),
            List.dropWhile_cons_of_neg (by simp [blank]), List.cons_append]

/-- Around a character that stays, only the outer ends are stripped. -/
theorem strip_around {character : Char} (keeps : isBlank character = false)
    (first second : List Char) :
    strip (first ++ character :: second) =
      first.dropWhile isBlank ++ character :: (second.reverse.dropWhile isBlank).reverse := by
  have backwards : (first.dropWhile isBlank ++ character :: second).reverse =
      second.reverse ++ character :: (first.dropWhile isBlank).reverse := by
    simp
  unfold strip stripAll trimEnd
  simp only [Bool.not_not]
  rw [drop_blanks_around keeps, backwards, drop_blanks_around keeps]
  simp

/-- A text that neither starts nor ends with white space, and is not empty. -/
structure Solid (characters : List Char) : Prop where
  first : ∃ character, characters.head? = some character ∧ isBlank character = false
  last : ∃ character, characters.getLast? = some character ∧ isBlank character = false

theorem Solid.strip {characters : List Char} (solid : Solid characters) :
    Text.strip characters = characters := by
  rcases solid.first with ⟨first, starts, firstStays⟩
  rcases solid.last with ⟨last, ends, lastStays⟩
  rcases List.head?_eq_some_iff.mp starts with ⟨rest, rfl⟩
  rcases List.getLast?_eq_some_iff.mp ends with ⟨others, shape⟩
  unfold Text.strip stripAll trimEnd
  simp only [Bool.not_not]
  rw [List.dropWhile_cons_of_neg (by simp [firstStays]), shape, List.reverse_append,
    List.reverse_singleton, List.singleton_append,
    List.dropWhile_cons_of_neg (by simp [lastStays]), List.reverse_cons, List.reverse_reverse]

theorem blanks_in_front {characters : List Char} (notBlank : ¬Blank characters) :
    ∃ before character behind, Blank before ∧ isBlank character = false ∧
      characters = before ++ character :: behind := by
  induction characters with
  | nil => exact absurd (fun _ => nofun) notBlank
  | cons character rest induction =>
      cases blank : isBlank character with
      | false => exact ⟨[], character, rest, fun _ => nofun, blank, rfl⟩
      | true =>
          have others : ¬Blank rest := fun all =>
            notBlank (List.forall_mem_cons.mpr ⟨blank, all⟩)
          rcases induction others with ⟨before, first, behind, blanks, stays, rfl⟩
          exact ⟨character :: before, first, behind, List.forall_mem_cons.mpr ⟨blank, blanks⟩,
            stays, rfl⟩

theorem Blank.reverse {characters : List Char} (blank : Blank characters) :
    Blank characters.reverse :=
  fun character member => blank character (List.mem_reverse.mp member)

/-- A text that is not blank is a solid one between white space. -/
theorem solid_within {characters : List Char} (notBlank : ¬Blank characters) :
    ∃ before core behind, Blank before ∧ Blank behind ∧ Solid core ∧
      characters = before ++ (core ++ behind) := by
  rcases blanks_in_front notBlank with ⟨before, first, rest, blank, firstStays, rfl⟩
  have notBlankBackwards : ¬Blank (first :: rest).reverse := by
    intro all
    have same := all first (List.mem_reverse.mpr List.mem_cons_self)
    rw [firstStays] at same
    contradiction
  rcases blanks_in_front notBlankBackwards with ⟨behind, last, others, blankBehind, lastStays, back⟩
  have forth : first :: rest = (others.reverse ++ [last]) ++ behind.reverse := by
    rw [← List.reverse_reverse (first :: rest), back, List.reverse_append, List.reverse_cons]
  refine ⟨before, others.reverse ++ [last], behind.reverse, blank, blankBehind.reverse,
    ⟨⟨first, ?_, firstStays⟩, ⟨last, List.getLast?_concat, lastStays⟩⟩, by rw [forth]⟩
  have starts := congrArg List.head? forth
  rw [List.head?_append, Option.or_of_isSome (by simp)] at starts
  exact starts.symm

/-- Stripping leaves nothing or a solid text. -/
theorem strip_solid (characters : List Char) : strip characters = [] ∨ Solid (strip characters) := by
  by_cases blank : Blank characters
  · have stripped := strip_append_blanks [] blank
    rw [List.nil_append] at stripped
    exact .inl stripped
  · obtain ⟨before, core, behind, blankBefore, blankBehind, solid, rfl⟩ := solid_within blank
    rw [strip_blanks_append blankBefore, strip_append_blanks _ blankBehind, solid.strip]
    exact .inr solid

end FormulaPlot.Text
