import FormulaPlot.Formula.Scanning

/-!
How far the reading of a lexeme looks. It does not look behind a character that can belong to no
number and to no name, pairs of operator signs aside.
-/

namespace FormulaPlot.Scanning

open FormulaPlot.Text

set_option autoImplicit false

/-- A character that goes on with no number and with no name. -/
def breaks (character : Char) : Bool :=
  !isWordCharacter character && character != '.' && character != '+' && character != '-'

/-- The first character, if there is one, is of some class. -/
def Leads (kinds : Char → Bool) : List Char → Prop
  | [] => True
  | next :: _ => kinds next = true

theorem word_of_digit {character : Char} (digit : isDigit character = true) :
    isWordCharacter character = true := by
  simp [isWordCharacter, isAlphanumeric, isNumberSign, digit]

theorem word_of_name {character : Char} (starts : startsName character = true) :
    isWordCharacter character = true := by
  simp only [startsName, Bool.or_eq_true] at starts
  simp only [isWordCharacter, isAlphanumeric, Bool.or_eq_true]
  rcases starts with letter | line
  · exact Or.inl (Or.inl letter)
  · exact Or.inr line

theorem no_digit_of_breaks {character : Char} (breaking : breaks character = true) :
    isDigit character = false := by
  cases digit : isDigit character with
  | false => rfl
  | true => simp [breaks, word_of_digit digit] at breaking

theorem not_mark_of_breaks {character : Char} (breaking : breaks character = true) :
    (character == 'e' || character == 'E') = false := by
  have noWord : isWordCharacter character = false := by
    simp only [breaks, Bool.and_eq_true, Bool.not_eq_true'] at breaking
    exact breaking.1.1.1
  rw [Bool.or_eq_false_iff, beq_eq_false_iff_ne, beq_eq_false_iff_ne]
  constructor <;>
    · rintro rfl
      exact absurd noWord (by decide)

theorem take_while_append {class_ : Char → Bool} (first : List Char) {behind : List Char}
    (stops : Leads (fun next => !class_ next) behind) :
    (first ++ behind).takeWhile class_ = first.takeWhile class_ := by
  induction first with
  | nil =>
      cases behind with
      | nil => rfl
      | cons next rest =>
          simp only [Leads, Bool.not_eq_true'] at stops
          rw [List.nil_append, List.takeWhile_cons_of_neg (by simp [stops])]
          rfl
  | cons character rest induction =>
      rw [List.cons_append, List.takeWhile_cons, List.takeWhile_cons, induction]

theorem leads_mono {narrow wide : Char → Bool} {characters : List Char}
    (included : ∀ character, narrow character = true → wide character = true)
    (leads : Leads narrow characters) : Leads wide characters := by
  cases characters with
  | nil => trivial
  | cons next rest => exact included next leads

theorem starts_with_fraction_cons (character : Char) (rest : List Char) :
    startsWithFraction (character :: rest) = (character == '.' && startsWithDigit rest) := by
  by_cases point : character = '.'
  · rw [point]
    rfl
  · simp [startsWithFraction, point]

theorem fraction_length_cons (character : Char) (rest : List Char) :
    fractionLength (character :: rest) =
      if (character == '.' && startsWithDigit rest) = true then
        1 + (rest.takeWhile isDigit).length
      else 0 := by
  by_cases point : character = '.'
  · simp [fractionLength, point]
  · simp [fractionLength, point]

section Behind

variable {behind : List Char} (breaking : Leads breaks behind)

include breaking

theorem stops_digits : Leads (fun next => !isDigit next) behind := by
  apply leads_mono _ breaking
  intro next breaking
  simp [no_digit_of_breaks breaking]

theorem stops_words : Leads (fun next => !isWordCharacter next) behind := by
  apply leads_mono _ breaking
  intro next breaking
  simp only [breaks, Bool.and_eq_true] at breaking
  exact breaking.1.1.1

theorem starts_with_digit_append (characters : List Char) :
    startsWithDigit (characters ++ behind) = startsWithDigit characters := by
  cases characters with
  | nil =>
      cases behind with
      | nil => rfl
      | cons next rest => exact no_digit_of_breaks breaking
  | cons character rest => rfl

theorem no_fraction_behind : startsWithFraction behind = false := by
  cases behind with
  | nil => rfl
  | cons next rest =>
      have noPoint : (next == '.') = false := by
        rw [beq_eq_false_iff_ne]
        rintro rfl
        simp [Leads, breaks] at breaking
      rw [starts_with_fraction_cons, noPoint]
      rfl

theorem starts_with_fraction_append (characters : List Char) :
    startsWithFraction (characters ++ behind) = startsWithFraction characters := by
  cases characters with
  | nil => exact no_fraction_behind breaking
  | cons character rest =>
      rw [List.cons_append, starts_with_fraction_cons, starts_with_fraction_cons,
        starts_with_digit_append breaking]

theorem fraction_length_append (characters : List Char) :
    fractionLength (characters ++ behind) = fractionLength characters := by
  cases characters with
  | nil =>
      have none := no_fraction_behind breaking
      cases behind with
      | nil => rfl
      | cons next rest =>
          rw [starts_with_fraction_cons] at none
          rw [List.nil_append, fraction_length_cons, none]
          rfl
  | cons character rest =>
      rw [List.cons_append, fraction_length_cons, fraction_length_cons,
        starts_with_digit_append breaking, take_while_append rest (stops_digits breaking)]

theorem exponent_length_append (characters : List Char) :
    exponentLength (characters ++ behind) = exponentLength characters := by
  cases characters with
  | nil =>
      cases behind with
      | nil => rfl
      | cons next rest => simp [exponentLength, not_mark_of_breaks breaking]
  | cons mark rest =>
      rw [List.cons_append]
      simp only [exponentLength]
      rw [starts_with_digit_append breaking, take_while_append rest (stops_digits breaking)]
      cases rest with
      | nil =>
          cases behind with
          | nil => rfl
          | cons next more =>
              have noSign : (next == '+' || next == '-') = false := by
                simp only [Leads, breaks, Bool.and_eq_true, bne_iff_ne, ne_eq] at breaking
                simp [breaking.1.2, breaking.2]
              simp [noSign]
      | cons sign digits =>
          simp only [List.cons_append]
          rw [starts_with_digit_append breaking, take_while_append digits (stops_digits breaking)]

end Behind

theorem fraction_length_le (characters : List Char) :
    fractionLength characters ≤ characters.length := by
  cases characters with
  | nil => exact Nat.le_refl 0
  | cons character rest =>
      have bound := (List.takeWhile_prefix (l := rest) isDigit).length_le
      rw [fraction_length_cons, List.length_cons]
      split <;> omega

theorem exponent_length_le (characters : List Char) :
    exponentLength characters ≤ characters.length := by
  cases characters with
  | nil => exact Nat.le_refl 0
  | cons mark rest =>
      have bound := (List.takeWhile_prefix (l := rest) isDigit).length_le
      simp only [exponentLength, List.length_cons]
      split
      · split
        · omega
        · cases rest with
          | nil => exact Nat.zero_le _
          | cons sign digits =>
              have digitBound := (List.takeWhile_prefix (l := digits) isDigit).length_le
              simp only [List.length_cons]
              split <;> omega
      · exact Nat.zero_le _

theorem number_length_le (characters : List Char) :
    numberLength characters ≤ characters.length := by
  have whole := (List.takeWhile_prefix (l := characters) isDigit).length_le
  have fraction := fraction_length_le (characters.drop (characters.takeWhile isDigit).length)
  have exponent := exponent_length_le (characters.drop ((characters.takeWhile isDigit).length +
    fractionLength (characters.drop (characters.takeWhile isDigit).length)))
  simp only [List.length_drop] at fraction exponent
  unfold numberLength
  dsimp only
  omega

section Behind

variable {behind : List Char} (breaking : Leads breaks behind)

include breaking

theorem number_length_append (characters : List Char) :
    numberLength (characters ++ behind) = numberLength characters := by
  have whole := (List.takeWhile_prefix (l := characters) isDigit).length_le
  have fraction := fraction_length_le (characters.drop (characters.takeWhile isDigit).length)
  simp only [List.length_drop] at fraction
  unfold numberLength
  dsimp only
  rw [take_while_append characters (stops_digits breaking),
    List.drop_append_of_le_length whole, fraction_length_append breaking,
    List.drop_append_of_le_length (by omega), exponent_length_append breaking]

theorem number_front_append (characters : List Char) :
    numberFront (characters ++ behind) = numberFront characters := by
  have within := number_length_le characters
  have stopsJunk : Leads (fun next => !(isDigit next || next == '.')) behind := by
    apply leads_mono _ breaking
    intro next breaking
    have noDigit := no_digit_of_breaks breaking
    simp only [breaks, Bool.and_eq_true, bne_iff_ne, ne_eq] at breaking
    simp [noDigit, breaking.1.1.2]
  unfold numberFront
  dsimp only
  rw [number_length_append breaking, List.drop_append_of_le_length within,
    starts_with_fraction_append breaking, take_while_append _ stopsJunk,
    List.take_append_of_le_length within]

/-- A lexeme is read in the same way whatever stands behind a breaking character, unless that
character makes a pair with the sign in front of it. -/
theorem front_append (character : Char) (rest : List Char)
    (unpaired : rest = [] → behind.head?.bind (TokenKind.ofPair? character) = none) :
    front character (rest ++ behind) = front character rest := by
  have starts :
      startsNumber (character :: (rest ++ behind)) = startsNumber (character :: rest) := by
    have digit := starts_with_digit_append breaking (character :: rest)
    have fraction := starts_with_fraction_append breaking (character :: rest)
    rw [List.cons_append] at digit fraction
    rw [startsNumber, startsNumber, digit, fraction]
  have number := number_front_append breaking (character :: rest)
  rw [List.cons_append] at number
  have operator : operatorFront character (rest ++ behind) = operatorFront character rest := by
    unfold operatorFront
    cases rest with
    | nil => rw [List.nil_append, unpaired rfl]; rfl
    | cons next more => rfl
  unfold front
  rw [starts, number, take_while_append rest (stops_words breaking), operator]

end Behind

/-- The four ways to read a lexeme. -/
theorem front_cases {character : Char} {rest : List Char} {kind : TokenKind} {more : Nat}
    (found : front character rest = .lexeme kind more) :
    (kind = .number ∧ startsNumber (character :: rest) = true ∧
        more = numberLength (character :: rest) - 1) ∨
      (kind = .identifier ∧ startsName character = true ∧
        more = (rest.takeWhile isWordCharacter).length) ∨
      (∃ next tail, rest = next :: tail ∧ TokenKind.ofPair? character next = some kind ∧
        more = 1) ∨
      (TokenKind.ofCharacter? character = some kind ∧ more = 0) := by
  unfold front at found
  split at found
  · rename_i starts
    unfold numberFront at found
    dsimp only at found
    split at found
    · simp at found
    · split at found
      · simp only [Front.lexeme.injEq] at found
        exact .inl ⟨found.1.symm, starts, found.2.symm⟩
      · simp at found
  · split at found
    · rename_i starts
      simp only [Front.lexeme.injEq] at found
      exact .inr (.inl ⟨found.1.symm, starts, found.2.symm⟩)
    · unfold operatorFront at found
      split at found
      · rename_i pair
        simp only [Front.lexeme.injEq] at found
        obtain ⟨rfl, rfl⟩ := found
        cases rest with
        | nil => simp at pair
        | cons next tail => exact .inr (.inr (.inl ⟨next, tail, rfl, pair, rfl⟩))
      · split at found
        · rename_i single
          simp only [Front.lexeme.injEq] at found
          obtain ⟨rfl, rfl⟩ := found
          exact .inr (.inr (.inr ⟨single, rfl⟩))
        · simp at found

theorem front_within {character : Char} {rest : List Char} {kind : TokenKind} {more : Nat}
    (found : front character rest = .lexeme kind more) : more ≤ rest.length := by
  rcases front_cases found with ⟨_, _, rfl⟩ | ⟨_, _, rfl⟩ | ⟨next, tail, rfl, _, rfl⟩ | ⟨_, rfl⟩
  · have bound := number_length_le (character :: rest)
    simp only [List.length_cons] at bound
    omega
  · exact (List.takeWhile_prefix isWordCharacter).length_le
  · simp
  · exact Nat.zero_le _

/-- Characters that numbers are made of. -/
def isNumeric (character : Char) : Bool :=
  isDigit character || ['.', 'e', 'E', '+', '-'].contains character

theorem take_while_length (class_ : Char → Bool) (characters : List Char) :
    characters.take (characters.takeWhile class_).length = characters.takeWhile class_ :=
  (List.prefix_iff_eq_take.mp (List.takeWhile_prefix class_)).symm

theorem numeric_digits (characters : List Char) :
    ∀ character ∈ characters.take (characters.takeWhile isDigit).length,
      isNumeric character = true := by
  intro character member
  rw [take_while_length] at member
  have digit := List.all_eq_true.mp List.all_takeWhile character member
  simp [isNumeric, digit]

theorem numeric_fraction (characters : List Char) :
    ∀ character ∈ characters.take (fractionLength characters), isNumeric character = true := by
  cases characters with
  | nil => simp
  | cons point rest =>
      rw [fraction_length_cons]
      split
      · rename_i fraction
        simp only [Bool.and_eq_true, beq_iff_eq] at fraction
        rw [Nat.add_comm, List.take_succ_cons, List.forall_mem_cons, fraction.1]
        exact ⟨by decide, numeric_digits rest⟩
      · simp

theorem numeric_exponent (characters : List Char) :
    ∀ character ∈ characters.take (exponentLength characters), isNumeric character = true := by
  cases characters with
  | nil => simp
  | cons mark rest =>
      simp only [exponentLength]
      split
      · rename_i isMark
        have numericMark : isNumeric mark = true := by
          simp only [Bool.or_eq_true, beq_iff_eq] at isMark
          rcases isMark with same | same <;> rw [same] <;> decide
        split
        · rw [Nat.add_comm, List.take_succ_cons, List.forall_mem_cons]
          exact ⟨numericMark, numeric_digits rest⟩
        · cases rest with
          | nil => simp
          | cons sign digits =>
              dsimp only
              split
              · rename_i signed
                have numericSign : isNumeric sign = true := by
                  simp only [Bool.and_eq_true, Bool.or_eq_true, beq_iff_eq] at signed
                  rcases signed.1 with same | same <;> rw [same] <;> decide
                rw [Nat.add_comm, List.take_succ_cons, List.take_succ_cons, List.forall_mem_cons,
                  List.forall_mem_cons]
                exact ⟨numericMark, numericSign, numeric_digits digits⟩
              · simp
      · simp

theorem numeric_number (characters : List Char) :
    ∀ character ∈ characters.take (numberLength characters), isNumeric character = true := by
  unfold numberLength
  dsimp only
  rw [List.take_add, List.take_add, List.forall_mem_append, List.forall_mem_append]
  exact ⟨⟨numeric_digits characters, numeric_fraction _⟩, numeric_exponent _⟩

theorem numeric_of_start {character : Char} {rest : List Char}
    (starts : startsNumber (character :: rest) = true) : isNumeric character = true := by
  simp only [startsNumber, starts_with_fraction_cons, Bool.or_eq_true, Bool.and_eq_true,
    beq_iff_eq] at starts
  rcases starts with digit | ⟨point, _⟩
  · have isDigit : isDigit character = true := digit
    simp [isNumeric, isDigit]
  · rw [point]
    decide

/-- Characters of a lexeme that is a number. -/
theorem numeric_lexeme {character : Char} {rest : List Char}
    (starts : startsNumber (character :: rest) = true) :
    ∀ part ∈ character :: rest.take (numberLength (character :: rest) - 1),
      isNumeric part = true := by
  have all := numeric_number (character :: rest)
  cases length : numberLength (character :: rest) with
  | zero => simpa using numeric_of_start starts
  | succ more => simpa [length] using all

end FormulaPlot.Scanning
