import FormulaPlot.Proofs.Formula.Numerals

/-!
Texts that are cut off. A lexeme is read in the same way when the text behind it is cut off at any
place, and so it is a lexeme by itself; a number that is read from a text is a number.
-/

namespace FormulaPlot.Scanning

open FormulaPlot.Text

set_option autoImplicit false

variable {first behind : List Char}

theorem take_while_cut {class_ : Char → Bool}
    (within : ((first ++ behind).takeWhile class_).length ≤ first.length) :
    (first ++ behind).takeWhile class_ = first.takeWhile class_ := by
  rw [List.takeWhile_append] at within ⊢
  by_cases all : (first.takeWhile class_).length = first.length
  · rw [if_pos all, List.length_append] at within
    have nothing : behind.takeWhile class_ = [] := List.length_eq_zero_iff.mp (by omega)
    have whole : first.takeWhile class_ = first :=
      (List.takeWhile_prefix class_).eq_of_length all
    rw [if_pos all, nothing, List.append_nil, whole]
  · rw [if_neg all]

theorem starts_with_digit_before (starts : startsWithDigit first = true) :
    startsWithDigit (first ++ behind) = true := by
  cases first with
  | nil => contradiction
  | cons character rest => exact starts

theorem starts_with_fraction_before (starts : startsWithFraction first = true) :
    startsWithFraction (first ++ behind) = true := by
  cases first with
  | nil => contradiction
  | cons character rest =>
      rw [starts_with_fraction_cons, Bool.and_eq_true] at starts
      rw [List.cons_append, starts_with_fraction_cons, starts.1, starts_with_digit_before starts.2]
      rfl

theorem starts_number_before (starts : startsNumber first = true) :
    startsNumber (first ++ behind) = true := by
  rw [startsNumber, Bool.or_eq_true] at starts ⊢
  exact starts.imp starts_with_digit_before starts_with_fraction_before

/-- A run of digits that ends in front of the cut has its first digit there, too. -/
theorem starts_with_digit_cut
    (within : ((first ++ behind).takeWhile isDigit).length ≤ first.length) :
    startsWithDigit first = startsWithDigit (first ++ behind) := by
  cases first with
  | nil =>
      have nothing := List.length_eq_zero_iff.mp (Nat.le_zero.mp within)
      cases behind with
      | nil => rfl
      | cons next rest =>
          cases digit : isDigit next with
          | false => exact digit.symm
          | true =>
              rw [List.nil_append, List.takeWhile_cons_of_pos digit] at nothing
              contradiction
  | cons character rest => rfl

theorem fraction_length_cut (within : fractionLength (first ++ behind) ≤ first.length) :
    fractionLength first = fractionLength (first ++ behind) := by
  cases first with
  | nil => exact (Nat.le_zero.mp within).symm
  | cons character rest =>
      rw [List.cons_append, fraction_length_cons] at within ⊢
      rw [fraction_length_cons]
      by_cases fraction : (character == '.' && startsWithDigit (rest ++ behind)) = true
      · rw [if_pos fraction, List.length_cons] at within
        have digits : ((rest ++ behind).takeWhile isDigit).length ≤ rest.length := by omega
        rw [starts_with_digit_cut digits, take_while_cut digits]
      · have none : ¬(character == '.' && startsWithDigit rest) = true := by
          intro found
          rw [Bool.and_eq_true] at found
          exact fraction (Bool.and_eq_true_iff.mpr ⟨found.1, starts_with_digit_before found.2⟩)
        rw [if_neg fraction, if_neg none]

theorem no_digit_before (none : startsWithDigit (first ++ behind) = false) :
    startsWithDigit first = false := by
  rw [← Bool.not_eq_true] at none ⊢
  exact fun starts => none (starts_with_digit_before starts)

theorem exponent_length_cut (within : exponentLength (first ++ behind) ≤ first.length) :
    exponentLength first = exponentLength (first ++ behind) := by
  cases first with
  | nil => exact (Nat.le_zero.mp within).symm
  | cons mark rest =>
      rw [List.cons_append] at within ⊢
      simp only [exponentLength, List.length_cons] at within ⊢
      by_cases isMark : (mark == 'e' || mark == 'E') = true
      · simp only [if_pos isMark] at within ⊢
        by_cases digit : startsWithDigit (rest ++ behind) = true
        · rw [if_pos digit] at within ⊢
          have digits : ((rest ++ behind).takeWhile isDigit).length ≤ rest.length := by omega
          rw [starts_with_digit_cut digits, if_pos digit, take_while_cut digits]
        · have none := no_digit_before (Bool.eq_false_iff.mpr digit)
          rw [if_neg digit] at within ⊢
          rw [none, if_neg Bool.false_ne_true]
          cases rest with
          | nil =>
              -- the sign and a digit do not fit in front of the cut
              cases behind with
              | nil => rfl
              | cons sign digits =>
                  simp only [List.nil_append, List.length_nil] at within ⊢
                  split at within
                  · omega
                  · next unsigned => rw [if_neg unsigned]
          | cons sign digits =>
              simp only [List.cons_append, List.length_cons] at within ⊢
              by_cases signed : ((sign == '+' || sign == '-') &&
                  startsWithDigit (digits ++ behind)) = true
              · rw [if_pos signed] at within ⊢
                have run : ((digits ++ behind).takeWhile isDigit).length ≤ digits.length := by
                  omega
                rw [starts_with_digit_cut run, if_pos signed, take_while_cut run]
              · rw [if_neg signed, if_neg]
                intro found
                rw [Bool.and_eq_true] at found
                exact signed
                  (Bool.and_eq_true_iff.mpr ⟨found.1, starts_with_digit_before found.2⟩)
      · rw [if_neg isMark, if_neg isMark]

theorem number_length_cut (within : numberLength (first ++ behind) ≤ first.length) :
    numberLength first = numberLength (first ++ behind) := by
  unfold numberLength at within ⊢
  dsimp only at within ⊢
  have whole : ((first ++ behind).takeWhile isDigit).length ≤ first.length := by omega
  have digits := (List.takeWhile_prefix (l := first) isDigit).length_le
  rw [take_while_cut whole, List.drop_append_of_le_length digits] at within ⊢
  have fraction := @fraction_length_cut (first.drop (first.takeWhile isDigit).length) behind
    (by rw [List.length_drop]; omega)
  have bound := fraction_length_le (first.drop (first.takeWhile isDigit).length)
  rw [List.length_drop] at bound
  rw [← fraction, List.drop_append_of_le_length (by omega)] at within ⊢
  rw [@exponent_length_cut _ behind]
  rw [List.length_drop]
  exact Nat.le_sub_of_add_le' within

theorem number_front_more {characters : List Char} {kind : TokenKind} {more : Nat}
    (found : numberFront characters = .lexeme kind more) :
    more = numberLength characters - 1 := by
  unfold numberFront at found
  dsimp only at found
  split at found
  · contradiction
  · split at found
    · exact (Front.lexeme.inj found).2.symm
    · contradiction

theorem number_front_cut {kind : TokenKind} {more : Nat}
    (found : numberFront (first ++ behind) = .lexeme kind more)
    (within : numberLength (first ++ behind) ≤ first.length) :
    numberFront first = .lexeme kind more := by
  have same := number_length_cut within
  rw [← same] at within
  unfold numberFront at found ⊢
  dsimp only at found ⊢
  rw [← same, List.drop_append_of_le_length within, List.take_append_of_le_length within] at found
  split at found
  · contradiction
  · next noJunk =>
      rw [if_neg fun junk => noJunk (starts_with_fraction_before junk)]
      exact found

theorem starts_number_cut {character : Char}
    (starts : startsNumber (character :: (first ++ behind)) = true)
    (within : numberLength (character :: (first ++ behind)) ≤ (character :: first).length) :
    startsNumber (character :: first) = true := by
  apply starts_number_of_length (digit_or_point_of_starts starts)
  rw [@number_length_cut (character :: first) behind within]
  exact number_length_positive starts

/-- A lexeme in front of a cut is read in the same way when the text is cut off there. -/
theorem front_cut {character : Char} {kind : TokenKind} {more : Nat}
    (found : front character (first ++ behind) = .lexeme kind more)
    (within : more ≤ first.length) : front character first = .lexeme kind more := by
  unfold front at found ⊢
  by_cases starts : startsNumber (character :: (first ++ behind)) = true
  · rw [if_pos starts] at found
    have size : numberLength (character :: (first ++ behind)) ≤ (character :: first).length := by
      have last := number_front_more found
      rw [List.length_cons]
      omega
    rw [if_pos (starts_number_cut starts size)]
    exact @number_front_cut (character :: first) behind kind more found size
  · have noNumber : ¬startsNumber (character :: first) = true := fun here =>
      starts (@starts_number_before (character :: first) behind here)
    rw [if_neg starts] at found
    rw [if_neg noNumber]
    by_cases name : startsName character = true
    · rw [if_pos name, Front.lexeme.injEq] at found ⊢
      rw [← take_while_cut (Nat.le_trans (Nat.le_of_eq found.2) within)]
      exact found
    · rw [if_neg name] at found ⊢
      unfold operatorFront at found ⊢
      cases first with
      | nil =>
          -- a pair of signs does not fit in front of the cut
          split at found
          · have pair := (Front.lexeme.inj found).2
            rw [← pair] at within
            contradiction
          · exact found
      | cons next rest => exact found

/-- A lexeme stands in front of what is behind it. -/
theorem front_parted {character : Char} {rest : List Char} {kind : TokenKind} {more : Nat}
    (found : front character rest = .lexeme kind more) :
    front character (rest.take more ++ rest.drop more) = .lexeme kind (rest.take more).length := by
  rw [List.take_append_drop, List.length_take_of_le (front_within found)]
  exact found

theorem lexeme_of_front {character : Char} {rest : List Char} {kind : TokenKind} {more : Nat}
    (found : front character rest = .lexeme kind more) :
    IsLexeme kind (String.ofList (character :: rest.take more)) := by
  refine ⟨character, rest.take more, String.toList_ofList, ?_⟩
  exact front_cut (front_parted found) (Nat.le_refl _)

theorem sense_number_iff (kind : TokenKind) (lexeme : String) :
    (senseOf kind lexeme).1 = .number ↔ kind = .number := by
  cases kind <;> simp [senseOf, TokenKind.isPower]

/-- Number tokens of a text are numbers. -/
theorem Lexed.numerals {depth : Nat} {characters : List Char} {senses : List Sense}
    (lexed : Lexed depth characters senses) :
    ∀ sense ∈ senses, sense.1 = .number → IsNumeral sense.2 := by
  induction lexed with
  | nothing => simp
  | gap blank lexed induction => exact induction
  | folded deep lexed induction => exact induction
  | newline lexed induction => exact List.forall_mem_cons.mpr ⟨nofun, induction⟩
  | lexeme noGap noNewline found lexed induction =>
      refine List.forall_mem_cons.mpr ⟨?_, induction⟩
      intro number
      rw [sense_number_iff] at number
      rw [number] at found ⊢
      exact lexeme_of_front found

end FormulaPlot.Scanning
