import FormulaPlot.Proofs.Formula.Lexemes

/-!
Numbers as lexemes. A number is made of digits, a fraction and an exponent; it is read to its end
before every character that could not go on with it, and by itself it is read as a whole.
-/

namespace FormulaPlot.Scanning

open FormulaPlot.Text

set_option autoImplicit false

def Digits (characters : List Char) : Prop := ∀ character ∈ characters, isDigit character = true

def Fraction (characters : List Char) : Prop :=
  characters = [] ∨ ∃ digit more, characters = '.' :: digit :: more ∧ Digits (digit :: more)

def Exponent (characters : List Char) : Prop :=
  characters = [] ∨ ∃ mark digit more, (mark = 'e' ∨ mark = 'E') ∧ Digits (digit :: more) ∧
    (characters = mark :: digit :: more ∨
      ∃ sign, (sign = '+' ∨ sign = '-') ∧ characters = mark :: sign :: digit :: more)

/-- A character that no number goes on with, whatever the number is. -/
def stopsNumber (character : Char) : Bool :=
  !isDigit character && character != '.' && character != 'e' && character != 'E'

theorem digits_take_while (characters : List Char) :
    Digits (characters.take (characters.takeWhile isDigit).length) := by
  rw [take_while_length]
  intro character member
  exact List.all_eq_true.mp List.all_takeWhile character member

theorem starts_with_digit_iff (characters : List Char) :
    startsWithDigit characters = true ↔
      ∃ digit more, characters = digit :: more ∧ isDigit digit = true := by
  cases characters with
  | nil => simp [startsWithDigit]
  | cons digit more => simp [startsWithDigit]

/-- The digits that a text starts with, the first of them apart. -/
theorem digits_of_start {digit : Char} {more : List Char} (starts : isDigit digit = true) :
    ∃ others, (digit :: more).take ((digit :: more).takeWhile isDigit).length = digit :: others ∧
      Digits (digit :: others) := by
  have digits := digits_take_while (digit :: more)
  rw [List.takeWhile_cons_of_pos starts, List.length_cons, List.take_succ_cons] at digits ⊢
  exact ⟨_, rfl, digits⟩

theorem fraction_take (characters : List Char) :
    Fraction (characters.take (fractionLength characters)) := by
  cases characters with
  | nil => exact .inl rfl
  | cons point rest =>
      rw [fraction_length_cons]
      split
      next fraction =>
        simp only [Bool.and_eq_true, beq_iff_eq] at fraction
        rcases fraction with ⟨rfl, starts⟩
        rcases (starts_with_digit_iff rest).mp starts with ⟨digit, more, rfl, isDigit⟩
        rcases @digits_of_start digit more isDigit with ⟨others, taken, digits⟩
        rw [Nat.add_comm, List.take_succ_cons, taken]
        exact .inr ⟨digit, others, rfl, digits⟩
      next => exact .inl rfl

theorem exponent_take (characters : List Char) :
    Exponent (characters.take (exponentLength characters)) := by
  cases characters with
  | nil => exact .inl rfl
  | cons mark rest =>
      simp only [exponentLength]
      split
      next isMark =>
        have marks : mark = 'e' ∨ mark = 'E' := by
          simpa only [Bool.or_eq_true, beq_iff_eq] using isMark
        split
        next starts =>
          rcases (starts_with_digit_iff rest).mp starts with ⟨digit, more, rfl, isDigit⟩
          rcases @digits_of_start digit more isDigit with ⟨others, taken, digits⟩
          rw [Nat.add_comm, List.take_succ_cons, taken]
          exact .inr ⟨mark, digit, others, marks, digits, .inl rfl⟩
        next =>
          cases rest with
          | nil => exact .inl rfl
          | cons sign behind =>
              dsimp only
              split
              next signed =>
                simp only [Bool.and_eq_true, Bool.or_eq_true, beq_iff_eq] at signed
                rcases (starts_with_digit_iff behind).mp signed.2 with ⟨digit, more, rfl, isDigit⟩
                rcases @digits_of_start digit more isDigit with ⟨others, taken, digits⟩
                rw [Nat.add_comm, List.take_succ_cons, List.take_succ_cons, taken]
                exact .inr ⟨mark, digit, others, marks, digits, .inr ⟨sign, signed.1, rfl⟩⟩
              next => exact .inl rfl
      next => exact .inl rfl

/-- Digits, a fraction and an exponent. -/
structure NumberParts (characters whole fraction exponent : List Char) : Prop where
  joined : characters = whole ++ (fraction ++ exponent)
  whole : Digits whole
  fraction : Fraction fraction
  exponent : Exponent exponent

theorem number_take (characters : List Char) :
    ∃ whole fraction exponent,
      NumberParts (characters.take (numberLength characters)) whole fraction exponent := by
  let whole := (characters.takeWhile isDigit).length
  let fraction := fractionLength (characters.drop whole)
  refine ⟨_, _, _, ?_, digits_take_while characters, fraction_take (characters.drop whole),
    exponent_take (characters.drop (whole + fraction))⟩
  unfold numberLength
  dsimp only
  rw [List.take_add, List.take_add, List.append_assoc]

theorem take_while_digits {digits behind : List Char} (all : Digits digits)
    (stops : Leads (fun next => !isDigit next) behind) :
    (digits ++ behind).takeWhile isDigit = digits := by
  have whole := @List.takeWhile_append_of_pos _ isDigit digits [] all
  rw [take_while_append digits stops]
  simpa only [List.append_nil, List.takeWhile_nil] using whole

theorem exponent_stops {exponent behind : List Char} (parts : Exponent exponent)
    (stops : Leads stopsNumber behind) :
    Leads (fun next => !isDigit next && next != '.') (exponent ++ behind) := by
  rcases parts with rfl | ⟨mark, digit, more, marks, _, shape⟩
  · apply leads_mono _ stops
    intro next stop
    simp only [stopsNumber, Bool.and_eq_true] at stop ⊢
    exact stop.1.1
  · have marked : (!isDigit mark && mark != '.') = true := by
      rcases marks with rfl | rfl <;> decide
    rcases shape with rfl | ⟨sign, _, rfl⟩ <;> exact marked

theorem fraction_stops {fraction behind : List Char} (parts : Fraction fraction)
    (stops : Leads (fun next => !isDigit next && next != '.') behind) :
    Leads (fun next => !isDigit next) (fraction ++ behind) := by
  rcases parts with rfl | ⟨digit, more, rfl, _⟩
  · apply leads_mono _ stops
    intro next stop
    exact (Bool.and_eq_true_iff.mp stop).1
  · exact (by decide : (!isDigit '.') = true)

theorem fraction_length_of_parts {fraction behind : List Char} (parts : Fraction fraction)
    (stops : Leads (fun next => !isDigit next && next != '.') behind) :
    fractionLength (fraction ++ behind) = fraction.length := by
  rcases parts with rfl | ⟨digit, more, rfl, digits⟩
  · cases behind with
    | nil => rfl
    | cons next rest =>
        have noPoint : (next == '.') = false := by
          simpa only [bne, Bool.not_eq_true'] using (Bool.and_eq_true_iff.mp stops).2
        rw [List.nil_append, fraction_length_cons, noPoint]
        rfl
  · have starts : startsWithDigit (digit :: (more ++ behind)) = true :=
      digits digit List.mem_cons_self
    have run := take_while_digits digits (leads_mono
      (fun _ stop => (Bool.and_eq_true_iff.mp stop).1) stops)
    rw [List.cons_append] at run
    rw [List.cons_append, List.cons_append, fraction_length_cons, starts, run]
    simp only [beq_self_eq_true, Bool.and_self, if_true, List.length_cons]
    omega

theorem exponent_length_of_parts {exponent behind : List Char} (parts : Exponent exponent)
    (stops : Leads stopsNumber behind) :
    exponentLength (exponent ++ behind) = exponent.length := by
  have noDigit : Leads (fun next => !isDigit next) behind := by
    apply leads_mono _ stops
    intro next stop
    simp only [stopsNumber, Bool.and_eq_true] at stop
    exact stop.1.1.1
  rcases parts with rfl | ⟨mark, digit, more, marks, digits, shape⟩
  · cases behind with
    | nil => rfl
    | cons next rest =>
        have noMark : (next == 'e' || next == 'E') = false := by
          simp only [Leads, stopsNumber, Bool.and_eq_true, bne_iff_ne, ne_eq] at stops
          simp only [Bool.or_eq_false_iff, beq_eq_false_iff_ne, ne_eq]
          exact ⟨stops.1.2, stops.2⟩
        simp only [List.nil_append, exponentLength, noMark, Bool.false_eq_true, if_false,
          List.length_nil]
  · have isMark : (mark == 'e' || mark == 'E') = true := by
      rcases marks with rfl | rfl <;> rfl
    have starts : startsWithDigit (digit :: (more ++ behind)) = true :=
      digits digit List.mem_cons_self
    have run := take_while_digits digits noDigit
    rw [List.cons_append] at run
    rcases shape with rfl | ⟨sign, signs, rfl⟩
    · simp only [List.cons_append, exponentLength, isMark, starts, run, if_true, List.length_cons]
      omega
    · have noStart : startsWithDigit (sign :: digit :: (more ++ behind)) = false := by
        rcases signs with rfl | rfl
        · exact (by decide : isDigit '+' = false)
        · exact (by decide : isDigit '-' = false)
      have signed : ((sign == '+' || sign == '-') &&
          startsWithDigit (digit :: (more ++ behind))) = true := by
        rw [starts]
        rcases signs with rfl | rfl <;> rfl
      simp only [List.cons_append, exponentLength, isMark, noStart, signed, run, if_true,
        Bool.false_eq_true, if_false, List.length_cons]
      omega

/-- A number is read to its end, and no further. -/
theorem number_length_of_parts {characters whole fraction exponent behind : List Char}
    (parts : NumberParts characters whole fraction exponent) (stops : Leads stopsNumber behind) :
    numberLength (characters ++ behind) = characters.length := by
  have exponentStops := exponent_stops parts.exponent stops
  have fractionStops := fraction_stops parts.fraction exponentStops
  rw [parts.joined]
  simp only [List.append_assoc]
  unfold numberLength
  dsimp only
  rw [take_while_digits parts.whole fractionStops, List.drop_left,
    fraction_length_of_parts parts.fraction exponentStops, ← List.drop_drop, List.drop_left,
    List.drop_left, exponent_length_of_parts parts.exponent stops]
  simp only [List.length_append]
  omega

theorem number_length_positive {characters : List Char} (starts : startsNumber characters = true) :
    0 < numberLength characters := by
  cases characters with
  | nil => contradiction
  | cons character rest =>
      simp only [startsNumber, Bool.or_eq_true] at starts
      unfold numberLength
      dsimp only
      cases digit : isDigit character with
      | true =>
          rw [List.takeWhile_cons_of_pos digit, List.length_cons]
          omega
      | false =>
          rcases starts with isDigit | fraction
          · exact absurd (isDigit.symm.trans digit) (by decide)
          · rw [starts_with_fraction_cons] at fraction
            rw [List.takeWhile_cons_of_neg (by simp [digit]), List.length_nil, List.drop_zero,
              fraction_length_cons, if_pos fraction]
            omega

/-- A text that is one lexeme. -/
def IsLexeme (kind : TokenKind) (lexeme : String) : Prop :=
  ∃ character rest, lexeme.toList = character :: rest ∧
    front character rest = .lexeme kind rest.length

theorem no_gap_of_front {character : Char} {rest : List Char} {kind : TokenKind} {more : Nat}
    (found : front character rest = .lexeme kind more) :
    isGap character = false ∧ character ≠ '\n' := by
  have notBlank := front_not_blank found
  constructor
  · cases gap : isGap character with
    | false => rfl
    | true =>
        simp only [isGap, Bool.or_eq_true, beq_iff_eq] at gap
        rcases gap with (rfl | rfl) | rfl <;> exact absurd notBlank (by decide)
  · rintro rfl
    exact absurd notBlank (by decide)

theorem IsLexeme.lexed {kind : TokenKind} {lexeme : String} (whole : IsLexeme kind lexeme)
    (depth : Nat) : Lexed depth lexeme.toList [senseOf kind lexeme] := by
  rcases whole with ⟨character, rest, shape, found⟩
  have ⟨noGap, noNewline⟩ := no_gap_of_front found
  have nothing : Lexed (depthAfter kind depth) (rest.drop rest.length) [] := by
    rw [List.drop_length]
    exact .nothing
  have lexed := Lexed.lexeme noGap noNewline found nothing
  rw [List.take_length, ← shape, String.ofList_toList] at lexed
  exact lexed

def IsNumeral (lexeme : String) : Prop := IsLexeme .number lexeme

theorem kind_of_pair {first second : Char} {kind : TokenKind}
    (pair : TokenKind.ofPair? first second = some kind) : kind ≠ .number ∧ kind ≠ .identifier := by
  unfold TokenKind.ofPair? at pair
  constructor
  · rintro rfl
    split at pair <;> contradiction
  · rintro rfl
    split at pair <;> contradiction

theorem kind_of_character {character : Char} {kind : TokenKind}
    (single : TokenKind.ofCharacter? character = some kind) :
    kind ≠ .number ∧ kind ≠ .identifier := by
  unfold TokenKind.ofCharacter? at single
  constructor
  · rintro rfl
    split at single <;> contradiction
  · rintro rfl
    split at single <;> contradiction

theorem number_of_front {character : Char} {rest : List Char} {more : Nat}
    (found : front character rest = .lexeme .number more) :
    startsNumber (character :: rest) = true ∧ more = numberLength (character :: rest) - 1 ∧
      (Decimal.readNumeral? ((character :: rest).take (numberLength (character :: rest)))).isSome =
        true := by
  rcases front_cases found with ⟨_, starts, length⟩ | ⟨other, _⟩ | ⟨_, _, _, pair, _⟩ | ⟨single, _⟩
  · refine ⟨starts, length, ?_⟩
    rw [front, if_pos starts, numberFront] at found
    dsimp only at found
    split at found
    · contradiction
    · split at found
      · assumption
      · contradiction
  · contradiction
  · exact absurd rfl (kind_of_pair pair).1
  · exact absurd rfl (kind_of_character single).1

theorem starts_number_of_length {character : Char} {rest : List Char}
    (numeric : isDigit character = true ∨ character = '.')
    (positive : 0 < numberLength (character :: rest)) :
    startsNumber (character :: rest) = true := by
  rcases numeric with digit | rfl
  · have starts : startsWithDigit (character :: rest) = true := digit
    rw [startsNumber, starts, Bool.true_or]
  · cases starts : startsWithDigit rest with
    | true =>
        rw [startsNumber, starts_with_fraction_cons, starts]
        exact Bool.or_true _
    | false =>
        have none : numberLength ('.' :: rest) = 0 := by
          have noDigit : isDigit '.' = false := by decide
          unfold numberLength
          rw [List.takeWhile_cons_of_neg (by simp [noDigit])]
          simp only [List.length_nil, List.drop_zero, fraction_length_cons, starts, Bool.and_false,
            Bool.false_eq_true, if_false, Nat.add_zero]
          rfl
        rw [none] at positive
        contradiction

theorem digit_or_point_of_starts {character : Char} {rest : List Char}
    (starts : startsNumber (character :: rest) = true) :
    isDigit character = true ∨ character = '.' := by
  simp only [startsNumber, starts_with_fraction_cons, Bool.or_eq_true, Bool.and_eq_true,
    beq_iff_eq] at starts
  exact starts.imp id And.left

theorem IsNumeral.starts {lexeme : String} (numeral : IsNumeral lexeme) :
    ∃ character rest, lexeme.toList = character :: rest ∧
      startsNumber (character :: rest) = true := by
  rcases numeral with ⟨character, rest, shape, found⟩
  exact ⟨character, rest, shape, (number_of_front found).1⟩

theorem IsNumeral.numeric {lexeme : String} (numeral : IsNumeral lexeme) :
    ∀ character ∈ lexeme.toList, isNumeric character = true := by
  rcases numeral with ⟨character, rest, shape, found⟩
  rcases number_of_front found with ⟨starts, length, _⟩
  have numeric := numeric_lexeme starts
  rw [← length, List.take_length] at numeric
  rw [shape]
  exact numeric

theorem IsNumeral.length {lexeme : String} (numeral : IsNumeral lexeme) {behind : List Char}
    (stops : Leads stopsNumber behind) :
    numberLength (lexeme.toList ++ behind) = lexeme.toList.length := by
  rcases numeral with ⟨character, rest, shape, found⟩
  rcases number_of_front found with ⟨starts, length, _⟩
  have positive := number_length_positive starts
  have within := number_length_le (character :: rest)
  rw [List.length_cons] at within
  have all : numberLength (character :: rest) = (character :: rest).length := by
    rw [List.length_cons]
    omega
  rcases number_take (character :: rest) with ⟨whole, fraction, exponent, parts⟩
  rw [all, List.take_length] at parts
  rw [shape]
  exact number_length_of_parts parts stops

end FormulaPlot.Scanning
