import FormulaPlot.Decimal.Numeral
import FormulaPlot.Proofs.Decimal.Grid

/-!
Reading printed decimals back. Digits are read as the number they were written for, and a numeral is
read from its parts: a sign, digits, decimals after a point, and a power of ten.
-/

namespace FormulaPlot.Decimal

open FormulaPlot.Text

set_option autoImplicit false

/-- The value of a text that is one whole numeral. -/
def readBack? (text : String) : Option Rat := (readNumeral? text.toList).map Numeral.value

/-! Digits -/

/-- Digits from 0 to 9 only. -/
def Plain (characters : List Char) : Prop := ∀ character ∈ characters, character.isDigit = true

theorem decimal_value {character : Char} (digit : character.isDigit = true) :
    decimalValue? character = some (character.toNat - '0'.toNat) := by
  have range : 48 ≤ character.toNat ∧ character.toNat ≤ 57 := by
    simpa [Char.isDigit, UInt32.le_iff_toNat_le] using digit
  obtain ⟨least, most⟩ := range
  show decimalValueFrom decimalZeros character.toNat = some (character.toNat - 48)
  rw [decimalZeros, decimalValueFrom, if_neg (by omega), if_pos (by omega)]

theorem plain_digits (number : Nat) : Plain (digits number) :=
  fun _ mem => Nat.isDigit_of_mem_toDigits (by decide) (by decide) mem

theorem Plain.append {first second : List Char} (one : Plain first) (other : Plain second) :
    Plain (first ++ second) := by
  intro character mem
  rcases List.mem_append.mp mem with mem | mem
  · exact one character mem
  · exact other character mem

theorem plain_zeros (count : Nat) : Plain (List.replicate count '0') := by
  intro character mem
  rw [List.eq_of_mem_replicate mem]
  rfl

/-- What stands behind digits and cannot go on with them. -/
def Ends (rest : List Char) : Prop := ∀ next ∈ rest.head?, decimalValue? next = none

def digitValues (characters : List Char) : List Nat :=
  characters.map fun character => character.toNat - '0'.toNat

theorem take_digits_eq {characters rest : List Char} (plain : Plain characters) (ends : Ends rest) :
    takeDigits (characters ++ rest) = (digitValues characters, rest) := by
  induction characters with
  | nil =>
      cases rest with
      | nil => rfl
      | cons next rest =>
          have stop := ends next rfl
          rw [List.nil_append, takeDigits, stop]
          rfl
  | cons first others ih =>
      have digit := plain first List.mem_cons_self
      have more := ih fun character mem => plain character (List.mem_cons_of_mem _ mem)
      rw [List.cons_append, takeDigits, decimal_value digit, more]
      rfl

theorem number_of_digit_values (characters : List Char) :
    numberOfDigits (digitValues characters) = Nat.ofDigitChars 10 characters 0 := by
  rw [numberOfDigits, digitValues, List.foldl_map, Nat.ofDigitChars_eq_foldl]

theorem digit_values_append (first second : List Char) :
    digitValues first ++ digitValues second = digitValues (first ++ second) :=
  List.map_append.symm

/-! Numerals -/

/-- Digits, and decimals after a point where there are any. -/
def pointed (whole fraction : List Char) : List Char :=
  match fraction with
  | [] => whole
  | fraction => whole ++ '.' :: fraction

section Parts

variable {whole fraction rest : List Char}

theorem take_sign_eq {first : Char} (others : List Char) (digit : first.isDigit = true)
    (negative : Bool) :
    takeSign (if negative then '-' :: first :: others else first :: others) =
      (negative, first :: others) := by
  cases negative with
  | true => rfl
  | false =>
      show takeSign (first :: others) = (false, first :: others)
      unfold takeSign
      split
      · next same =>
          injection same with same
          rw [same] at digit
          contradiction
      · next same =>
          injection same with same
          rw [same] at digit
          contradiction
      · rfl

theorem take_fraction_none {values : List Nat} (noPoint : rest.head? ≠ some '.') :
    takeFraction values rest = ([], rest) := by
  unfold takeFraction
  split
  · exact absurd rfl noPoint
  · rfl

theorem take_fraction_some {value : Nat} {values : List Nat} (plain : Plain fraction)
    (ends : Ends rest) :
    takeFraction (value :: values) ('.' :: (fraction ++ rest)) = (digitValues fraction, rest) := by
  simp only [takeFraction, take_digits_eq plain ends]

/-- The digits of a numeral end where its decimals start. -/
theorem pointed_parts (some : whole ≠ []) (decimals : Plain fraction) (ends : Ends rest)
    (noPoint : rest.head? ≠ Option.some '.') :
    ∃ tail, pointed whole fraction ++ rest = whole ++ tail ∧ Ends tail ∧
      takeFraction (digitValues whole) tail = (digitValues fraction, rest) := by
  obtain ⟨first, others, rfl⟩ := List.exists_cons_of_ne_nil some
  cases fraction with
  | nil => exact ⟨rest, rfl, ends, take_fraction_none noPoint⟩
  | cons next fraction =>
      refine ⟨'.' :: (next :: fraction ++ rest), ?_, ?_, take_fraction_some decimals ends⟩
      · simp only [pointed, List.append_assoc, List.cons_append]
      · rintro _ ⟨⟩
        decide

theorem take_numeral_eq (plain : Plain whole) (some : whole ≠ []) (decimals : Plain fraction)
    (ends : Ends rest) (noPoint : rest.head? ≠ Option.some '.') (negative : Bool) :
    takeNumeral (if negative then '-' :: (pointed whole fraction ++ rest)
        else pointed whole fraction ++ rest) =
      Option.some (⟨negative, Nat.ofDigitChars 10 (whole ++ fraction) 0,
        (takeExponent rest).1 - fraction.length⟩, (takeExponent rest).2) := by
  obtain ⟨tail, parted, ended, fractioned⟩ := pointed_parts some decimals ends noPoint
  have taken := take_digits_eq plain ended
  obtain ⟨first, others, rfl⟩ := List.exists_cons_of_ne_nil some
  have signed := take_sign_eq (others ++ tail) (plain first List.mem_cons_self) negative
  rw [List.cons_append] at parted taken
  rw [parted, takeNumeral, signed]
  dsimp only
  rw [taken]
  dsimp only
  rw [fractioned, digit_values_append, number_of_digit_values]
  have shown : (digitValues (first :: others)).isEmpty = false := rfl
  have length : (digitValues fraction).length = fraction.length := List.length_map _
  simp only [shown, length, Bool.false_and, Bool.false_eq_true, if_false]

/-- The power of ten of a numeral, written to the end. -/
theorem take_exponent_eq {power : List Char} (plain : Plain power) (some : power ≠ [])
    (negative : Bool) :
    takeExponent ('e' :: (if negative then '-' else '+') :: power) =
      (if negative then -(Nat.ofDigitChars 10 power 0 : Int) else Nat.ofDigitChars 10 power 0,
        []) := by
  have taken := take_digits_eq plain (show Ends [] from nofun)
  rw [List.append_nil] at taken
  have signed : takeSign ((if negative then '-' else '+') :: power) = (negative, power) := by
    cases negative <;> rfl
  obtain ⟨first, others, rfl⟩ := List.exists_cons_of_ne_nil some
  have mark : ('e' == 'e' || 'e' == 'E') = true := rfl
  rw [takeExponent, if_pos mark, signed]
  dsimp only
  rw [taken]
  show ((if negative then -(numberOfDigits (digitValues (first :: others)) : Int)
    else numberOfDigits (digitValues (first :: others))), ([] : List Char)) = _
  rw [number_of_digit_values]

theorem read_pointed (plain : Plain whole) (some : whole ≠ []) (decimals : Plain fraction)
    (negative : Bool) :
    readNumeral? (if negative then '-' :: pointed whole fraction else pointed whole fraction) =
      Option.some ⟨negative, Nat.ofDigitChars 10 (whole ++ fraction) 0, -fraction.length⟩ := by
  have taken := take_numeral_eq plain some decimals (show Ends [] from nofun) nofun negative
  rw [List.append_nil] at taken
  rw [readNumeral?, taken]
  show Option.some (Numeral.mk _ _ (0 - fraction.length)) = _
  rw [Int.zero_sub]

theorem read_scientific {power : List Char} (plain : Plain whole) (some : whole ≠ [])
    (decimals : Plain fraction) (powered : Plain power) (any : power ≠ [])
    (negative down : Bool) :
    readNumeral? (if negative then
        '-' :: (pointed whole fraction ++ 'e' :: (if down then '-' else '+') :: power)
      else pointed whole fraction ++ 'e' :: (if down then '-' else '+') :: power) =
      Option.some ⟨negative, Nat.ofDigitChars 10 (whole ++ fraction) 0,
        (if down then -(Nat.ofDigitChars 10 power 0 : Int) else Nat.ofDigitChars 10 power 0) -
          fraction.length⟩ := by
  have ends : Ends ('e' :: (if down then '-' else '+') :: power) := by
    rintro _ ⟨⟩
    decide
  have noPoint : ('e' :: (if down then '-' else '+') :: power).head? ≠ Option.some '.' := by
    intro point
    injection point with point
    exact absurd point (by decide)
  have taken := take_numeral_eq plain some decimals ends noPoint negative
  rw [take_exponent_eq powered any down] at taken
  rw [readNumeral?, taken]

end Parts

/-! Trimmed fractions -/

theorem drop_end_across {dropped mark : Char} (other : (mark == dropped) = false)
    (front rest : List Char) :
    dropEndWhile (· == dropped) (front ++ mark :: rest) =
      front ++ mark :: dropEndWhile (· == dropped) rest := by
  have backwards : (front ++ mark :: rest).reverse = rest.reverse ++ mark :: front.reverse := by
    simp
  rw [dropEndWhile, dropEndWhile, backwards, List.dropWhile_append]
  split
  · next none =>
      have all : rest.reverse.dropWhile (· == dropped) = [] := List.isEmpty_iff.mp none
      rw [all, List.dropWhile_cons_of_neg (by rw [other]; decide)]
      simp
  · simp

theorem drop_end_of_last {dropped : Char} {characters : List Char}
    (solid : ∀ last ∈ characters.getLast?, last ≠ dropped) :
    dropEndWhile (· == dropped) characters = characters := by
  rw [dropEndWhile]
  cases backwards : characters.reverse with
  | nil => exact (List.reverse_eq_nil_iff.mp backwards).symm
  | cons last before =>
      have ended : last ≠ dropped := by
        apply solid
        rw [List.getLast?_eq_head?_reverse, backwards]
        rfl
      rw [List.dropWhile_cons_of_neg (by simpa using ended), ← backwards, List.reverse_reverse]

/-- What is dropped is the mark alone. -/
theorem drop_end_eq (mark : Char) (characters : List Char) :
    ∃ count, characters =
      dropEndWhile (· == mark) characters ++ List.replicate count mark := by
  refine ⟨(characters.reverse.takeWhile (· == mark)).length, ?_⟩
  have dropped : (characters.reverse.takeWhile (· == mark)).reverse =
      List.replicate (characters.reverse.takeWhile (· == mark)).length mark := by
    rw [List.eq_replicate_iff]
    refine ⟨List.length_reverse, ?_⟩
    intro character mem
    rw [List.mem_reverse] at mem
    exact beq_iff_eq.mp (List.mem_takeWhile_imp (p := (· == mark)) mem)
  rw [← dropped, dropEndWhile, ← List.reverse_append, List.takeWhile_append_dropWhile,
    List.reverse_reverse]

theorem plain_drop_end {characters : List Char} (plain : Plain characters) (mark : Char) :
    Plain (dropEndWhile (· == mark) characters) := by
  obtain ⟨count, parts⟩ := drop_end_eq mark characters
  intro character mem
  apply plain
  rw [parts]
  exact List.mem_append_left _ mem

/-- Digits in front of a point are kept, and so is the point before a decimal. -/
theorem trim_fraction_eq {front : List Char} (solid : ∀ last ∈ front.getLast?, last ≠ '.')
    {fraction : List Char} (plain : Plain fraction) :
    trimFraction (front ++ '.' :: fraction) =
      pointed front (dropEndWhile (· == '0') fraction) := by
  have point : (front ++ '.' :: fraction).contains '.' = true := by simp
  have other : ('.' == '0') = false := rfl
  rw [trimFraction, if_pos point, drop_end_across other]
  have kept := plain_drop_end plain '0'
  cases trimmed : dropEndWhile (· == '0') fraction with
  | nil =>
      have apart : (front ++ ['.']).reverse = '.' :: front.reverse := by simp
      have whole := drop_end_of_last solid
      rw [dropEndWhile] at whole ⊢
      rw [apart, List.dropWhile_cons_of_pos rfl]
      exact whole
  | cons first others =>
      apply drop_end_of_last
      intro last ends
      have mem : last ∈ dropEndWhile (· == '0') fraction := by
        rw [trimmed]
        apply List.mem_of_getLast?
        simpa using ends
      intro point
      have digit := kept last mem
      rw [point] at digit
      contradiction

/-! Printed texts -/

/-- A magnitude with its sign. -/
def withSign (negative : Bool) (magnitude : Rat) : Rat := if negative then -magnitude else magnitude

theorem numeral_value (negative : Bool) (significand : Nat) (exponent : Int) :
    Numeral.value ⟨negative, significand, exponent⟩ =
      withSign negative (significand * 10 ^ exponent) := by
  rw [Numeral.value, power_of_ten_eq]
  rfl

theorem signed_chars (negative : Bool) (characters : List Char) :
    (signed negative characters).toList =
      if negative then '-' :: characters else characters := String.toList_ofList

/-- The digits before and after the point of a number with so many places. -/
theorem fixed_parts {places : Nat} (some : 0 < places) (magnitude : Rat) :
    ∃ whole fraction, fixedMagnitude places magnitude = whole ++ '.' :: fraction ∧
      Plain whole ∧ whole ≠ [] ∧ Plain fraction ∧ fraction.length = places ∧
      Nat.ofDigitChars 10 (whole ++ fraction) 0 = units magnitude places := by
  generalize padded : padLeft (places + 1) '0' (digits (units magnitude places)) = all
  have long : places < all.length := by
    rw [← padded, padLeft, List.length_append, List.length_replicate]
    omega
  have plain : Plain all := by
    rw [← padded]
    exact (plain_zeros _).append (plain_digits _)
  have value : Nat.ofDigitChars 10 all 0 = units magnitude places := by
    rw [← padded, padLeft, Nat.ofDigitChars_append, Nat.ofDigitChars_replicate_zero, Nat.mul_zero]
    exact Nat.ofDigitChars_ten_toDigits
  refine ⟨all.take (all.length - places), all.drop (all.length - places), ?_,
    fun _ mem => plain _ (List.mem_of_mem_take mem), ?_,
    fun _ mem => plain _ (List.mem_of_mem_drop mem), ?_, ?_⟩
  · simp only [fixedMagnitude, padded]
    rw [if_neg (by omega)]
  · rw [← List.length_pos_iff, List.length_take]
    omega
  · rw [List.length_drop]
    omega
  · rw [List.take_append_drop, value]

/-- The texts of the two zeros are read alike. -/
theorem read_unsigned_zero (text : String) :
    readBack? (if text = "-0" then "0" else text) = readBack? text := by
  split
  · next zero =>
      rw [zero]
      decide +kernel
  · rfl

/-- Zeros at the end of the decimals count for nothing. -/
theorem dropped_zeros (whole : List Char) {fraction kept : List Char} {count places : Nat}
    (zeros : fraction = kept ++ List.replicate count '0') (length : fraction.length = places) :
    (Nat.ofDigitChars 10 (whole ++ kept) 0 : Rat) * 10 ^ (-kept.length : Int) =
      Nat.ofDigitChars 10 (whole ++ fraction) 0 * 10 ^ (-places : Int) := by
  have all : Nat.ofDigitChars 10 (whole ++ fraction) 0 =
      10 ^ count * Nat.ofDigitChars 10 (whole ++ kept) 0 := by
    rw [zeros, ← List.append_assoc, Nat.ofDigitChars_append, Nat.ofDigitChars_replicate_zero]
  have spread : (-kept.length : Int) = count + -places := by
    rw [← length, zeros, List.length_append, List.length_replicate]
    omega
  rw [all, spread, zpow_add₀ (by decide), zpow_natCast]
  push_cast
  ring

/-- Fixed places lose the zeros at the end of their decimals and nothing else. -/
theorem trimmed_parts {places : Nat} (some : 0 < places) (negative : Bool) (magnitude : Rat) :
    ∃ whole fraction, Plain whole ∧ whole ≠ [] ∧ Plain fraction ∧ fraction.length = places ∧
      Nat.ofDigitChars 10 (whole ++ fraction) 0 = units magnitude places ∧
      trimFraction (fixed places (.finite negative magnitude)).toList =
        if negative then '-' :: pointed whole (dropEndWhile (· == '0') fraction)
        else pointed whole (dropEndWhile (· == '0') fraction) := by
  obtain ⟨whole, fraction, parts, plain, any, decimals, length, value⟩ := fixed_parts some magnitude
  refine ⟨whole, fraction, plain, any, decimals, length, value, ?_⟩
  have solid : ∀ last ∈ (if negative then '-' :: whole else whole).getLast?, last ≠ '.' := by
    intro last ends point
    have mem : last ∈ whole := by
      obtain ⟨first, others, rfl⟩ := List.exists_cons_of_ne_nil any
      apply List.mem_of_getLast?
      cases negative
      · exact ends
      · rw [← List.getLast?_cons_cons (a := '-')]
        exact ends
    have digit := plain last mem
    rw [point] at digit
    contradiction
  have text : (fixed places (.finite negative magnitude)).toList =
      (if negative then '-' :: whole else whole) ++ '.' :: fraction := by
    rw [fixed, withSpecials, signed_chars, parts]
    cases negative <;> rfl
  rw [text, trim_fraction_eq solid decimals]
  cases negative <;> cases dropEndWhile (· == '0') fraction <;> rfl

theorem read_fixed_trimmed {places : Nat} (some : 0 < places) (negative : Bool)
    (magnitude : Rat) :
    readBack? (fixedTrimmed places (.finite negative magnitude)) =
      Option.some (withSign negative (rounded places magnitude)) := by
  obtain ⟨whole, fraction, plain, any, decimals, length, value, text⟩ :=
    trimmed_parts some negative magnitude
  obtain ⟨count, zeros⟩ := drop_end_eq '0' fraction
  rw [fixedTrimmed, read_unsigned_zero, text, readBack?, String.toList_ofList,
    read_pointed plain any (plain_drop_end decimals '0') negative]
  rw [Option.map_some, numeral_value, rounded_eq, ← value, ← dropped_zeros whole zeros length]

/-! Powers of ten -/

theorem exponent_digits (exponent : Int) :
    padLeft 1 '0' (digits exponent.natAbs) = digits exponent.natAbs := by
  have some : 0 < (digits exponent.natAbs).length := Nat.length_toDigits_pos
  have none : 1 - (digits exponent.natAbs).length = 0 := by omega
  rw [padLeft, none]
  rfl

theorem read_exponential {first second third : Char} (plain : Plain [first, second, third])
    (exponent : Int) (negative : Bool) :
    readBack? (signed negative (Scientific.exponential 1 ⟨[first, second, third], exponent⟩)) =
      some (withSign negative
        (Nat.ofDigitChars 10 [first, second, third] 0 * 10 ^ (exponent - 2))) := by
  have whole : Plain [first] := fun _ mem => plain _ (List.mem_of_mem_take (i := 1) mem)
  have decimals : Plain [second, third] := fun _ mem => plain _ (List.mem_cons_of_mem _ mem)
  have text : (signed negative
      (Scientific.exponential 1 ⟨[first, second, third], exponent⟩)).toList =
        if negative then '-' :: (pointed [first] [second, third] ++
          'e' :: (if decide (exponent < 0) then '-' else '+') :: digits exponent.natAbs)
        else pointed [first] [second, third] ++
          'e' :: (if decide (exponent < 0) then '-' else '+') :: digits exponent.natAbs := by
    rw [signed_chars, Scientific.exponential, exponent_digits]
    cases negative <;> simp [Scientific.mantissa, pointed]
  have power : (if decide (exponent < 0) then
        -(Nat.ofDigitChars 10 (digits exponent.natAbs) 0 : Int)
      else Nat.ofDigitChars 10 (digits exponent.natAbs) 0) = exponent := by
    have value : Nat.ofDigitChars 10 (digits exponent.natAbs) 0 = exponent.natAbs :=
      Nat.ofDigitChars_ten_toDigits
    rw [value]
    split
    · next down =>
        rw [decide_eq_true_iff] at down
        omega
    · next up =>
        rw [decide_eq_true_iff] at up
        omega
  rw [readBack?, text, read_scientific whole (List.cons_ne_nil _ _) decimals
    (plain_digits _) Nat.toDigits_ne_nil negative, power, Option.map_some, numeral_value]
  rfl

/-- Three digits, unless rounding has run over into a fourth one. -/
theorem three_digits {magnitude : Rat} (positive : 0 < magnitude) :
    100 ≤ units magnitude (2 - leadingExponent magnitude) ∧
      units magnitude (2 - leadingExponent magnitude) ≤ 1000 := by
  obtain ⟨least, most⟩ := leading_exponent_spec positive
  have nearest := units_nearest positive.le (2 - leadingExponent magnitude)
  have scale : (0 : Rat) < 10 ^ (2 - leadingExponent magnitude) := by positivity
  have low : ((100 : Nat) : Rat) ≤ magnitude * 10 ^ (2 - leadingExponent magnitude) := by
    calc ((100 : Nat) : Rat)
        = 10 ^ leadingExponent magnitude * 10 ^ (2 - leadingExponent magnitude) := by
          rw [← zpow_add₀ (by decide), add_sub_cancel]
          norm_num
      _ ≤ magnitude * 10 ^ (2 - leadingExponent magnitude) := by gcongr
  have high : magnitude * 10 ^ (2 - leadingExponent magnitude) ≤ ((1000 : Nat) : Rat) := by
    calc magnitude * 10 ^ (2 - leadingExponent magnitude)
        ≤ 10 ^ (leadingExponent magnitude + 1) * 10 ^ (2 - leadingExponent magnitude) := by gcongr
      _ = ((1000 : Nat) : Rat) := by
          rw [← zpow_add₀ (by decide)]
          have three : leadingExponent magnitude + 1 + (2 - leadingExponent magnitude) = 3 := by
            omega
          rw [three]
          norm_num
  exact ⟨(IsNearest.self 100).mono nearest low, nearest.mono (.self 1000) high⟩

/-- A number of three digits as its digits. -/
theorem digits_of_three {number : Nat} (least : 100 ≤ number) (most : number < 1000) :
    ∃ first second third, digits number = [first, second, third] := by
  have atMost : (digits number).length ≤ 3 :=
    (Nat.length_toDigits_le_iff (by decide) (by decide)).mpr most
  have atLeast : ¬(digits number).length ≤ 2 := fun short =>
    absurd ((Nat.length_toDigits_le_iff (by decide) (by decide)).mp short) (by omega)
  exact List.length_eq_three.mp (by omega)

theorem read_three_digits {magnitude : Rat} (positive : 0 < magnitude) (negative : Bool) :
    readBack? (signed negative ((Scientific.ofMagnitude 3 magnitude).exponential 1)) =
      some (withSign negative (rounded (2 - leadingExponent magnitude) magnitude)) := by
  obtain ⟨least, most⟩ := three_digits positive
  have places : ((3 : Nat) : Int) - 1 - leadingExponent magnitude =
      2 - leadingExponent magnitude := by omega
  have power : -(2 - leadingExponent magnitude) = leadingExponent magnitude - 2 := by omega
  rw [Scientific.ofMagnitude, if_neg positive.ne']
  dsimp only
  rw [places, rounded_eq, power]
  rcases Nat.lt_or_ge (units magnitude (2 - leadingExponent magnitude)) 1000 with short | long
  · obtain ⟨first, second, third, written⟩ := digits_of_three least short
    have plain := plain_digits (units magnitude (2 - leadingExponent magnitude))
    have value : Nat.ofDigitChars 10 (digits (units magnitude (2 - leadingExponent magnitude))) 0 =
        units magnitude (2 - leadingExponent magnitude) := Nat.ofDigitChars_ten_toDigits
    rw [written] at plain value
    rw [written, if_neg (show ¬3 < [first, second, third].length from Nat.lt_irrefl 3),
      read_exponential plain, value]
  · have carried : units magnitude (2 - leadingExponent magnitude) = 1000 := by omega
    have written : digits 1000 = ['1', '0', '0', '0'] := by decide
    have next : leadingExponent magnitude + 1 - 2 = leadingExponent magnitude - 2 + 1 := by omega
    rw [carried, written, if_pos (by decide)]
    show readBack? (signed negative
      (Scientific.exponential 1 ⟨['1', '0', '0'], leadingExponent magnitude + 1⟩)) = _
    have plain : Plain ['1', '0', '0'] := by
      simp only [Plain, List.forall_mem_cons]
      exact ⟨rfl, rfl, rfl, nofun⟩
    rw [read_exponential plain, next, zpow_add_one₀ (by decide)]
    congr 2
    have value : Nat.ofDigitChars 10 ['1', '0', '0'] 0 = 100 := by decide
    rw [value]
    push_cast
    ring

example : readBack? "-1.25e-4" = some (-1 / 8000) := by decide +kernel

/-! Characters of numerals -/

/-- Decimal digits, signs, the point and the mark of a power of ten. -/
def IsNumeral (character : Char) : Prop :=
  (decimalValue? character).isSome = true ∨ character ∈ ['+', '-', '.', 'e', 'E']

/-- What is taken from the front of a text, the rest being left, consists of such characters. -/
def TakesNumeral (characters rest : List Char) : Prop :=
  ∃ taken, characters = taken ++ rest ∧ ∀ character ∈ taken, IsNumeral character

section Takes

variable {characters between rest : List Char}

theorem takes_nothing (characters : List Char) : TakesNumeral characters characters :=
  ⟨[], rfl, nofun⟩

theorem TakesNumeral.trans (first : TakesNumeral characters between)
    (second : TakesNumeral between rest) : TakesNumeral characters rest := by
  obtain ⟨taken, rfl, one⟩ := first
  obtain ⟨more, rfl, other⟩ := second
  exact ⟨taken ++ more, (List.append_assoc ..).symm, List.forall_mem_append.mpr ⟨one, other⟩⟩

theorem TakesNumeral.cons {first : Char} (numeral : IsNumeral first)
    (takes : TakesNumeral characters rest) : TakesNumeral (first :: characters) rest := by
  obtain ⟨taken, rfl, one⟩ := takes
  exact ⟨first :: taken, rfl, List.forall_mem_cons.mpr ⟨numeral, one⟩⟩

theorem takes_sign (characters : List Char) : TakesNumeral characters (takeSign characters).2 := by
  unfold takeSign
  split
  · exact (takes_nothing _).cons (.inr (by decide))
  · exact (takes_nothing _).cons (.inr (by decide))
  · exact takes_nothing _

theorem takes_digits (characters : List Char) :
    TakesNumeral characters (takeDigits characters).2 := by
  induction characters with
  | nil => exact takes_nothing _
  | cons first rest ih =>
      rw [takeDigits]
      split
      · next digit read => exact ih.cons (.inl (Option.isSome_iff_exists.mpr ⟨digit, read⟩))
      · exact takes_nothing _

theorem takes_fraction (whole : List Nat) (characters : List Char) :
    TakesNumeral characters (takeFraction whole characters).2 := by
  unfold takeFraction
  split
  · next rest =>
      split
      · exact takes_nothing _
      · exact (takes_digits rest).cons (.inr (by decide))
  · exact takes_nothing _

theorem takes_exponent (characters : List Char) :
    TakesNumeral characters (takeExponent characters).2 := by
  unfold takeExponent
  split
  · next mark rest =>
      split
      · next marked =>
          have numeral : IsNumeral mark := by
            rcases Bool.or_eq_true_iff.mp marked with lower | upper
            · exact .inr (by simp [beq_iff_eq.mp lower])
            · exact .inr (by simp [beq_iff_eq.mp upper])
          have digits := ((takes_sign rest).trans (takes_digits _)).cons numeral
          dsimp only
          split
          · exact takes_nothing _
          · next read =>
              rw [read] at digits
              exact digits
      · exact takes_nothing _
  · exact takes_nothing _

theorem takes_numeral {numeral : Numeral} (taken : takeNumeral characters = some (numeral, rest)) :
    TakesNumeral characters rest := by
  unfold takeNumeral at taken
  dsimp only at taken
  split at taken
  · contradiction
  · injection taken with taken
    injection taken with _ same
    rw [← same]
    exact (((takes_sign _).trans (takes_digits _)).trans (takes_fraction _ _)).trans
      (takes_exponent _)

theorem numeral_of_read_back {text : String} {value : Rat} (read : readBack? text = some value) :
    ∀ character ∈ text.toList, IsNumeral character := by
  obtain ⟨numeral, whole, -⟩ := Option.map_eq_some_iff.mp read
  unfold readNumeral? at whole
  split at whole
  · next other taken =>
      obtain ⟨front, same, numerals⟩ := takes_numeral taken
      rw [same, List.append_nil]
      exact numerals
  · contradiction

end Takes

end FormulaPlot.Decimal
