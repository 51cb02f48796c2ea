import FormulaPlot.Equation.Normal
import FormulaPlot.Proofs.Formula.Lexemes

/-!
The normal form of a text spells the same lexemes: `^` means what `**` means, and `ln` is left alone
where no lexeme is that name.
-/

namespace FormulaPlot.Equation

open FormulaPlot.Scanning FormulaPlot.Text

set_option autoImplicit false

theorem powers_as_carets_cons {character : Char} {rest : List Char}
    (single : ¬(character = '*' ∧ rest.head? = some '*')) :
    powersAsCarets (character :: rest) = character :: powersAsCarets rest := by
  rw [powersAsCarets]
  rintro others rfl rfl
  exact single ⟨rfl, rfl⟩

theorem powers_as_carets_append {first : List Char} (noStar : '*' ∉ first) (rest : List Char) :
    powersAsCarets (first ++ rest) = first ++ powersAsCarets rest := by
  induction first with
  | nil => rfl
  | cons character others induction =>
      rw [List.mem_cons, not_or] at noStar
      have single : ¬(character = '*' ∧ (others ++ rest).head? = some '*') :=
        fun pair => noStar.1 pair.1.symm
      rw [List.cons_append, powers_as_carets_cons single, induction noStar.2, List.cons_append]

/-- A character between two texts keeps their stars apart. -/
theorem powers_as_carets_around {character : Char} (noStar : character ≠ '*')
    (first second : List Char) :
    powersAsCarets (first ++ character :: second) =
      powersAsCarets first ++ character :: powersAsCarets second := by
  induction first using powersAsCarets.induct with
  | case1 rest induction =>
      rw [List.cons_append, List.cons_append, powersAsCarets, powersAsCarets, induction]
      rfl
  | case2 next rest single induction =>
      have alone : ¬(next = '*' ∧ rest.head? = some '*') := by
        rintro ⟨rfl, starred⟩
        obtain ⟨tail, rfl⟩ := List.head?_eq_some_iff.mp starred
        exact single tail rfl rfl
      have apart : ¬(next = '*' ∧ (rest ++ character :: second).head? = some '*') := by
        rintro ⟨star, starred⟩
        cases rest with
        | nil => exact noStar (by simpa using starred)
        | cons other tail => exact alone ⟨star, starred⟩
      rw [List.cons_append, powers_as_carets_cons apart, powers_as_carets_cons alone, induction]
      rfl
  | case3 =>
      exact powers_as_carets_cons fun pair => noStar pair.1

theorem mem_powers_as_carets {character : Char} {characters : List Char}
    (member : character ∈ powersAsCarets characters) :
    character ∈ characters ∨ character = '^' := by
  induction characters using powersAsCarets.induct with
  | case1 rest induction =>
      rw [powersAsCarets, List.mem_cons] at member
      rcases member with caret | behind
      · exact .inr caret
      · exact (induction behind).imp_left fun inside => by simp [inside]
  | case2 next rest single induction =>
      rw [powersAsCarets, List.mem_cons] at member
      · rcases member with same | behind
        · exact .inl (by simp [same])
        · exact (induction behind).imp_left fun inside => by simp [inside]
      · exact single
  | case3 => simp [powersAsCarets] at member

theorem head_powers_as_carets (characters : List Char) :
    (powersAsCarets characters).head? = characters.head? ∨
      (powersAsCarets characters).head? = some '^' := by
  cases characters using powersAsCarets.fun_cases with
  | case1 rest => exact .inr rfl
  | case2 next rest single =>
      rw [powersAsCarets]
      · exact .inl rfl
      · exact single
  | case3 => exact .inl rfl

theorem front_power (rest : List Char) : front '*' ('*' :: rest) = .lexeme .doubleStar 1 := by
  have noNumber : startsNumber ('*' :: '*' :: rest) = false := by
    rw [startsNumber, starts_with_fraction_cons]
    rfl
  rw [front, noNumber]
  rfl

theorem pair_with_star {character : Char} {kind : TokenKind}
    (pair : TokenKind.ofPair? character '*' = some kind) : character = '*' := by
  unfold TokenKind.ofPair? at pair
  split at pair <;> simp_all

theorem no_pair_with_caret (character : Char) : TokenKind.ofPair? character '^' = none := by
  unfold TokenKind.ofPair?
  split <;> simp_all

theorem breaks_leads_powers {characters : List Char}
    (starred : Leads (· == '*') characters) :
    Leads breaks characters ∧ Leads breaks (powersAsCarets characters) := by
  have star : breaks '*' = true := by decide
  have caret : breaks '^' = true := by decide
  constructor
  · cases characters with
    | nil => trivial
    | cons next rest =>
        rw [eq_of_beq starred]
        exact star
  · cases powers : powersAsCarets characters with
    | nil => trivial
    | cons next rest =>
        rcases head_powers_as_carets characters with same | isCaret
        · cases characters with
          | nil => simp [powers] at same
          | cons first others =>
              simp only [powers, List.head?_cons, Option.some.injEq] at same
              rw [same, eq_of_beq starred]
              exact star
        · simp only [powers, List.head?_cons, Option.some.injEq] at isCaret
          rw [isCaret]
          exact caret

theorem stars_behind (characters : List Char) :
    Leads (· == '*') (characters.dropWhile (· != '*')) := by
  have stops := List.head?_dropWhile_not (· != '*') characters
  cases shape : characters.dropWhile (· != '*') with
  | nil => trivial
  | cons next rest =>
      rw [shape] at stops
      simpa [Leads, bne] using stops

/-- A lexeme other than a power is read in the same way when the powers behind it are carets. -/
theorem front_powers_as_carets {character : Char} {rest : List Char} {kind : TokenKind} {more : Nat}
    (single : ¬(character = '*' ∧ rest.head? = some '*'))
    (found : front character rest = .lexeme kind more) :
    front character (powersAsCarets rest) = .lexeme kind more ∧
      (powersAsCarets rest).take more = rest.take more ∧
      (powersAsCarets rest).drop more = powersAsCarets (rest.drop more) := by
  obtain ⟨first, behind, parted, noStar, starred⟩ : ∃ first behind, rest = first ++ behind ∧
      '*' ∉ first ∧ Leads (· == '*') behind :=
    ⟨rest.takeWhile (· != '*'), rest.dropWhile (· != '*'), List.takeWhile_append_dropWhile.symm,
      fun member => by simpa using List.all_eq_true.mp List.all_takeWhile _ member,
      stars_behind rest⟩
  obtain ⟨breaking, breakingPowers⟩ := breaks_leads_powers starred
  have noPair : first = [] → behind.head?.bind (TokenKind.ofPair? character) = none := by
    intro none
    rw [none, List.nil_append] at parted
    rw [← parted]
    cases head : rest.head? with
    | none => rfl
    | some next =>
        cases pair : TokenKind.ofPair? character next with
        | none => exact pair
        | some kind =>
            rw [parted] at head
            cases behind with
            | nil => simp at head
            | cons other tail =>
                simp only [List.head?_cons, Option.some.injEq] at head
                rw [← head, eq_of_beq starred] at pair
                exact absurd ⟨pair_with_star pair, by rw [parted, eq_of_beq starred]; rfl⟩ single
  have noPairPowers : first = [] →
      (powersAsCarets behind).head?.bind (TokenKind.ofPair? character) = none := by
    intro none
    rcases head_powers_as_carets behind with same | isCaret
    · rw [same]
      exact noPair none
    · rw [isCaret]
      exact no_pair_with_caret character
  rw [parted, front_append breaking character first noPair] at found
  have within := front_within found
  rw [parted, powers_as_carets_append noStar,
    front_append breakingPowers character first noPairPowers,
    List.take_append_of_le_length within, List.take_append_of_le_length within,
    List.drop_append_of_le_length within, List.drop_append_of_le_length within,
    powers_as_carets_append fun member => noStar (List.mem_of_mem_drop member)]
  exact ⟨found, rfl, rfl⟩

theorem lexed_powers_as_carets {depth : Nat} {characters : List Char} {senses : List Sense}
    (lexed : Lexed depth characters senses) :
    Lexed depth (powersAsCarets characters) senses := by
  have kept : ∀ {character : Char} (rest : List Char), character ≠ '*' →
      powersAsCarets (character :: rest) = character :: powersAsCarets rest := by
    intro character rest noStar
    exact powers_as_carets_cons fun pair => noStar pair.1
  induction lexed with
  | nothing => exact .nothing
  | @gap depth character rest senses blank lexed induction =>
      have noStar : character ≠ '*' := by
        rintro rfl
        exact absurd blank (by decide)
      rw [kept rest noStar]
      exact .gap blank induction
  | @folded depth rest senses deep lexed induction =>
      rw [kept rest (by decide)]
      exact .folded deep induction
  | @newline rest senses lexed induction =>
      rw [kept rest (by decide)]
      exact .newline induction
  | @lexeme depth character rest kind more senses noGap noNewline found lexed induction =>
      by_cases power : character = '*' ∧ rest.head? = some '*'
      · obtain ⟨rfl, starred⟩ := power
        obtain ⟨tail, rfl⟩ := List.head?_eq_some_iff.mp starred
        rw [front_power, Front.lexeme.injEq] at found
        obtain ⟨rfl, rfl⟩ := found
        have alone : front '^' (powersAsCarets tail) = .lexeme .caret 0 :=
          front_alone (by decide) rfl (fun _ => rfl) (by decide) _
        rw [powersAsCarets]
        exact (lexed_sign_iff (by decide) (by decide) alone).mpr ⟨_, rfl, induction⟩
      · obtain ⟨foundPowers, taken, dropped⟩ := front_powers_as_carets power found
        rw [powers_as_carets_cons power, ← taken]
        rw [← dropped] at induction
        exact .lexeme noGap noNewline foundPowers induction

theorem ln_as_log_cons {inside : Bool} {character : Char} {rest : List Char}
    (kept : inside = true ∨ behindLn? (character :: rest) = none) :
    lnAsLog inside (character :: rest) = character :: lnAsLog (isWordCharacter character) rest := by
  rw [lnAsLog]
  split
  · rfl
  · rename_i outside
    have none := kept.resolve_left outside
    split
    · rename_i behind found
      rw [found] at none
      simp at none
    · rfl

theorem no_ln_without_l {character : Char} (noL : 'l' ≠ character) (rest : List Char) :
    behindLn? (character :: rest) = none := by
  unfold behindLn?
  split
  · rename_i shape
    rw [List.cons.injEq] at shape
    exact absurd shape.1.symm noL
  · rfl

theorem ln_as_log_append {first : List Char} (noL : 'l' ∉ first) (inside : Bool)
    (rest : List Char) :
    ∃ after, lnAsLog inside (first ++ rest) = first ++ lnAsLog after rest := by
  induction first generalizing inside with
  | nil => exact ⟨inside, rfl⟩
  | cons character others induction =>
      rw [List.mem_cons, not_or] at noL
      obtain ⟨after, same⟩ := induction noL.2 (isWordCharacter character)
      refine ⟨after, ?_⟩
      rw [List.cons_append, ln_as_log_cons (.inr (no_ln_without_l noL.1 _)), same, List.cons_append]

theorem ln_as_log_word {word : List Char} (isWord : ∀ part ∈ word, isWordCharacter part = true)
    (rest : List Char) : lnAsLog true (word ++ rest) = word ++ lnAsLog true rest := by
  induction word with
  | nil => rfl
  | cons character others induction =>
      rw [List.forall_mem_cons] at isWord
      rw [List.cons_append, ln_as_log_cons (.inl rfl), isWord.1, induction isWord.2,
        List.cons_append]

/-- Where a call of `ln` starts, the word is `ln`. -/
theorem word_of_ln {character : Char} {rest behind : List Char}
    (found : behindLn? (character :: rest) = some behind) :
    character :: rest.takeWhile isWordCharacter = ['l', 'n'] := by
  unfold behindLn? at found
  split at found
  · rename_i others shape
    rw [List.cons.injEq] at shape
    obtain ⟨rfl, rfl⟩ := shape
    have noWord : Leads (fun next => !isWordCharacter next) others := by
      cases others with
      | nil => trivial
      | cons next tail =>
          show (!isWordCharacter next) = true
          cases blank : isBlank next with
          | true => rw [blank_not_word blank]; rfl
          | false =>
              rw [List.dropWhile_cons_of_neg (by simp [blank])] at found
              split at found
              · rename_i shape
                rw [List.cons.injEq] at shape
                rw [shape.1]
                decide
              · simp at found
    have stopped := take_while_append ['n'] noWord
    rw [List.singleton_append] at stopped
    rw [stopped]
    rfl
  · simp at found

theorem no_l_in_lexeme {character : Char} {rest : List Char} {kind : TokenKind} {more : Nat}
    (found : front character rest = .lexeme kind more) (noName : kind ≠ .identifier) :
    'l' ∉ character :: rest.take more := by
  rcases front_cases found with ⟨rfl, starts, rfl⟩ | ⟨rfl, starts, rfl⟩ |
    ⟨next, tail, rfl, pair, rfl⟩ | ⟨single, rfl⟩
  · intro member
    exact absurd (numeric_lexeme starts 'l' member) (by decide)
  · exact absurd rfl noName
  · unfold TokenKind.ofPair? at pair
    split at pair
    case h_6 => simp at pair
    all_goals simp
  · unfold TokenKind.ofCharacter? at single
    split at single
    case h_20 => simp at single
    all_goals simp

/-- Without a lexeme `ln` there is nothing to replace. -/
theorem ln_as_log_of_lexed {depth : Nat} {characters : List Char} {senses : List Sense}
    (lexed : Lexed depth characters senses) (noLn : (.identifier, "ln") ∉ senses) (inside : Bool) :
    lnAsLog inside characters = characters := by
  have single : ∀ {character : Char} {rest : List Char} (inside : Bool), 'l' ≠ character →
      (∀ inside, lnAsLog inside rest = rest) →
      lnAsLog inside (character :: rest) = character :: rest := by
    intro character rest inside noL same
    rw [ln_as_log_cons (.inr (no_ln_without_l noL rest)), same]
  induction lexed generalizing inside with
  | nothing => rw [lnAsLog]
  | @gap depth character rest senses blank lexed induction =>
      have noL : 'l' ≠ character := by
        rintro rfl
        exact absurd blank (by decide)
      exact single inside noL (induction noLn)
  | folded deep lexed induction => exact single inside (by decide) (induction noLn)
  | newline lexed induction =>
      rw [List.mem_cons, not_or] at noLn
      exact single inside (by decide) (induction noLn.2)
  | @lexeme depth character rest kind more senses noGap noNewline found lexed induction =>
      rw [List.mem_cons, not_or] at noLn
      have whole : character :: rest = (character :: rest.take more) ++ rest.drop more := by simp
      by_cases isName : kind = .identifier
      · subst isName
        have starts : startsName character = true ∧
            more = (rest.takeWhile isWordCharacter).length := by
          rcases front_cases found with ⟨other, _⟩ | ⟨_, starts, size⟩ | ⟨_, _, _, pair, _⟩ |
            ⟨single, _⟩
          · simp at other
          · exact ⟨starts, size⟩
          · exact absurd pair (by unfold TokenKind.ofPair?; split <;> simp)
          · exact absurd single (by unfold TokenKind.ofCharacter?; split <;> simp)
        have word : rest.take more = rest.takeWhile isWordCharacter := by
          rw [starts.2, take_while_length]
        have noCall : behindLn? (character :: rest) = none := by
          cases call : behindLn? (character :: rest) with
          | none => rfl
          | some behind =>
              have spelled := word_of_ln call
              rw [← word] at spelled
              rw [spelled] at noLn
              exact absurd rfl noLn.1
        have parted : rest = rest.take more ++ rest.drop more := by simp
        have isWord : ∀ part ∈ rest.take more, isWordCharacter part = true := by
          rw [word]
          exact List.all_eq_true.mp List.all_takeWhile
        rw [ln_as_log_cons (.inr noCall), word_of_name starts.1, parted, ln_as_log_word isWord,
          induction noLn.2]
      · obtain ⟨after, same⟩ := ln_as_log_append (no_l_in_lexeme found isName) inside
          (rest.drop more)
        rw [whole, same, induction noLn.2]

theorem split_without_equals {characters : List Char} (noEquals : '=' ∉ characters) :
    splitAtEquals characters = [characters] := by
  induction characters with
  | nil => rfl
  | cons character rest induction =>
      rw [List.mem_cons, not_or] at noEquals
      rw [splitAtEquals, if_neg (Ne.symm noEquals.1), induction noEquals.2]

theorem split_at_equals {first second : List Char} (noEquals : '=' ∉ first)
    (noOthers : '=' ∉ second) : splitAtEquals (first ++ '=' :: second) = [first, second] := by
  induction first with
  | nil => rw [List.nil_append, splitAtEquals, if_pos rfl, split_without_equals noOthers]
  | cons character rest induction =>
      rw [List.mem_cons, not_or] at noEquals
      rw [List.cons_append, splitAtEquals, if_neg (Ne.symm noEquals.1), induction noEquals.2]

/-- A side of an equation in its normal form. -/
def side (text : String) : List Char := strip (powersAsCarets text.toList)

theorem lexed_side {depth : Nat} {text : String} {senses : List Sense}
    (lexed : Lexed depth text.toList senses) (oneLine : '\n' ∉ text.toList) :
    Lexed depth (side text) senses := by
  apply (lexed_powers_as_carets lexed).strip
  intro member
  rcases mem_powers_as_carets member with inside | caret
  · exact oneLine inside
  · exact absurd caret (by decide)

theorem powers_of_blanks {blanks : List Char} (blank : Blank blanks) :
    powersAsCarets blanks = blanks := by
  have noStar : '*' ∉ blanks := fun member => absurd (blank '*' member) (by decide)
  have same := powers_as_carets_append noStar []
  rwa [List.append_nil, powersAsCarets, List.append_nil] at same

theorem strip_powers_behind {blanks : List Char} (blank : Blank blanks) (characters : List Char) :
    strip (powersAsCarets (blanks ++ characters)) = strip (powersAsCarets characters) := by
  have noStar : '*' ∉ blanks := fun member => absurd (blank '*' member) (by decide)
  rw [powers_as_carets_append noStar, strip_blanks_append blank]

theorem strip_powers_before (characters : List Char) {blanks : List Char} (blank : Blank blanks) :
    strip (powersAsCarets (characters ++ blanks)) = strip (powersAsCarets characters) := by
  cases blanks with
  | nil => rw [List.append_nil]
  | cons next rest =>
      obtain ⟨nextBlank, restBlank⟩ := List.forall_mem_cons.mp blank
      have noStar : next ≠ '*' := by
        rintro rfl
        exact absurd nextBlank (by decide)
      rw [powers_as_carets_around noStar, powers_of_blanks restBlank, strip_append_blanks _ blank]

theorem take_while_blank (characters : List Char) : Blank (characters.takeWhile isBlank) :=
  List.all_eq_true.mp List.all_takeWhile

/-- White space at the left end is dropped before or after powers are rewritten. -/
theorem strip_powers_drop (characters : List Char) :
    strip (powersAsCarets (characters.dropWhile isBlank)) =
      strip (powersAsCarets characters) := by
  have same := strip_powers_behind (take_while_blank characters) (characters.dropWhile isBlank)
  rwa [List.takeWhile_append_dropWhile, eq_comm] at same

theorem strip_powers_trim (characters : List Char) :
    strip (powersAsCarets (characters.reverse.dropWhile isBlank).reverse) =
      strip (powersAsCarets characters) := by
  have blank : Blank (characters.reverse.takeWhile isBlank).reverse := by
    intro character member
    exact take_while_blank _ character (List.mem_reverse.mp member)
  have same := strip_powers_before (characters.reverse.dropWhile isBlank).reverse blank
  rwa [← List.reverse_append, List.takeWhile_append_dropWhile, List.reverse_reverse, eq_comm]
    at same

theorem equation_characters (left right : String) :
    (left ++ " = " ++ right).toList =
      (left.toList ++ [' ']) ++ '=' :: (' ' :: right.toList) := by
  simp [String.toList_append]

theorem lexed_assign_iff (depth : Nat) (rest : List Char) (senses : List Sense) :
    Lexed depth ('=' :: ' ' :: rest) senses ↔
      ∃ others, senses = (.assign, "=") :: others ∧ Lexed depth rest others := by
  have noNumber : startsNumber ('=' :: ' ' :: rest) = false := by
    rw [startsNumber, starts_with_fraction_cons]
    rfl
  have alone : front '=' (' ' :: rest) = .lexeme .assign 0 := by
    rw [front, noNumber]
    rfl
  rw [lexed_sign_iff (by decide) (by decide) alone]
  exact exists_congr fun others => and_congr_right fun _ => lexed_blank_iff depth rest others

theorem lexed_equation {left right : String} {first second : List Sense}
    (lexedLeft : Lexed 0 left.toList first)
    (lexedRight : ∀ depth, Lexed depth right.toList second) :
    Lexed 0 (left ++ " = " ++ right).toList (first ++ (.assign, "=") :: second) := by
  rw [equation_characters, List.append_assoc]
  refine lexedLeft.append (show separates ' ' = true by decide) ?_
  rw [List.singleton_append, lexed_blank_iff, lexed_assign_iff]
  exact ⟨second, rfl, lexedRight _⟩

/-- The parts of an equation between two lines, `ln` in neither of them. -/
theorem parts_of_equation {left right : String} {first second : List Sense}
    (oneLine : '\n' ∉ left.toList ∧ '\n' ∉ right.toList)
    (noEquals : '=' ∉ left.toList ∧ '=' ∉ right.toList)
    (lexedLeft : Lexed 0 left.toList first)
    (lexedRight : ∀ depth, Lexed depth right.toList second)
    (noLn : (.identifier, "ln") ∉ first ∧ (.identifier, "ln") ∉ second) :
    ∃ start rest, splitAtEquals (normalize (left ++ " = " ++ right)).toList = [start, rest] ∧
      strip start = side left ∧ strip rest = side right := by
  have lexed := lexed_equation lexedLeft lexedRight
  have oneLineWhole : '\n' ∉ (left ++ " = " ++ right).toList := by
    rw [equation_characters]
    simp [oneLine.1, oneLine.2]
  have noLnWhole : (.identifier, "ln") ∉ first ++ (.assign, "=") :: second := by
    simp [noLn.1, noLn.2]
  have powers := lexed_powers_as_carets (lexed.strip oneLineWhole)
  have normal := ln_as_log_of_lexed powers noLnWhole false
  rw [equation_characters] at normal
  rw [strip_around (by decide), powers_as_carets_around (by decide)] at normal
  unfold normalize
  rw [equation_characters, strip_around (by decide), powers_as_carets_around (by decide), normal,
    String.toList_ofList]
  have kept : ∀ {characters : List Char}, '=' ∉ characters → '=' ∉ powersAsCarets characters := by
    intro characters none member
    rcases mem_powers_as_carets member with inside | caret
    · exact none inside
    · exact absurd caret (by decide)
  have space : Blank [' '] := by
    intro character member
    rw [List.mem_singleton.mp member]
    decide
  refine ⟨_, _, split_at_equals (kept ?_) (kept ?_), ?_, ?_⟩
  · intro member
    have inside := (List.dropWhile_suffix isBlank).subset member
    simp [noEquals.1] at inside
  · intro member
    have inside := (List.dropWhile_suffix isBlank).subset (List.mem_reverse.mp member)
    simp [noEquals.2] at inside
  · rw [strip_powers_drop, strip_powers_before _ space]
    rfl
  · rw [strip_powers_trim]
    exact strip_powers_behind space right.toList

end FormulaPlot.Equation
