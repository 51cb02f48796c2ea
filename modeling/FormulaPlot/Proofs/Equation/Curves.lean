import FormulaPlot.Equation.Preparation
import FormulaPlot.Proofs.Equation.Respelling

/-!
Explicit curves. A right-hand side is prepared in the same way by itself, behind `y =` and before
`= y`: its normal form does not depend on what stands around it.
-/

namespace FormulaPlot.Equation

open FormulaPlot.Text

set_option autoImplicit false

/-! The ends of a text in its normal form -/

theorem last_powers_as_carets (characters : List Char) :
    (powersAsCarets characters).getLast? = characters.getLast? ∨
      (powersAsCarets characters).getLast? = some '^' := by
  induction characters using powersAsCarets.induct with
  | case1 rest induction =>
      rw [powersAsCarets, List.getLast?_cons, List.getLast?_cons, List.getLast?_cons]
      rcases induction with same | caret
      · rw [same]
        cases rest.getLast? with
        | none => exact .inr rfl
        | some last => exact .inl rfl
      · rw [caret]
        exact .inr rfl
  | case2 next rest single induction =>
      rw [powersAsCarets, List.getLast?_cons, List.getLast?_cons]
      · exact induction.imp (fun same => by rw [same]) (fun caret => by rw [caret]; rfl)
      · exact single
  | case3 => exact .inl rfl

theorem call_of_behind_ln {characters behind : List Char}
    (found : behindLn? characters = some behind) :
    ∃ blanks, Blank blanks ∧ characters = ['l', 'n'] ++ (blanks ++ '(' :: behind) := by
  unfold behindLn? at found
  split at found
  · next rest =>
      split at found
      · next shape =>
          injection found with same
          refine ⟨rest.takeWhile isBlank, take_while_blank rest, ?_⟩
          rw [← same, ← shape, List.takeWhile_append_dropWhile]
          rfl
      · contradiction
  · contradiction

theorem head_ln_as_log (inside : Bool) (characters : List Char) :
    (lnAsLog inside characters).head? = characters.head? := by
  fun_cases lnAsLog inside characters with
  | case1 => rfl
  | case2 character rest => rfl
  | case3 _ character rest behind found =>
      rw [(List.cons.inj (word_of_ln found)).1]
      rfl
  | case4 _ character rest => rfl

theorem last_ln_as_log (inside : Bool) (characters : List Char) :
    (lnAsLog inside characters).getLast? = characters.getLast? := by
  fun_induction lnAsLog inside characters with
  | case1 => rfl
  | case2 character rest induction => rw [List.getLast?_cons, List.getLast?_cons, induction]
  | case3 _ character rest _ behind found induction =>
      rcases call_of_behind_ln found with ⟨blanks, _, shape⟩
      rw [shape, List.getLast?_append, List.getLast?_append, List.getLast?_append,
        List.getLast?_cons, induction]
      cases behind.getLast? <;> rfl
  | case4 _ character rest _ _ induction =>
      rw [List.getLast?_cons, List.getLast?_cons, induction]

theorem mem_ln_as_log {character : Char} {inside : Bool} {characters : List Char}
    (member : character ∈ lnAsLog inside characters) :
    character ∈ characters ∨ character ∈ logCall := by
  have kept : ∀ {first : Char} {others rest : List Char},
      (character ∈ others → character ∈ rest ∨ character ∈ logCall) →
      character ∈ first :: others → character ∈ first :: rest ∨ character ∈ logCall := by
    intro first others rest induction member
    rcases List.mem_cons.mp member with rfl | behind
    · exact .inl List.mem_cons_self
    · exact (induction behind).imp_left (List.mem_cons_of_mem _)
  fun_induction lnAsLog inside characters with
  | case1 => exact .inl member
  | case2 first rest induction => exact kept induction member
  | case3 _ first rest _ behind found induction =>
      rcases call_of_behind_ln found with ⟨blanks, _, shape⟩
      rcases List.mem_append.mp member with call | further
      · exact .inr call
      · rw [shape]
        exact (induction further).imp_left fun inside => by simp [inside]
  | case4 _ first rest _ _ induction => exact kept induction member

theorem solid_normal {core : List Char} (solid : Solid core) :
    Solid (lnAsLog false (powersAsCarets core)) := by
  have caret : isBlank '^' = false := by decide
  constructor
  · rw [head_ln_as_log]
    rcases head_powers_as_carets core with same | isCaret
    · rw [same]
      exact solid.first
    · exact ⟨'^', isCaret, caret⟩
  · rw [last_ln_as_log]
    rcases last_powers_as_carets core with same | isCaret
    · rw [same]
      exact solid.last
    · exact ⟨'^', isCaret, caret⟩

/-! What stands around a text -/

section Before

variable {blank : Char} {rest : List Char} (isBlank : Text.isBlank blank = true)
  (closed : (rest.dropWhile Text.isBlank).head? ≠ some '(')

include isBlank closed

/-- White space behind a text that no parenthesis follows neither opens nor ends a call. -/
theorem behind_ln_before (characters : List Char) :
    behindLn? (characters ++ blank :: rest) =
      (behindLn? characters).map (· ++ blank :: rest) := by
  have other : ∀ letter, Text.isBlank letter = false → letter ≠ blank := by
    rintro letter stays rfl
    rw [isBlank] at stays
    contradiction
  cases characters with
  | nil => exact no_ln_without_l (other 'l' (by decide)) rest
  | cons first more =>
      by_cases isL : first = 'l'
      · subst isL
        cases more with
        | nil => exact no_ln_without_n (other 'n' (by decide)).symm rest
        | cons second more =>
            by_cases isN : second = 'n'
            · subst isN
              have dropped := @List.dropWhile_append _ Text.isBlank more (blank :: rest)
              show behindLn? ('l' :: 'n' :: (more ++ blank :: rest)) = _
              cases shape : more.dropWhile Text.isBlank with
              | nil =>
                  rw [shape, List.dropWhile_cons_of_pos isBlank] at dropped
                  have none : behindLn? ('l' :: 'n' :: more) = none :=
                    behind_ln_eq_none (by simp [shape])
                  rw [none]
                  exact behind_ln_eq_none (by rw [dropped]; exact closed)
              | cons next tail =>
                  rw [shape] at dropped
                  by_cases opens : next = '('
                  · rw [opens] at shape dropped
                    rw [behind_ln_of_parenthesis shape]
                    exact behind_ln_of_parenthesis dropped
                  · have none : behindLn? ('l' :: 'n' :: more) = none :=
                      behind_ln_eq_none (by simp [shape, opens])
                    rw [none]
                    exact behind_ln_eq_none (by simp [dropped, opens])
            · rw [no_ln_without_n isN]
              exact no_ln_without_n isN _
      · rw [no_ln_without_l (Ne.symm isL)]
        exact no_ln_without_l (Ne.symm isL) _

theorem ln_as_log_before (noL : 'l' ∉ rest) (inside : Bool) (characters : List Char) :
    lnAsLog inside (characters ++ blank :: rest) = lnAsLog inside characters ++ blank :: rest := by
  have before := behind_ln_before isBlank closed
  fun_induction lnAsLog inside characters with
  | case1 inside =>
      have other : 'l' ∉ blank :: rest := by
        rw [List.mem_cons, not_or]
        refine ⟨?_, noL⟩
        rintro rfl
        exact absurd isBlank (by decide)
      rcases ln_as_log_append other inside [] with ⟨after, same⟩
      rw [List.append_nil, lnAsLog, List.append_nil] at same
      exact same
  | case2 character others induction =>
      rw [List.cons_append, ln_as_log_cons (.inl rfl), induction]
      rfl
  | case3 _ character others outside behind found induction =>
      have again : behindLn? (character :: (others ++ blank :: rest)) = _ :=
        before (character :: others)
      rw [found] at again
      rw [Bool.eq_false_iff.mpr outside, List.cons_append, ln_as_log_found again, induction,
        List.append_assoc]
  | case4 _ character others outside found induction =>
      have again : behindLn? (character :: (others ++ blank :: rest)) = _ :=
        before (character :: others)
      rw [found] at again
      rw [List.cons_append, ln_as_log_cons (.inr again), induction]
      rfl

end Before

theorem ln_as_log_blanks {blanks : List Char} (blank : Blank blanks) (characters : List Char) :
    lnAsLog false (blanks ++ characters) = blanks ++ lnAsLog false characters := by
  induction blanks with
  | nil => rfl
  | cons character rest induction =>
      have ⟨first, others⟩ := List.forall_mem_cons.mp blank
      have noL : 'l' ≠ character := by
        rintro rfl
        exact absurd first (by decide)
      rw [List.cons_append, ln_as_log_cons (.inr (no_ln_without_l noL _)), blank_not_word first,
        induction others, List.cons_append]

/-! Words in a text and in its normal form -/

section Words

variable {letter : Char}

theorem letter_word_of_neighbour {before other : Option Char}
    (same : before.any isWordCharacter = other.any isWordCharacter) (characters : List Char) :
    hasLetterWord letter before characters = hasLetterWord letter other characters := by
  cases characters with
  | nil => rfl
  | cons character rest => simp only [hasLetterWord, isWordBoundary, same]

/-- No word of a letter starts in front of another character that is not the letter. -/
theorem letter_word_behind {first : List Char} (others : letter ∉ first) {character : Char}
    (other : letter ≠ character) (before : Option Char) (rest : List Char) :
    hasLetterWord letter before (first ++ character :: rest) =
      hasLetterWord letter (some character) rest := by
  induction first generalizing before with
  | nil =>
      rw [List.nil_append, hasLetterWord, beq_false_of_ne (Ne.symm other), Bool.false_and,
        Bool.false_and, Bool.false_or]
  | cons next more induction =>
      rw [List.mem_cons, not_or] at others
      rw [List.cons_append, hasLetterWord, beq_false_of_ne (Ne.symm others.1), Bool.false_and,
        Bool.false_and, Bool.false_or, induction others.2]

theorem head_word_powers (characters : List Char) :
    (powersAsCarets characters).head?.any isWordCharacter =
      characters.head?.any isWordCharacter := by
  cases characters using powersAsCarets.fun_cases with
  | case1 rest =>
      have star : isWordCharacter '*' = false := by decide
      have caret : isWordCharacter '^' = false := by decide
      rw [powersAsCarets, List.head?_cons, List.head?_cons, Option.any_some, Option.any_some, star,
        caret]
  | case2 next rest single =>
      rw [powersAsCarets]
      · rfl
      · exact single
  | case3 => rfl

/-- Behind a character, only the neighbours of the letter count. -/
theorem letter_word_cons {character : Char} {rest others : List Char} {before : Option Char}
    (head : rest.head?.any isWordCharacter = others.head?.any isWordCharacter)
    (behind : hasLetterWord letter (some character) rest =
      hasLetterWord letter (some character) others) :
    hasLetterWord letter before (character :: rest) =
      hasLetterWord letter before (character :: others) := by
  simp only [hasLetterWord, isWordBoundary, head, behind]

theorem letter_word_powers (noCaret : letter ≠ '^') (noStar : letter ≠ '*')
    (before : Option Char) (characters : List Char) :
    hasLetterWord letter before (powersAsCarets characters) =
      hasLetterWord letter before characters := by
  induction characters using powersAsCarets.induct generalizing before with
  | case1 rest induction =>
      have skipPower := letter_word_behind (List.not_mem_nil (a := letter)) noCaret before
      have skipStars := @letter_word_behind letter ['*'] (by simpa using noStar) '*' noStar before
        rest
      have same : hasLetterWord letter (some '^') rest = hasLetterWord letter (some '*') rest :=
        letter_word_of_neighbour (by decide) rest
      rw [powersAsCarets, ← List.nil_append ('^' :: _), skipPower, induction, same]
      exact skipStars.symm
  | case2 next rest single induction =>
      rw [powersAsCarets]
      · exact letter_word_cons (head_word_powers rest) (induction (some next))
      · exact single
  | case3 => rfl

theorem letter_word_ln_as_log (other : letter ∉ ['l', 'n', 'o', 'g', '('])
    (solid : isBlank letter = false) (inside : Bool) (before : Option Char)
    (characters : List Char) :
    hasLetterWord letter before (lnAsLog inside characters) =
      hasLetterWord letter before characters := by
  have kept : ∀ (character : Char) (rest : List Char) (before : Option Char),
      (∀ before, hasLetterWord letter before (lnAsLog (isWordCharacter character) rest) =
        hasLetterWord letter before rest) →
      hasLetterWord letter before (character :: lnAsLog (isWordCharacter character) rest) =
        hasLetterWord letter before (character :: rest) := by
    intro character rest before induction
    exact letter_word_cons (by rw [head_ln_as_log]) (induction (some character))
  fun_induction lnAsLog inside characters generalizing before with
  | case1 => rfl
  | case2 character rest induction => exact kept character rest before induction
  | case3 _ character rest _ behind found induction =>
      rcases call_of_behind_ln found with ⟨blanks, blank, shape⟩
      simp only [List.mem_cons, List.not_mem_nil, or_false, not_or] at other
      have noBlank : letter ∉ blanks := by
        intro member
        rw [blank letter member] at solid
        contradiction
      rw [shape, ← List.append_assoc]
      have skipCall := @letter_word_behind letter ['l', 'o', 'g'] (by simp [other]) '('
        other.2.2.2.2 before (lnAsLog false behind)
      have skipName := @letter_word_behind letter (['l', 'n'] ++ blanks)
        (by simp [other, noBlank]) '(' other.2.2.2.2 before behind
      rw [skipName, ← induction (some '(')]
      exact skipCall
  | case4 _ character rest _ _ induction => exact kept character rest before induction

theorem letter_word_behind_blanks (solid : isBlank letter = false) {blanks : List Char}
    (blank : Blank blanks) {before : Option Char} (outside : before.any isWordCharacter = false)
    (characters : List Char) :
    hasLetterWord letter before (blanks ++ characters) =
      hasLetterWord letter none characters := by
  induction blanks generalizing before with
  | nil => exact letter_word_of_neighbour outside characters
  | cons character rest induction =>
      have ⟨first, others⟩ := List.forall_mem_cons.mp blank
      have other : letter ≠ character := by
        rintro rfl
        rw [first] at solid
        contradiction
      have skip := letter_word_behind (List.not_mem_nil (a := letter)) other before
        (rest ++ characters)
      rw [List.cons_append, ← List.nil_append (character :: _), skip]
      exact induction others (blank_not_word first)

theorem no_letter_word {characters : List Char} (absent : letter ∉ characters)
    (before : Option Char) : hasLetterWord letter before characters = false := by
  induction characters generalizing before with
  | nil => rfl
  | cons character rest induction =>
      rw [List.mem_cons, not_or] at absent
      rw [hasLetterWord, beq_false_of_ne (Ne.symm absent.1), induction absent.2]
      rfl

theorem letter_word_before_blanks (solid : isBlank letter = false) {blanks : List Char}
    (blank : Blank blanks) (before : Option Char) (characters : List Char) :
    hasLetterWord letter before (characters ++ blanks) =
      hasLetterWord letter before characters := by
  induction characters generalizing before with
  | nil =>
      apply no_letter_word
      intro member
      rw [blank letter member] at solid
      contradiction
  | cons character rest induction =>
      apply letter_word_cons _ (induction (some character))
      cases rest with
      | nil =>
          cases blanks with
          | nil => rfl
          | cons next more => exact blank_not_word (blank next List.mem_cons_self)
      | cons next more => rfl

end Words

/-- A solid text in its normal form. -/
def normal (core : List Char) : List Char := lnAsLog false (powersAsCarets core)

theorem mentions_y_normal {before core behind : List Char} (blankBefore : Blank before)
    (blankBehind : Blank behind) :
    mentionsY (normal core) = mentionsY (before ++ (core ++ behind)) := by
  have solid : isBlank 'y' = false := by decide
  rw [mentionsY, mentionsY, normal, letter_word_ln_as_log (by decide) solid,
    letter_word_powers (by decide) (by decide), letter_word_behind_blanks solid blankBefore rfl,
    letter_word_before_blanks solid blankBehind]

theorem equals_not_in_normal {core : List Char} (noEquals : '=' ∉ core) : '=' ∉ normal core := by
  intro member
  rcases mem_ln_as_log member with inside | call
  · rcases mem_powers_as_carets inside with same | caret
    · exact noEquals same
    · exact absurd caret (by decide)
  · exact absurd call (by decide)

theorem normal_before_equals {blanks : List Char} (blank : Blank blanks) (present : blanks ≠ [])
    (core : List Char) :
    normal (core ++ (blanks ++ ['=', ' ', 'y'])) = normal core ++ (blanks ++ ['=', ' ', 'y']) := by
  cases blanks with
  | nil => contradiction
  | cons first others =>
      have ⟨firstBlank, otherBlanks⟩ := List.forall_mem_cons.mp blank
      have stays : ∀ sign, isBlank sign = false → sign ∉ first :: others :=
        fun sign solid member => absurd (solid.symm.trans (blank sign member)) Bool.false_ne_true
      have noStar : '*' ∉ others ++ ['=', ' ', 'y'] := by
        simp [List.not_mem_of_not_mem_cons (stays '*' (by decide))]
      have noL : 'l' ∉ others ++ ['=', ' ', 'y'] := by
        simp [List.not_mem_of_not_mem_cons (stays 'l' (by decide))]
      have closed : ((others ++ ['=', ' ', 'y']).dropWhile isBlank).head? ≠ some '(' := by
        rw [List.dropWhile_append_of_pos otherBlanks]
        decide
      have kept := powers_as_carets_append noStar []
      rw [List.append_nil, powersAsCarets, List.append_nil] at kept
      rw [normal, normal, List.cons_append, powers_as_carets_around _ core, kept,
        ln_as_log_before firstBlank closed noL]
      rintro rfl
      exact stays '*' (by decide) List.mem_cons_self

section Normal

variable {before core behind : List Char} (blankBefore : Blank before)
  (blankBehind : Blank behind) (solid : Solid core)

include blankBefore blankBehind solid

theorem normalize_alone {raw : String} (shape : raw.toList = before ++ (core ++ behind)) :
    normalize raw = String.ofList (normal core) := by
  rw [normalize, shape, strip_blanks_append blankBefore, strip_append_blanks _ blankBehind,
    solid.strip, normal]

theorem normalize_behind_y {raw : String} (shape : raw.toList = before ++ (core ++ behind)) :
    normalize ("y = " ++ raw) =
      String.ofList (['y', ' '] ++ '=' :: (' ' :: before ++ normal core)) := by
  have around : Solid (['y', ' ', '='] ++ (' ' :: before ++ core)) := by
    rcases solid.last with ⟨last, ends, stays⟩
    refine ⟨⟨'y', rfl, by decide⟩, ⟨last, ?_, stays⟩⟩
    rw [List.getLast?_append, List.getLast?_append, ends]
    rfl
  have stripped : strip (("y = " ++ raw).toList) = ['y', ' ', '='] ++ (' ' :: before ++ core) := by
    rw [String.toList_append, shape, ← List.append_assoc before, ← List.append_assoc,
      strip_append_blanks _ blankBehind]
    exact around.strip
  have blanks : Blank (' ' :: before) := List.forall_mem_cons.mpr ⟨by decide, blankBefore⟩
  have noStar : '*' ∉ ' ' :: before := fun member => absurd (blanks '*' member) (by decide)
  have powers : powersAsCarets (['y', ' ', '='] ++ (' ' :: before ++ core)) =
      ['y', ' ', '='] ++ (' ' :: before ++ powersAsCarets core) := by
    rw [powers_as_carets_append (by decide), powers_as_carets_append noStar]
  rcases @ln_as_log_append ['y', ' ', '='] (by decide) false
    (' ' :: before ++ powersAsCarets core) with ⟨after, calls⟩
  have onward : lnAsLog after (' ' :: before ++ powersAsCarets core) =
      ' ' :: before ++ normal core := by
    have noWord : isWordCharacter ' ' = false := by decide
    rw [List.cons_append, ln_as_log_cons (.inr (no_ln_without_l (by decide) _)), noWord,
      ln_as_log_blanks blankBefore]
    rfl
  rw [normalize, stripped, powers, calls, onward]
  rfl

theorem normalize_before_y {raw : String} (shape : raw.toList = before ++ (core ++ behind)) :
    normalize (raw ++ " = y") =
      String.ofList ((normal core ++ (behind ++ [' '])) ++ '=' :: [' ', 'y']) := by
  have around : Solid (core ++ (behind ++ [' ', '=', ' ', 'y'])) := by
    rcases solid.first with ⟨first, starts, stays⟩
    refine ⟨⟨first, ?_, stays⟩, ⟨'y', ?_, by decide⟩⟩
    · rw [List.head?_append, starts]
      rfl
    · rw [List.getLast?_append, List.getLast?_append]
      rfl
  have stripped : strip ((raw ++ " = y").toList) = core ++ (behind ++ [' ', '=', ' ', 'y']) := by
    rw [String.toList_append, shape, List.append_assoc, strip_blanks_append blankBefore,
      List.append_assoc]
    exact around.strip
  have blanks : Blank (behind ++ [' ']) :=
    List.forall_mem_append.mpr ⟨blankBehind, List.forall_mem_singleton.mpr (by decide)⟩
  have whole := normal_before_equals blanks (by simp) core
  rw [List.append_assoc] at whole
  rw [normalize, stripped, List.append_assoc, List.append_assoc]
  exact congrArg String.ofList whole

end Normal

theorem prepare_of_sides {raw : String} {left right : List Char}
    (normalized : normalize raw = String.ofList (left ++ '=' :: right)) (noEquals : '=' ∉ left)
    (noOthers : '=' ∉ right) :
    prepare raw =
      prepareSides (String.ofList (left ++ '=' :: right)) (strip left) (strip right) := by
  rw [prepare_def]
  rw [normalized]
  rw [String.toList_ofList, split_at_equals noEquals noOthers, if_neg (by simp)]

theorem prepare_sides_behind_y (text : String) {right : List Char} (present : right ≠ [])
    (noY : mentionsY right = false) :
    prepareSides text ['y'] right = prepareExplicit (String.ofList right) := by
  rw [prepare_sides_def, if_neg (by simp [present]), if_pos (by simp [noY])]

theorem prepare_sides_before_y (text : String) {left : List Char} (present : left ≠ [])
    (noY : mentionsY left = false) :
    prepareSides text left ['y'] = prepareExplicit (String.ofList left) := by
  have itself : mentionsY ['y'] = true := by decide
  rw [prepare_sides_def, if_neg (by simp [present]), if_neg (by simp [itself]), if_pos (by simp [noY])]

/-- A curve can be written with `y` on the left, with `y` on the right, and without it. -/
theorem curve_spellings_agree {text : String} (notBlank : ¬Blank text.toList)
    (noEquals : '=' ∉ text.toList) (noY : mentionsY text.toList = false) :
    prepare ("y = " ++ text) = prepare text ∧ prepare (text ++ " = y") = prepare text := by
  rcases solid_within notBlank with ⟨before, core, behind, blankBefore, blankBehind, solid, shape⟩
  have isSolid : Solid (normal core) := solid_normal solid
  have present : normal core ≠ [] := by
    intro empty
    rcases isSolid.first with ⟨first, starts, _⟩
    rw [empty] at starts
    contradiction
  have noEqualsInside : '=' ∉ normal core := by
    apply equals_not_in_normal
    intro member
    rw [shape] at noEquals
    simp [member] at noEquals
  have noYInside : mentionsY (normal core) = false := by
    rw [mentions_y_normal blankBefore blankBehind, ← shape]
    exact noY
  have alone : prepare text = prepareExplicit (String.ofList (normal core)) := by
    rw [prepare_def]
    rw [normalize_alone blankBefore blankBehind solid shape]
    simp [present, split_without_equals noEqualsInside]
  have blanksBefore : Blank (' ' :: before) := List.forall_mem_cons.mpr ⟨by decide, blankBefore⟩
  have blanksBehind : Blank (behind ++ [' ']) :=
    List.forall_mem_append.mpr ⟨blankBehind, List.forall_mem_singleton.mpr (by decide)⟩
  have noEqualsBlank : ∀ {blanks : List Char}, Blank blanks → '=' ∉ blanks :=
    fun blank member => absurd (blank '=' member) (by decide)
  rw [alone]
  constructor
  · have normalized := normalize_behind_y blankBefore blankBehind solid shape
    have lone : strip ['y', ' '] = ['y'] := by decide
    rw [prepare_of_sides normalized (by decide)
      (by simp [noEqualsBlank blankBefore, noEqualsInside]), lone,
      strip_blanks_append blanksBefore, isSolid.strip]
    exact prepare_sides_behind_y _ present noYInside
  · have normalized := normalize_before_y blankBefore blankBehind solid shape
    have lone : strip [' ', 'y'] = ['y'] := by decide
    rw [prepare_of_sides normalized (by simp [noEqualsBlank blankBehind, noEqualsInside])
      (by decide), lone, strip_append_blanks _ blanksBehind, isSolid.strip]
    exact prepare_sides_before_y _ present noYInside

/-- Stars, a logarithm and white space at the ends of a text. -/
theorem bordered_curve_agrees :
    ¬Blank "\t2**x ln ".toList ∧ '=' ∉ "\t2**x ln ".toList ∧
      mentionsY "\t2**x ln ".toList = false ∧
      prepare ("y = " ++ "\t2**x ln ") = prepare "\t2**x ln " ∧
      prepare ("\t2**x ln " ++ " = y") = prepare "\t2**x ln " := by
  have notBlank : ¬Blank "\t2**x ln ".toList := by
    intro blank
    exact absurd (blank '2' (by decide)) (by decide)
  have noEquals : '=' ∉ "\t2**x ln ".toList := by decide
  have noY : mentionsY "\t2**x ln ".toList = false := by decide
  exact ⟨notBlank, noEquals, noY, curve_spellings_agree notBlank noEquals noY⟩

end FormulaPlot.Equation
