import FormulaPlot.Proofs.Equation.Curves

/-!
Texts in their normal form. A normal form has no powers and no logarithms left to rewrite and no
white space at its ends, so that it is its own normal form, and a text is prepared like its normal
form.
-/

namespace FormulaPlot.Equation

open FormulaPlot.Text

set_option autoImplicit false

variable {characters rest : List Char} {character : Char}

/-! Powers -/

theorem power_cons_iff :
    ['*', '*'] <:+: character :: rest ↔
      (character = '*' ∧ rest.head? = some '*') ∨ ['*', '*'] <:+: rest := by
  rw [List.infix_cons_iff, List.cons_prefix_cons, List.singleton_prefix_iff_head?_eq_some,
    eq_comm (a := '*')]

theorem no_power_in_carets (characters : List Char) :
    ¬['*', '*'] <:+: powersAsCarets characters := by
  induction characters using powersAsCarets.induct with
  | case1 rest induction =>
      rw [powersAsCarets, power_cons_iff]
      rintro (⟨caret, _⟩ | behind)
      · exact absurd caret (by decide)
      · exact induction behind
  | case2 character rest single induction =>
      have alone : ¬(character = '*' ∧ rest.head? = some '*') := by
        rintro ⟨rfl, starred⟩
        obtain ⟨tail, rfl⟩ := List.head?_eq_some_iff.mp starred
        exact single tail rfl rfl
      rw [powers_as_carets_cons alone, power_cons_iff]
      rintro (⟨star, starred⟩ | behind)
      · rcases head_powers_as_carets rest with same | caret
        · exact alone ⟨star, same ▸ starred⟩
        · rw [caret] at starred
          exact absurd starred (by decide)
      · exact induction behind
  | case3 => simp [powersAsCarets]

theorem powers_as_carets_self (noPower : ¬['*', '*'] <:+: characters) :
    powersAsCarets characters = characters := by
  induction characters with
  | nil => rfl
  | cons character rest induction =>
      rw [power_cons_iff, not_or] at noPower
      rw [powers_as_carets_cons noPower.1, induction noPower.2]

/-- Calls of logarithms bring no stars together. -/
theorem no_power_in_calls (inside : Bool) (noPower : ¬['*', '*'] <:+: characters) :
    ¬['*', '*'] <:+: lnAsLog inside characters := by
  have kept : ∀ {character : Char} {rest : List Char} (inside : Bool),
      (¬['*', '*'] <:+: rest → ¬['*', '*'] <:+: lnAsLog inside rest) →
      ¬['*', '*'] <:+: character :: rest →
      ¬['*', '*'] <:+: character :: lnAsLog inside rest := by
    intro character rest inside induction noPower
    rw [power_cons_iff, not_or] at noPower ⊢
    rw [head_ln_as_log]
    exact ⟨noPower.1, induction noPower.2⟩
  fun_induction lnAsLog inside characters with
  | case1 => exact noPower
  | case2 character rest induction => exact kept _ induction noPower
  | case3 _ character rest _ behind found induction =>
      obtain ⟨blanks, _, shape⟩ := call_of_behind_ln found
      rw [shape] at noPower
      have further := induction fun inside => noPower (inside.trans
        ⟨['l', 'n'] ++ (blanks ++ ['(']), [], by simp⟩)
      show ¬['*', '*'] <:+: 'l' :: 'o' :: 'g' :: '(' :: lnAsLog false behind
      simpa [power_cons_iff] using further
  | case4 _ character rest _ _ induction => exact kept _ induction noPower

/-! Calls of logarithms -/

theorem head_behind_blanks (inside : Bool) (characters : List Char) :
    ((lnAsLog inside characters).dropWhile isBlank).head? =
      (characters.dropWhile isBlank).head? := by
  induction characters generalizing inside with
  | nil => rw [lnAsLog]
  | cons character rest induction =>
      cases blank : isBlank character with
      | true =>
          have noL : 'l' ≠ character := by
            rintro rfl
            exact absurd blank (by decide)
          rw [ln_as_log_cons (.inr (no_ln_without_l noL rest)), List.dropWhile_cons_of_pos blank,
            List.dropWhile_cons_of_pos blank, induction]
      | false =>
          have starts := head_ln_as_log inside (character :: rest)
          obtain ⟨others, shape⟩ := List.head?_eq_some_iff.mp starts
          rw [shape, List.dropWhile_cons_of_neg (by simp [blank]),
            List.dropWhile_cons_of_neg (by simp [blank])]
          rfl

/-- Where no call starts, rewriting what follows makes none. -/
theorem no_call_in_calls (noCall : behindLn? (character :: rest) = none) :
    behindLn? (character :: lnAsLog (isWordCharacter character) rest) = none := by
  by_cases isL : character = 'l'
  · subst isL
    have letter : isWordCharacter 'l' = true := by decide
    rw [letter]
    cases rest with
    | nil => rw [lnAsLog]; exact noCall
    | cons next more =>
        rw [ln_as_log_cons (.inl rfl)]
        by_cases isN : next = 'n'
        · subst isN
          apply behind_ln_eq_none
          rw [head_behind_blanks]
          intro opens
          obtain ⟨behind, shape⟩ := List.head?_eq_some_iff.mp opens
          rw [behind_ln_of_parenthesis shape] at noCall
          contradiction
        · exact no_ln_without_n isN _
  · exact no_ln_without_l (Ne.symm isL) _

theorem ln_as_log_twice (inside : Bool) (characters : List Char) :
    lnAsLog inside (lnAsLog inside characters) = lnAsLog inside characters := by
  fun_induction lnAsLog inside characters with
  | case1 => rw [lnAsLog]
  | case2 character rest induction => rw [ln_as_log_cons (.inl rfl), induction]
  | case3 _ character rest _ behind found induction => rw [ln_as_log_call, induction]
  | case4 _ character rest _ found induction =>
      rw [ln_as_log_cons (.inr (no_call_in_calls found)), induction]

/-! Normal forms -/

theorem no_power_in_normal (characters : List Char) : ¬['*', '*'] <:+: normal characters :=
  no_power_in_calls false (no_power_in_carets characters)

theorem normal_twice (characters : List Char) : normal (normal characters) = normal characters := by
  rw [normal, powers_as_carets_self (no_power_in_normal characters), normal, ln_as_log_twice]

theorem normalize_characters (raw : String) :
    (normalize raw).toList = normal (strip raw.toList) := String.toList_ofList

/-- What is left of a text is rewritten to nothing or to a solid text. -/
theorem normal_solid (characters : List Char) :
    normal (strip characters) = [] ∨ Solid (normal (strip characters)) := by
  rcases strip_solid characters with nothing | solid
  · left
    rw [nothing, normal, powersAsCarets, lnAsLog]
  · exact .inr (solid_normal solid)

theorem normal_ends (characters : List Char) :
    (normal (strip characters)).head?.any isBlank = false ∧
      (normal (strip characters)).getLast?.any isBlank = false := by
  rcases normal_solid characters with nothing | solid
  · rw [nothing]
    exact ⟨rfl, rfl⟩
  · obtain ⟨first, starts, firstStays⟩ := solid.first
    obtain ⟨last, ends, lastStays⟩ := solid.last
    rw [starts, ends]
    exact ⟨firstStays, lastStays⟩

theorem normalize_twice (raw : String) : normalize (normalize raw) = normalize raw := by
  have stripped : strip (normal (strip raw.toList)) = normal (strip raw.toList) := by
    rcases normal_solid raw.toList with nothing | solid
    · rw [nothing]
      rfl
    · exact solid.strip
  rw [normalize, normalize_characters, stripped]
  exact congrArg String.ofList (normal_twice _)

/-- A normal form is its own normal form, has no power written with stars and no white space at its
ends; and every text is prepared like its normal form, as a curve or relation and as a surface. -/
theorem normal_form_is_fixed (raw : String) :
    normalize (normalize raw) = normalize raw ∧
      ¬"**".toList <:+: (normalize raw).toList ∧
      (normalize raw).toList.head?.any isBlank = false ∧
      (normalize raw).toList.getLast?.any isBlank = false ∧
      prepare (normalize raw) = prepare raw ∧
      prepareSurface (normalize raw) = prepareSurface raw := by
  have same := normalize_twice raw
  obtain ⟨starts, ends⟩ := normal_ends raw.toList
  rw [normalize_characters]
  exact ⟨same, no_power_in_normal _, starts, ends, prepare_alike same⟩

/-- An odd star is left of three, and white space in front of a parenthesis goes with the name. -/
example : normalize " ln  (x)***2 " = "log(x)^*2" := by decide +kernel

end FormulaPlot.Equation
