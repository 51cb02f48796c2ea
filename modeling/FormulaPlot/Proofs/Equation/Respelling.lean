import FormulaPlot.Proofs.Equation.Normal

/-!
Texts that differ in how logarithms are called. Where `log(` does not stand behind a word, writing
`ln(` for it gives the same normal form.
-/

namespace FormulaPlot.Equation

open FormulaPlot.Text

set_option autoImplicit false

/-- Calls of `log` outside words are spelled `ln`. The index tells whether the character in front
belongs to a word. -/
inductive Respelled : Bool → List Char → List Char → Prop
  | nothing {inside : Bool} : Respelled inside [] []
  | kept {inside : Bool} {character : Char} {first second : List Char} :
      Respelled (isWordCharacter character) first second →
        Respelled inside (character :: first) (character :: second)
  | changed {first second : List Char} : Respelled false first second →
      Respelled false ('l' :: 'o' :: 'g' :: '(' :: first) ('l' :: 'n' :: '(' :: second)

namespace Respelled

variable {inside : Bool} {first second : List Char}

theorem head_eq (respelled : Respelled inside first second) : second.head? = first.head? := by
  cases respelled <;> rfl

theorem outside (respelled : Respelled inside first second) : Respelled false first second := by
  cases respelled with
  | nothing => exact .nothing
  | kept rest => exact .kept rest
  | changed rest => exact .changed rest

theorem drop_blanks (respelled : Respelled inside first second) :
    Respelled false (first.dropWhile isBlank) (second.dropWhile isBlank) := by
  induction respelled with
  | nothing => exact .nothing
  | @kept inside character first second rest induction =>
      cases blank : isBlank character with
      | true =>
          rw [List.dropWhile_cons_of_pos blank, List.dropWhile_cons_of_pos blank]
          exact induction
      | false =>
          rw [List.dropWhile_cons_of_neg (by simp [blank]),
            List.dropWhile_cons_of_neg (by simp [blank])]
          exact .kept rest
  | changed rest induction =>
      rw [List.dropWhile_cons_of_neg (by decide), List.dropWhile_cons_of_neg (by decide)]
      exact .changed rest

end Respelled

/-- A text without the blanks at its end. -/
def trimmed (characters : List Char) : List Char := (characters.reverse.dropWhile isBlank).reverse

theorem trimmed_cons (character : Char) (rest : List Char) :
    trimmed (character :: rest) =
      if isBlank character && (trimmed rest).isEmpty then [] else character :: trimmed rest := by
  unfold trimmed
  rw [List.reverse_cons, List.dropWhile_append]
  cases shape : rest.reverse.dropWhile isBlank with
  | nil => cases blank : isBlank character <;> simp [blank]
  | cons last others => simp

theorem strip_eq_trimmed (characters : List Char) :
    strip characters = trimmed (characters.dropWhile isBlank) := by
  unfold strip stripAll trimEnd trimmed
  simp only [Bool.not_not]

namespace Respelled

variable {inside : Bool} {first second : List Char}

theorem is_empty_eq (respelled : Respelled inside first second) :
    second.isEmpty = first.isEmpty := by
  cases respelled <;> rfl

theorem trim (respelled : Respelled inside first second) :
    Respelled inside (trimmed first) (trimmed second) := by
  induction respelled with
  | nothing => exact .nothing
  | @kept inside character first second rest induction =>
      rw [trimmed_cons, trimmed_cons, induction.is_empty_eq]
      split
      · exact .nothing
      · exact .kept induction
  | changed rest induction =>
      have kept : ∀ {character : Char} (others : List Char), isBlank character = false →
          trimmed (character :: others) = character :: trimmed others := by
        intro character others solid
        rw [trimmed_cons, solid]
        rfl
      rw [kept _ (by decide), kept _ (by decide), kept _ (by decide), kept _ (by decide),
        kept _ (by decide), kept _ (by decide), kept _ (by decide)]
      exact .changed induction

theorem strip (respelled : Respelled inside first second) :
    Respelled false (Text.strip first) (Text.strip second) := by
  rw [strip_eq_trimmed, strip_eq_trimmed]
  exact respelled.drop_blanks.trim

theorem powers {inside : Bool} {first second : List Char}
    (respelled : Respelled inside first second) :
    Respelled inside (powersAsCarets first) (powersAsCarets second) := by
  cases respelled with
  | nothing => exact .nothing
  | @changed first second rest =>
      have long : powersAsCarets (logCall ++ first) = logCall ++ powersAsCarets first :=
        powers_as_carets_append (by decide) first
      have short : powersAsCarets (['l', 'n', '('] ++ second) =
          ['l', 'n', '('] ++ powersAsCarets second := powers_as_carets_append (by decide) second
      show Respelled false (powersAsCarets (logCall ++ first))
        (powersAsCarets (['l', 'n', '('] ++ second))
      rw [long, short]
      exact .changed rest.powers
  | @kept _ character first second rest =>
      by_cases starred : character = '*' ∧ first.head? = some '*'
      · obtain ⟨rfl, head⟩ := starred
        cases rest with
        | nothing => contradiction
        | changed rest =>
            injection head with head
            exact absurd head (by decide)
        | @kept _ star first second rest =>
            injection head with head
            subst head
            rw [powersAsCarets, powersAsCarets]
            exact .kept rest.powers
      · rw [powers_as_carets_cons starred, powers_as_carets_cons (rest.head_eq ▸ starred)]
        exact .kept rest.powers
termination_by first.length

end Respelled

/-! Logarithms -/

theorem ln_as_log_found {character : Char} {rest behind : List Char}
    (found : behindLn? (character :: rest) = some behind) :
    lnAsLog false (character :: rest) = logCall ++ lnAsLog false behind := by
  rw [lnAsLog, if_neg Bool.false_ne_true]
  split
  · next other same =>
      rw [found] at same
      injection same with same
      rw [same]
  · next none =>
      rw [found] at none
      contradiction

theorem ln_as_log_call (inside : Bool) (rest : List Char) :
    lnAsLog inside (logCall ++ rest) = logCall ++ lnAsLog false rest := by
  have letter : isWordCharacter 'l' = true := by decide
  have letters : ['o', 'g'].all isWordCharacter = true := by decide
  have parenthesis : isWordCharacter '(' = false := by decide
  have noCall : behindLn? ('l' :: (['o', 'g'] ++ '(' :: rest)) = none := rfl
  show lnAsLog inside ('l' :: (['o', 'g'] ++ '(' :: rest)) = _
  rw [ln_as_log_cons (.inr noCall), letter, ln_as_log_word (List.all_eq_true.mp letters),
    ln_as_log_cons (.inl rfl), parenthesis]
  rfl

theorem behind_ln_of_parenthesis {rest behind : List Char}
    (opens : rest.dropWhile isBlank = '(' :: behind) :
    behindLn? ('l' :: 'n' :: rest) = some behind := by
  simp only [behindLn?, opens]

theorem behind_ln_eq_none {rest : List Char}
    (other : (rest.dropWhile isBlank).head? ≠ some '(') :
    behindLn? ('l' :: 'n' :: rest) = none := by
  simp only [behindLn?]
  split
  · next same =>
      rw [same] at other
      exact absurd rfl other
  · rfl

theorem no_ln_without_n {letter : Char} (noN : letter ≠ 'n') (rest : List Char) :
    behindLn? ('l' :: letter :: rest) = none := by
  unfold behindLn?
  split
  · next same =>
      injection same with _ same
      injection same with same _
      exact absurd same noN
  · rfl

namespace Respelled

variable {first second : List Char}

/-- Texts behind a letter `l` call `ln` alike. -/
theorem behind_ln (respelled : Respelled true first second) :
    (behindLn? ('l' :: first) = none ∧ behindLn? ('l' :: second) = none) ∨
      ∃ behind other, behindLn? ('l' :: first) = some behind ∧
        behindLn? ('l' :: second) = some other ∧ Respelled false behind other := by
  cases respelled with
  | nothing => exact .inl ⟨rfl, rfl⟩
  | @kept _ letter first second rest =>
      by_cases isN : letter = 'n'
      · subst isN
        have dropped := rest.drop_blanks
        generalize front : first.dropWhile isBlank = remaining at dropped
        generalize back : second.dropWhile isBlank = others at dropped
        cases dropped with
        | nothing =>
            exact .inl ⟨behind_ln_eq_none (by simp [front]), behind_ln_eq_none (by simp [back])⟩
        | changed rest =>
            exact .inl ⟨behind_ln_eq_none (by simp [front]), behind_ln_eq_none (by simp [back])⟩
        | @kept _ next behind other rest =>
            by_cases opens : next = '('
            · subst opens
              exact .inr ⟨behind, other, behind_ln_of_parenthesis front,
                behind_ln_of_parenthesis back, rest.outside⟩
            · exact .inl ⟨behind_ln_eq_none (by simp [front, opens]),
                behind_ln_eq_none (by simp [back, opens])⟩
      · exact .inl ⟨no_ln_without_n isN first, no_ln_without_n isN second⟩

theorem ln_as_log {inside : Bool} {first second : List Char}
    (respelled : Respelled inside first second) :
    lnAsLog inside second = lnAsLog inside first := by
  cases respelled with
  | nothing => rfl
  | @changed first second rest =>
      have found : behindLn? ('l' :: 'n' :: '(' :: second) = some second := rfl
      rw [ln_as_log_found found, rest.ln_as_log]
      exact (ln_as_log_call false first).symm
  | @kept _ character first second rest =>
      have step : (inside = true ∨ behindLn? (character :: first) = none) →
          (inside = true ∨ behindLn? (character :: second) = none) →
            lnAsLog inside (character :: second) = lnAsLog inside (character :: first) := by
        intro keepsFirst keepsSecond
        rw [ln_as_log_cons keepsFirst, ln_as_log_cons keepsSecond, rest.ln_as_log]
      by_cases isL : character = 'l'
      · subst isL
        have letter : isWordCharacter 'l' = true := by decide
        rw [letter] at rest
        cases inside with
        | true => exact step (.inl rfl) (.inl rfl)
        | false =>
            rcases rest.behind_ln with ⟨none, noOther⟩ | ⟨behind, other, found, foundOther, same⟩
            · exact step (.inr none) (.inr noOther)
            · have shorter := length_of_behindLn? found
              rw [ln_as_log_found found, ln_as_log_found foundOther, same.ln_as_log]
      · have noL : 'l' ≠ character := Ne.symm isL
        exact step (.inr (no_ln_without_l noL first)) (.inr (no_ln_without_l noL second))
termination_by first.length
decreasing_by
  all_goals subst_vars
  all_goals (simp only [List.length_cons] at *); omega

end Respelled

end FormulaPlot.Equation
