import FormulaPlot.Proofs.Equation.Glued
import FormulaPlot.Proofs.Formula.Places

/-!
Two spellings of logarithms. Calls of `log` may be written `ln(` where they are not glued to a word,
and what is prepared stays the same. Behind a number without a sign in between `ln` is no word of
its own and stays an unknown name.
-/

namespace FormulaPlot.Equation

open FormulaPlot.Scanning FormulaPlot.Text

set_option autoImplicit false

/-- A name `log` among the tokens of a text, an opening parenthesis right behind it. -/
def IsLogCall (text : String) (place : Nat) : Prop :=
  (∃ token ∈ (scan text).tokens, token.kind = .identifier ∧ token.lexeme = "log" ∧
    token.span.start.offset = place) ∧ text.toList[place + 3]? = some '('

instance (text : String) (place : Nat) : Decidable (IsLogCall text place) :=
  inferInstanceAs (Decidable ((∃ token ∈ (scan text).tokens, _) ∧ _))

/-- A text with `ln` for the three characters at each chosen place. -/
def respellFrom (chosen : Nat → Bool) (place : Nat) : List Char → List Char
  | [] => []
  | character :: rest =>
      if chosen place then 'l' :: 'n' :: respellFrom chosen (place + 3) (rest.drop 2)
      else character :: respellFrom chosen (place + 1) rest
termination_by characters => characters.length
decreasing_by all_goals simp only [List.length_cons, List.length_drop]; omega

def respell (chosen : Nat → Bool) (text : String) : String :=
  String.ofList (respellFrom chosen 0 text.toList)

/-- Whether the character in front of a place belongs to a word. -/
def behindWord (characters : List Char) (place : Nat) : Bool :=
  (characters.take place).getLast?.any isWordCharacter

/-- A place with a character of a word in front, such as a digit. -/
def Glued (text : String) (place : Nat) : Prop := behindWord text.toList place = true

instance (text : String) (place : Nat) : Decidable (Glued text place) :=
  inferInstanceAs (Decidable (behindWord text.toList place = true))

theorem behind_word_next {characters rest : List Char} {place : Nat} {character : Char}
    (stands : characters.drop place = character :: rest) :
    behindWord characters (place + 1) = isWordCharacter character := by
  have here : characters[place]? = some character := by
    rw [← List.head?_drop, stands]
    rfl
  unfold behindWord
  rw [List.take_add_one, here]
  simp

theorem drop_one {characters rest : List Char} {place : Nat} {character : Char}
    (stands : characters.drop place = character :: rest) : characters.drop (place + 1) = rest := by
  rw [← List.drop_drop, stands]
  rfl

/-- Where a call stands, so do its four characters. -/
theorem IsLogCall.stands {text : String} {place : Nat} (call : IsLogCall text place) :
    ∃ rest, text.toList.drop place = logCall ++ rest := by
  obtain ⟨⟨token, member, _, isLog, rfl⟩, opens⟩ := call
  have scanned := scan_stands text.toList .start 0 text.toList rfl
  have spelled := (scanned.token token member).1
  rw [Token.StandsIn, isLog] at spelled
  obtain ⟨behind, stands⟩ := spelled.resolve_left (by decide)
  have dropped : text.toList.drop (token.span.start.offset + 3) = behind :=
    drop_one (drop_one (drop_one stands.symm))
  have parenthesis : behind.head? = some '(' := by rwa [← dropped, List.head?_drop]
  obtain ⟨rest, rfl⟩ := List.head?_eq_some_iff.mp parenthesis
  exact ⟨rest, stands.symm⟩

theorem drop_call {characters rest : List Char} {place : Nat}
    (stands : characters.drop place = logCall ++ rest) : characters.drop (place + 4) = rest :=
  drop_one (drop_one (drop_one (drop_one stands)))

theorem respell_kept {chosen : Nat → Bool} {place : Nat} (keeps : chosen place = false)
    (character : Char) (rest : List Char) :
    respellFrom chosen place (character :: rest) =
      character :: respellFrom chosen (place + 1) rest := by
  rw [respellFrom, keeps]
  rfl

theorem within_of_drop {characters rest : List Char} {place : Nat} {character : Char}
    (stands : characters.drop place = character :: rest) : place < characters.length := by
  have lengths := congrArg List.length stands
  rw [List.length_drop, List.length_cons] at lengths
  omega

section Calls

variable {chosen : Nat → Bool} {text : String}
  (calls : ∀ place, chosen place = true → IsLogCall text place)

include calls

theorem not_chosen_of_head {place : Nat} {character : Char} {rest : List Char}
    (stands : text.toList.drop place = character :: rest) (noL : character ≠ 'l') :
    chosen place = false := by
  cases choice : chosen place with
  | false => rfl
  | true =>
      obtain ⟨behind, call⟩ := (calls place choice).stands
      rw [stands] at call
      injection call with same
      exact absurd same noL

/-- A chosen call is respelled up to its parenthesis. -/
theorem respell_call {place : Nat} (choice : chosen place = true) {rest : List Char}
    (stands : text.toList.drop place = logCall ++ rest) :
    respellFrom chosen place (logCall ++ rest) =
      ['l', 'n', '('] ++ respellFrom chosen (place + 4) rest := by
  have opens := drop_one (drop_one (drop_one stands))
  have keeps : chosen (place + 3) = false := not_chosen_of_head calls opens (by decide)
  show respellFrom chosen place ('l' :: 'o' :: 'g' :: '(' :: rest) = _
  rw [respellFrom, if_pos choice]
  show 'l' :: 'n' :: respellFrom chosen (place + 3) ('(' :: rest) = _
  rw [respell_kept keeps]
  rfl

/-- Only calls outside words are respelled when none of those chosen is glued. -/
theorem respelled (unglued : ∀ place, chosen place = true → ¬Glued text place) (place : Nat) :
    Respelled (behindWord text.toList place) (text.toList.drop place)
      (respellFrom chosen place (text.toList.drop place)) := by
  cases stands : text.toList.drop place with
  | nil =>
      rw [respellFrom]
      exact .nothing
  | cons character rest =>
      have within := within_of_drop stands
      cases choice : chosen place with
      | true =>
          obtain ⟨behind, call⟩ := (calls place choice).stands
          have outside : behindWord text.toList place = false := by
            simpa [Glued] using unglued place choice
          have further := (respelled unglued (place + 4)).outside
          rw [drop_call call] at further
          rw [← stands, call, respell_call calls choice call, outside]
          exact .changed further
      | false =>
          have further := respelled unglued (place + 1)
          rw [behind_word_next stands, drop_one stands] at further
          rw [respell_kept choice]
          exact .kept further
termination_by text.toList.length - place

/-- A glued call stands well behind another one. -/
theorem glued_behind_call {place glued : Nat} (choice : chosen place = true)
    (other : chosen glued = true) (isGlued : Glued text glued) (before : place < glued) :
    place + 4 < glued := by
  obtain ⟨rest, call⟩ := (calls place choice).stands
  have second := drop_one call
  have third := drop_one second
  have last := drop_one third
  have apart : ∀ place, chosen place = false → glued ≠ place := by
    rintro place keeps rfl
    rw [keeps] at other
    contradiction
  have noSecond := apart _ (not_chosen_of_head calls second (by decide))
  have noThird := apart _ (not_chosen_of_head calls third (by decide))
  have noLast := apart _ (not_chosen_of_head calls last (by decide))
  have noNext : glued ≠ place + 4 := by
    rintro rfl
    have isWord : isWordCharacter '(' = true := by
      rw [← behind_word_next last]
      exact isGlued
    exact absurd isWord (by decide)
  omega

theorem respelled_hides {glued : Nat} (choice : chosen glued = true) (isGlued : Glued text glued)
    (place : Nat) (before : place < glued) :
    HidesLn (respellFrom chosen place (text.toList.drop place)) := by
  obtain ⟨behind, call⟩ := (calls glued choice).stands
  have inside := within_of_drop call
  cases stands : text.toList.drop place with
  | nil =>
      have ended := List.drop_eq_nil_iff.mp stands
      omega
  | cons character rest =>
      cases picked : chosen place with
      | true =>
          obtain ⟨others, otherCall⟩ := (calls place picked).stands
          have behindCall := glued_behind_call calls picked choice isGlued before
          obtain ⟨last, isWord, further⟩ :=
            respelled_hides choice isGlued (place + 4) behindCall
          rw [drop_call otherCall] at further
          rw [← stands, otherCall, respell_call calls picked otherCall]
          exact ⟨last, isWord, further.trans (List.suffix_append _ _).isInfix⟩
      | false =>
          rw [respell_kept picked]
          by_cases next : place + 1 = glued
          · subst next
            have isWord : isWordCharacter character = true := by
              rw [← behind_word_next stands]
              exact isGlued
            have same := (drop_one stands).symm.trans call
            rw [same, respell_call calls choice call]
            exact ⟨character, isWord, (List.prefix_append _ _).isInfix⟩
          · obtain ⟨last, isWord, further⟩ :=
              respelled_hides choice isGlued (place + 1) (by omega)
            rw [drop_one stands] at further
            exact ⟨last, isWord, List.infix_cons further⟩
termination_by text.toList.length - place

end Calls

/-- Calls of `log` may be spelled `ln` where no character of a word stands right in front of them,
and what is prepared is the same. With one glued to a word the text is not accepted. -/
theorem ln_is_log_outside_words (text : String) (chosen : Nat → Bool)
    (calls : ∀ place, chosen place = true → IsLogCall text place) :
    ((∀ place, chosen place = true → ¬Glued text place) →
      prepare (respell chosen text) = prepare text ∧
        prepareSurface (respell chosen text) = prepareSurface text) ∧
    ((∃ place, chosen place = true ∧ Glued text place) →
      (prepare (respell chosen text)).isReady = false ∧
        (prepareSurface (respell chosen text)).isReady = false) := by
  constructor
  · intro unglued
    have related : Respelled false text.toList (respellFrom chosen 0 text.toList) :=
      respelled calls unglued 0
    have same : normalize (respell chosen text) = normalize text := by
      unfold normalize respell
      rw [String.toList_ofList, related.strip.powers.ln_as_log]
    exact prepare_alike same
  · rintro ⟨glued, choice, isGlued⟩
    have before : 0 < glued := by
      apply Nat.pos_of_ne_zero
      rintro rfl
      contradiction
    apply not_ready_of_hidden
    unfold respell
    rw [String.toList_ofList]
    exact respelled_hides calls choice isGlued 0 before

theorem natural_logarithms_alike :
    prepare "ln(x) + 2log(2)" = prepare "log(x) + 2log(2)" ∧
      (prepare "log(x) + 2ln(2)").isReady = false := by
  have atStart : respell (· == 0) "log(x) + 2log(2)" = "ln(x) + 2log(2)" := by decide +kernel
  have behindTwo : respell (· == 10) "log(x) + 2log(2)" = "log(x) + 2ln(2)" := by decide +kernel
  have calls : IsLogCall "log(x) + 2log(2)" 0 ∧ IsLogCall "log(x) + 2log(2)" 10 := by
    decide +kernel
  have unglued : ¬Glued "log(x) + 2log(2)" 0 := by decide +kernel
  have glued : Glued "log(x) + 2log(2)" 10 := by decide +kernel
  constructor
  · rw [← atStart]
    apply ((ln_is_log_outside_words "log(x) + 2log(2)" (· == 0) _).1 _).1
    · intro place chosen
      rw [eq_of_beq chosen]
      exact calls.1
    · intro place chosen
      rw [eq_of_beq chosen]
      exact unglued
  · rw [← behindTwo]
    apply ((ln_is_log_outside_words "log(x) + 2log(2)" (· == 10) _).2 ⟨10, rfl, glued⟩).1
    intro place chosen
    rw [eq_of_beq chosen]
    exact calls.2

/-- Behind a number the other spelling of a logarithm is an unknown function. -/
theorem glued_ln_refused :
    IsLogCall "2log(x)" 1 ∧ respell (· == 1) "2log(x)" = "2ln(x)" ∧
      (prepare "2log(x)").message? = none ∧ (prepare "2log(x)").isReady = true ∧
      (prepare "2ln(x)").message? = some "Unsupported function \"ln\"." ∧
      (prepareSurface "2log(x)").isReady = true ∧
      (prepareSurface "2ln(x)").message? = some "Unsupported function \"ln\"." := by
  decide +kernel

end FormulaPlot.Equation
