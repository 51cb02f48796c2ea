import FormulaPlot.Proofs.Equation.Expressions

/-!
Equations between expressions. An equation is taken for a curve by the letters of its sides, and for
a relation otherwise; as a relation it is always ready, and as a curve it is unless the letters hide
the name `y` or a parenthesis that belongs to the other side.
-/

namespace FormulaPlot

open FormulaPlot.Formula FormulaPlot.Grammar FormulaPlot.Scanning FormulaPlot.Text

set_option autoImplicit false

namespace Equation

/-- Whether an equation is taken for a curve: one side is the letter `y`, and the other one has no
such letter by itself. -/
def IsCurve (left right : String) : Prop := side left = ['y'] ∧ mentionsY (side right) = false

instance (left right : String) : Decidable (IsCurve left right) :=
  inferInstanceAs (Decidable (_ ∧ _))

theorem not_curve_both {left right : String} (curve : IsCurve left right) :
    ¬IsCurve right left := by
  intro other
  have found := curve.2
  rw [other.1] at found
  exact absurd found (by decide)

def Mentions (name text : String) : Prop :=
  ∃ tokens, tokenize text = .ok tokens ∧
    ∃ token ∈ tokens, token.kind = .identifier ∧ token.lexeme = name

/-- A curve by its letters that is none by its lexemes or by its parentheses. -/
def Misread (left right : String) : Prop :=
  IsCurve left right ∧ (Mentions "y" right ∨ ¬Balanced right.toList)

theorem Spelled.mentions_iff {text : String} (spelled : Spelled text) (name : String) :
    Mentions name text ↔ name ∈ identifiers spelled.tokens := by
  have lexed := spelled.lexed 0
  obtain ⟨tokens, tokenized, _⟩ := tokens_of_lexed lexed
  have senses := senses_of_tokenize lexed tokenized
  rw [mem_identifiers_iff]
  have members : (TokenKind.identifier, name) ∈ tokens.map Token.sense ↔
      (.identifier, name) ∈ spelled.tokens.map Token.sense := by
    rw [senses]
    simp [endSense]
  rw [← members]
  simp only [List.mem_map, sense_identifier_iff]
  constructor
  · rintro ⟨others, again, found⟩
    rw [tokenized, Except.ok.injEq] at again
    rw [again]
    exact found
  · intro found
    exact ⟨tokens, tokenized, found⟩

theorem prepare_sides_eq (text : String) {left right : String} (leftPresent : side left ≠ [])
    (rightPresent : side right ≠ []) :
    prepareSides text (side left) (side right) =
      if IsCurve left right then prepareExplicit (String.ofList (side right))
      else if IsCurve right left then prepareExplicit (String.ofList (side left))
      else prepareImplicit text (String.ofList (side left)) (String.ofList (side right)) := by
  have taken : ∀ first second : String,
      (decide (side first = ['y']) && !mentionsY (side second)) = true ↔ IsCurve first second := by
    intro first second
    simp [IsCurve]
  rw [prepare_sides_def]
  rw [if_neg (by simp [leftPresent, rightPresent])]
  simp only [taken]

theorem Spelled.curve_misread_iff {left right : String} (spelled : Spelled right)
    (oneLine : '\n' ∉ right.toList) (curve : IsCurve left right) :
    (prepareExplicit (String.ofList (side right))).isReady = true ↔ ¬Misread left right := by
  rw [spelled.curve_ready_iff oneLine, ← spelled.mentions_iff]
  unfold Misread
  constructor
  · rintro ⟨balanced, noY⟩ ⟨_, mentioned | unbalanced⟩
    · exact noY mentioned
    · exact unbalanced balanced
  · intro noMisreading
    constructor
    · by_cases balanced : Balanced right.toList
      · exact balanced
      · exact absurd ⟨curve, .inr balanced⟩ noMisreading
    · intro mentioned
      exact noMisreading ⟨curve, .inl mentioned⟩

theorem relation_of_expressions {left right : String} (first : IsExpression left)
    (second : IsExpression right) (fits : Fits left right)
    (noCurve : ¬IsCurve left right ∧ ¬IsCurve right left) :
    (prepare (left ++ " = " ++ right)).mode = .implicit ∧
      ∃ whole, (prepare (left ++ " = " ++ right)).outcome = .ready whole := by
  obtain ⟨leftSpelled⟩ := first.spelled
  obtain ⟨rightSpelled⟩ := second.spelled
  obtain ⟨text, prepared⟩ := prepare_equation first second
  have leftPresent := leftSpelled.side_present first.oneLine
  have rightPresent := rightSpelled.side_present second.oneLine
  have ready := relation_ready leftSpelled rightSpelled ⟨first.oneLine, second.oneLine⟩ fits text
  rw [prepared, prepare_sides_eq text leftPresent rightPresent, if_neg noCurve.1,
    if_neg noCurve.2]
  exact ⟨relation_mode _ _ _, ready_of_is_ready ready⟩

/-- An equation between two expressions is ready unless it is misread as a curve. -/
theorem equation_ready_iff {left right : String} (first : IsExpression left)
    (second : IsExpression right) (fits : Fits left right) :
    ((prepare (left ++ " = " ++ right)).isReady = true ↔
      ¬Misread left right ∧ ¬Misread right left) ∧
    ((prepare (left ++ " = " ++ right)).mode = .implicit ↔
      ¬IsCurve left right ∧ ¬IsCurve right left) := by
  obtain ⟨leftSpelled⟩ := first.spelled
  obtain ⟨rightSpelled⟩ := second.spelled
  obtain ⟨text, prepared⟩ := prepare_equation first second
  have leftPresent := leftSpelled.side_present first.oneLine
  have rightPresent := rightSpelled.side_present second.oneLine
  rw [prepared, prepare_sides_eq text leftPresent rightPresent]
  split
  · rename_i curve
    have noOther : ¬Misread right left := fun misread => not_curve_both curve misread.1
    rw [rightSpelled.curve_misread_iff second.oneLine curve, explicit_mode]
    simp [curve, noOther]
  · rename_i noCurve
    have noMisreading : ¬Misread left right := fun misread => noCurve misread.1
    split
    · rename_i curve
      rw [leftSpelled.curve_misread_iff first.oneLine curve, explicit_mode]
      simp [curve, noMisreading]
    · rename_i noOther
      have noOtherMisreading : ¬Misread right left := fun misread => noOther misread.1
      have ready := relation_ready leftSpelled rightSpelled ⟨first.oneLine, second.oneLine⟩ fits
        text
      rw [relation_mode]
      simp [ready, noMisreading, noOtherMisreading, noCurve, noOther]

theorem line_is_relation :
    (prepare "x = 2y").isReady = true ∧ (prepare "x = 2y").mode = .implicit := by
  obtain ⟨ready, relation⟩ := equation_ready_iff x_is_expression double_is_expression line_fits
  have noCurve : ¬IsCurve "x" "2y" ∧ ¬IsCurve "2y" "x" := by decide +kernel
  have noMisreading : ¬Misread "x" "2y" ∧ ¬Misread "2y" "x" :=
    ⟨fun misread => noCurve.1 misread.1, fun misread => noCurve.2 misread.1⟩
  exact ⟨ready.mpr noMisreading, relation.mpr noCurve⟩

/-- A name behind a number is no word, so this relation is taken for a curve and refused. -/
theorem glued_name_refused :
    IsExpression "y" ∧ IsExpression "2y" ∧ Fits "y" "2y" ∧ Mentions "y" "2y" ∧
      (prepare "y = 2y").isReady = false ∧ (prepare "y = 2y").mode = .explicit := by
  obtain ⟨spelled⟩ := double_is_expression.spelled
  have mentioned : Mentions "y" "2y" := by
    rw [spelled.mentions_iff, mem_identifiers_iff, (spelled.lexed 0).unique (lexed_double 0)]
    decide
  have curve : IsCurve "y" "2y" := by decide +kernel
  have refused : ¬(prepareExplicit (String.ofList (side "2y"))).isReady = true := by
    rw [spelled.curve_misread_iff double_is_expression.oneLine curve]
    exact fun none => none ⟨curve, .inl mentioned⟩
  obtain ⟨text, prepared⟩ := prepare_equation y_is_expression double_is_expression
  have whole : "y" ++ " = " ++ "2y" = "y = 2y" := rfl
  rw [whole, prepare_sides_eq text (by decide +kernel) (by decide +kernel), if_pos curve]
    at prepared
  rw [prepared, explicit_mode]
  exact ⟨y_is_expression, double_is_expression, double_fits, mentioned,
    Bool.eq_false_iff.mpr refused, rfl⟩

end Equation

end FormulaPlot
