import FormulaPlot.Proofs.Equation.Classification

/-!
Equations as differences. Both sides are put in parentheses and read as one text; they are read as
two groups exactly when the parentheses of each side pair up.
-/

namespace FormulaPlot

open FormulaPlot.Formula FormulaPlot.Grammar FormulaPlot.Scanning FormulaPlot.Text

set_option autoImplicit false

namespace Equation

/-- A side by itself: a group in its own parentheses, with its evaluator. -/
def IsSide (text : String) (side : Evaluator Span) : Prop :=
  Formula.read (parenthesized text) = .ok side.formula ∧ side.formula.isGroup = true ∧
    Evaluator.ofFormula side.formula Mode.implicit.inputs = .ok side

/-- What an equation should be prepared to: the difference of the groups of both sides, and of
their values. -/
def ComparesSides (left right : String) (whole : Evaluator Span) : Prop :=
  ∃ first second, IsSide left first ∧ IsSide right second ∧
    whole.formula.bare = .binary () .minus first.formula.bare second.formula.bare ∧
    ∀ lookup, whole.program.run lookup =
      (first.program.run lookup).bind fun value =>
        (second.program.run lookup).bind (BinaryOperator.subtract.apply value)

theorem is_group_bare {label : Type} (formula : Formula label) :
    formula.bare.isGroup = formula.isGroup := by
  cases formula <;> rfl

theorem balanced_of_side {text : String} {side : Evaluator Span} (isSide : IsSide text side) :
    Balanced text.toList := by
  obtain ⟨spelled, grouped, _⟩ := isSide
  obtain ⟨tokens, lexed, derived, _⟩ := tokens_of_read spelled
  obtain ⟨opening, inner, closing, rfl, opens, closes, lexedInner⟩ := tokens_of_parenthesized lexed
  obtain ⟨room, primary⟩ := derived.primary_of_group (no_separator_of_open opens) grouped
  obtain ⟨first, last, inside, formula, parted, statement⟩ := primary.inner_of_group grouped
  rw [List.cons.injEq] at parted
  have same := (List.append_inj' parted.2 rfl).1
  unfold Balanced
  rw [unclosed_of_lexed lexedInner, same]
  exact statement.paired.parentheses 0

/-- A group from the tokens of a side makes a side. -/
theorem side_of_statement {text : String} {opening closing : Token} {tokens : List Token}
    {inner : Formula Span} {place : Span} {room : Nat} {program : Program}
    (roomy : mostNested = room + 1)
    (opens : opening.sense = openSense) (closes : closing.sense = closeSense)
    (lexed : Lexed 1 text.toList (tokens.map Token.sense)) (derived : Statement room tokens inner)
    (within : (group place inner).depth ≤ greatestDepth)
    (resolved : (group place inner).resolve Mode.implicit.inputs = .ok program) :
    ∃ side, IsSide text side ∧ side.formula.bare = group () inner.bare ∧
      side.program = program := by
  have primary := Primary.group (kind_of_exact_sense opens rfl) derived
    (kind_of_exact_sense closes rfl)
  have body := (primary.level (Nat.zero_le _)).body
  rw [← roomy] at body
  have senses : (opening :: (tokens ++ [closing])).map Token.sense =
      openSense :: (tokens.map Token.sense ++ [closeSense]) := by
    simp [opens, closes]
  have whole : Lexed 0 (parenthesized text).toList
      ((opening :: (tokens ++ [closing])).map Token.sense) :=
    (lexed_parenthesized_iff _ _).mpr ⟨_, senses, lexed⟩
  have sameDepth : (group (opening.span.through closing.span) inner).depth =
      (group place inner).depth := depth_of_bare rfl
  obtain ⟨formula, spelled, same⟩ := read_of_derived whole body (by rw [sameDepth]; exact within)
  have alike : (group place inner).bare = formula.bare := same.symm
  refine ⟨⟨formula, Mode.implicit.inputs, program⟩, ⟨spelled, ?_, ?_⟩, same, rfl⟩
  · rw [← is_group_bare, same]
    rfl
  · rw [evaluator_of_formula_iff]
    exact ⟨program, resolve_of_bare alike resolved, rfl⟩

theorem balanced_tokens_of_lexed {depth : Nat} {characters : List Char} {tokens : List Token}
    (lexed : Lexed depth characters (tokens.map Token.sense)) (balanced : Balanced characters) :
    BalancedTokens tokens := by
  unfold BalancedTokens
  rw [← unclosed_of_lexed lexed]
  exact balanced

/-- A difference is resolved to the difference of the programs of its parts. -/
theorem resolve_difference {label : Type} {inputs : List String} {place : label}
    {left right : Formula label} {program : Program}
    (resolved : (binary place .minus left right).resolve inputs = .ok program) :
    ∃ first second, left.resolve inputs = .ok first ∧ right.resolve inputs = .ok second ∧
      program = .operation .subtract first second := by
  rw [resolve] at resolved
  cases leftResolved : left.resolve inputs with
  | error found => simp [leftResolved] at resolved
  | ok first =>
      cases rightResolved : right.resolve inputs with
      | error found => simp [leftResolved, rightResolved] at resolved
      | ok second =>
          simp only [leftResolved, rightResolved, BinaryOperator.ofKind?, Except.ok.injEq]
            at resolved
          exact ⟨first, second, rfl, rfl, resolved.symm⟩

theorem compares_sides_of_balanced {left right : String} {whole : Evaluator Span}
    (made : evaluator .implicit (difference left right) = .ok whole)
    (leftBalanced : Balanced left.toList) (rightBalanced : Balanced right.toList) :
    ComparesSides left right whole := by
  obtain ⟨formula, spelled, accepted, evaluated⟩ := (evaluator_eq_ok_iff _ _ _).mp made
  obtain ⟨program, resolved, rfl⟩ := evaluator_of_formula_iff.mp evaluated
  obtain ⟨tokens, lexed, derived, within⟩ := tokens_of_read spelled
  obtain ⟨opening, first, closing, sign, again, second, last, rfl, opens, closes, isMinus, reopens,
    ends, lexedLeft, lexedRight⟩ := tokens_of_difference lexed
  obtain ⟨room, place, leftInner, rightInner, roomy, leftDerived, rightDerived, rfl⟩ :=
    difference_of_balanced (kind_of_exact_sense opens rfl) (kind_of_exact_sense closes rfl)
      (kind_of_exact_sense isMinus rfl) (kind_of_exact_sense reopens rfl)
      (kind_of_exact_sense ends rfl) (balanced_tokens_of_lexed lexedLeft leftBalanced)
      (balanced_tokens_of_lexed lexedRight rightBalanced) derived
  rw [leftDerived.paired.brackets] at lexedRight
  obtain ⟨firstProgram, secondProgram, leftResolved, rightResolved, rfl⟩ :=
    resolve_difference resolved
  have deep := ((depth_le_iff _ _).mp within).2
  have leftWithin := deep (.group (opening.span.through closing.span) leftInner)
    (by simp [children])
  have rightWithin := deep (.group (again.span.through last.span) rightInner) (by simp [children])
  obtain ⟨leftSide, isLeft, leftSame, rfl⟩ := side_of_statement roomy opens closes lexedLeft
    leftDerived (Nat.le_of_succ_le leftWithin) leftResolved
  obtain ⟨rightSide, isRight, rightSame, rfl⟩ := side_of_statement roomy reopens ends lexedRight
    rightDerived (Nat.le_of_succ_le rightWithin) rightResolved
  refine ⟨leftSide, rightSide, isLeft, isRight, ?_, ?_⟩
  · simp [leftSame, rightSame]
  · intro lookup
    exact Program.run_operation lookup .subtract _ _

/-- An accepted difference is the difference of its sides exactly when the parentheses of each side
pair up. -/
theorem compares_sides_iff {left right : String} {whole : Evaluator Span}
    (made : evaluator .implicit (difference left right) = .ok whole) :
    ComparesSides left right whole ↔ Balanced left.toList ∧ Balanced right.toList := by
  constructor
  · rintro ⟨first, second, isLeft, isRight, _⟩
    exact ⟨balanced_of_side isLeft, balanced_of_side isRight⟩
  · rintro ⟨leftBalanced, rightBalanced⟩
    exact compares_sides_of_balanced made leftBalanced rightBalanced

theorem implicit_ready_iff (text left right : String) (whole : Evaluator Span) :
    (prepareImplicit text left right).outcome = .ready whole ↔
      evaluator .implicit (difference left right) = .ok whole := by
  rw [prepare_implicit_def]
  cases evaluator .implicit (difference left right) with
  | error problem => simp
  | ok made => simp

theorem sides_of_ready {text : String} {left right : List Char} {whole : Evaluator Span}
    (implicitMode : (prepareSides text left right).mode = .implicit)
    (isReady : (prepareSides text left right).outcome = .ready whole) :
    evaluator .implicit (difference (String.ofList left) (String.ofList right)) = .ok whole := by
  rw [prepare_sides_def] at implicitMode isReady
  split at isReady
  · simp at isReady
  · rename_i someSides
    rw [if_neg someSides] at implicitMode
    split at isReady
    · rename_i curve
      rw [if_pos curve, explicit_mode] at implicitMode
      simp at implicitMode
    · rename_i noCurve
      rw [if_neg noCurve] at implicitMode
      split at isReady
      · rename_i curve
        rw [if_pos curve, explicit_mode] at implicitMode
        simp at implicitMode
      · exact (implicit_ready_iff _ _ _ _).mp isReady

/-- A text that is ready as an equation has two sides. -/
theorem split_of_ready {raw : String} {whole : Evaluator Span}
    (implicitMode : (prepare raw).mode = .implicit)
    (isReady : (prepare raw).outcome = .ready whole) :
    ∃ left right, splitAtEquals (normalize raw).toList = [left, right] ∧
      evaluator .implicit (difference (String.ofList (strip left)) (String.ofList (strip right))) =
        .ok whole := by
  rw [prepare_def] at implicitMode isReady
  split at isReady
  · simp at isReady
  · rename_i someText
    rw [if_neg someText] at implicitMode
    split at isReady
    · rename_i left right parts
      rw [parts] at implicitMode
      exact ⟨left, right, parts, sides_of_ready implicitMode isReady⟩
    · rename_i text part
      rw [part, explicit_mode] at implicitMode
      simp at implicitMode
    · simp at isReady

/-- What an entered text is read from: all of its normal form, the side across from `y`, or the
difference of both sides. -/
inductive Source (raw : String) : String → Prop
  | whole : Source raw (normalize raw)
  | behindY {left right : List Char} : splitAtEquals (normalize raw).toList = [left, right] →
      strip left = ['y'] → Source raw (String.ofList (strip right))
  | beforeY {left right : List Char} : splitAtEquals (normalize raw).toList = [left, right] →
      strip right = ['y'] → Source raw (String.ofList (strip left))
  | sides {left right : List Char} : splitAtEquals (normalize raw).toList = [left, right] →
      Source raw (difference (String.ofList (strip left)) (String.ofList (strip right)))

theorem evaluator_of_latex {mode : Mode} {text latex : String} {whole : Evaluator Span}
    (made : evaluatorWithLatex mode text = .ok (whole, latex)) :
    evaluator mode text = .ok whole := by
  unfold evaluatorWithLatex at made
  split at made
  · contradiction
  · next found evaluated =>
      split at made
      · contradiction
      · injection made with same
        rw [evaluated, (Prod.mk.inj same).1]

theorem explicit_of_ready {text : String} {whole : Evaluator Span}
    (isReady : (prepareExplicit text).outcome = .ready whole) :
    evaluator .explicit text = .ok whole := by
  rw [prepare_explicit_def] at isReady
  split at isReady
  · contradiction
  · next made =>
      injection isReady with same
      rw [← same]
      exact evaluator_of_latex made

theorem source_of_ready {raw : String} {whole : Evaluator Span}
    (isReady : (prepare raw).outcome = .ready whole) :
    ∃ mode text, Source raw text ∧ evaluator mode text = .ok whole := by
  rw [prepare_def] at isReady
  split at isReady
  · contradiction
  · split at isReady
    · next left right parts =>
        rw [prepare_sides_def] at isReady
        split at isReady
        · contradiction
        · split at isReady
          · next isLeft =>
              simp only [Bool.and_eq_true, decide_eq_true_eq] at isLeft
              exact ⟨_, _, .behindY parts isLeft.1, explicit_of_ready isReady⟩
          · split at isReady
            · next isRight =>
                simp only [Bool.and_eq_true, decide_eq_true_eq] at isRight
                exact ⟨_, _, .beforeY parts isRight.1, explicit_of_ready isReady⟩
            · exact ⟨_, _, .sides parts, (implicit_ready_iff _ _ _ _).mp isReady⟩
    · exact ⟨_, _, .whole, explicit_of_ready isReady⟩
    · contradiction

theorem surface_of_ready {raw : String} {whole : Evaluator Span}
    (isReady : (prepareSurface raw).outcome = .ready whole) :
    evaluator .surface (normalize raw) = .ok whole := by
  rw [prepare_surface_def] at isReady
  split at isReady
  · contradiction
  · split at isReady
    · contradiction
    · split at isReady
      · contradiction
      · next made =>
          injection isReady with same
          rw [← same]
          exact evaluator_of_latex made

theorem equation_compares_sides_iff {raw : String} {whole : Evaluator Span}
    (implicitMode : (prepare raw).mode = .implicit)
    (isReady : (prepare raw).outcome = .ready whole) :
    ∃ left right, splitAtEquals (normalize raw).toList = [left, right] ∧
      (ComparesSides (String.ofList (strip left)) (String.ofList (strip right)) whole ↔
        Balanced (strip left) ∧ Balanced (strip right)) := by
  obtain ⟨left, right, parts, made⟩ := split_of_ready implicitMode isReady
  have compared := compares_sides_iff made
  rw [String.toList_ofList, String.toList_ofList] at compared
  exact ⟨left, right, parts, compared⟩

theorem line_compares_sides :
    ∃ whole, (prepare "x = 2y").outcome = .ready whole ∧ ComparesSides "x" "2y" whole := by
  obtain ⟨implicitMode, whole, isReady⟩ :=
    relation_of_expressions x_is_expression double_is_expression line_fits (by decide +kernel)
  obtain ⟨left, right, parts, compared⟩ := equation_compares_sides_iff implicitMode isReady
  have sides := parts_of_expressions x_is_expression double_is_expression
  rw [parts] at sides
  simp only [List.map_cons, List.map_nil, List.cons.injEq, and_true] at sides
  rw [sides.1, sides.2] at compared
  exact ⟨whole, isReady, compared.mpr (by decide +kernel)⟩

/-- Half of a sum of two groups: the outer parentheses are missing. -/
def splitTokens : List Token :=
  nameTokens "x" ++ unplaced .rightParenthesis ")" :: unplaced .plus "+" ::
    unplaced .leftParenthesis "(" :: nameTokens "y"

theorem lexed_split (depth : Nat) :
    Lexed depth "x) + (y".toList (splitTokens.map Token.sense) := by
  have characters : "x) + (y".toList = ['x', ')', ' ', '+', ' ', '(', 'y'] := by decide +kernel
  rw [characters]
  refine .lexeme (by decide) (by decide)
    (show front 'x' _ = .lexeme .identifier 0 from rfl) ((lexed_close_iff _ _ _).mpr ⟨_, rfl, ?_⟩)
  rw [lexed_blank_iff]
  refine .lexeme (by decide) (by decide) (show front '+' _ = .lexeme .plus 0 from rfl) ?_
  exact (lexed_blank_iff _ _ _).mpr ((lexed_open_iff _ _ _).mpr ⟨_, rfl, lexed_y _⟩)

theorem split_level :
    ∃ formula, Level mostNested sumPrecedence (inParentheses splitTokens) formula ∧
      formula.depth ≤ 4 ∧ formula.firstViolation implicitSymbols = none := by
  obtain ⟨left, leftDerived, leftSmall, leftSafe⟩ :=
    name_level (show "x" ∈ implicitSymbols by decide)
  obtain ⟨right, rightDerived, rightSmall, rightSafe⟩ :=
    name_level (show "y" ∈ implicitSymbols by decide)
  have found : precedence? (unplaced .plus "+").kind = some sumPrecedence := rfl
  have sum := Level.operation (leftDerived.weaken (by decide)) found
    (rightDerived.weaken (by decide))
  refine ⟨_, sum, ?_, safe_binary rfl leftSafe rightSafe⟩
  rw [depth_binary]
  exact Nat.succ_le_succ (Nat.max_le.mpr ⟨leftSmall, rightSmall⟩)

theorem split_is_expression : IsExpression "x) + (y" := by
  obtain ⟨formula, derived, within, safe⟩ := split_level
  exact expression_of_level (by decide +kernel) (by decide +kernel) (lexed_split 1) derived
    (Nat.le_trans within (by decide)) safe

theorem split_fits : Fits "x) + (y" "x" := by
  obtain ⟨left, leftDerived, leftSmall, _⟩ := split_level
  obtain ⟨right, rightDerived, rightSmall, _⟩ := name_level (show "x" ∈ implicitSymbols by decide)
  apply fits_of_levels (lexed_split 1) lexed_x leftDerived (rightDerived.weaken (by decide))
  exact Nat.lt_of_le_of_lt (Nat.max_le.mpr ⟨leftSmall, Nat.le_succ_of_le rightSmall⟩) (by decide)

/-- Parentheses may pair up across the sides: this equation is read as a sum of `x` and a
difference. -/
theorem split_parentheses_accepted :
    (prepare "x) + (y = x").mode = .implicit ∧
      (splitAtEquals (normalize "x) + (y = x").toList).map strip =
        ["x) + (y".toList, "x".toList] ∧
      (∃ whole, (prepare "x) + (y = x").outcome = .ready whole) ∧
      ∀ whole, ¬ComparesSides "x) + (y" "x" whole := by
  obtain ⟨implicitMode, isReady⟩ :=
    relation_of_expressions split_is_expression x_is_expression split_fits (by decide +kernel)
  have sides : side "x) + (y" = "x) + (y".toList ∧ side "x" = "x".toList := by decide +kernel
  have parts := parts_of_expressions split_is_expression x_is_expression
  rw [sides.1, sides.2] at parts
  refine ⟨implicitMode, parts, isReady, ?_⟩
  rintro whole ⟨first, second, isLeft, _⟩
  have balanced := balanced_of_side isLeft
  exact absurd balanced (by decide +kernel)

end Equation

end FormulaPlot
