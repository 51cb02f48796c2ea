import FormulaPlot.Equation.Preparation
import FormulaPlot.Proofs.Equation.Normal
import FormulaPlot.Proofs.Formula.Names
import FormulaPlot.Proofs.Formula.Spelling
import FormulaPlot.Proofs.Formula.Sums

/-!
Expressions as sides of equations: texts that are safe formulas when they are put in parentheses.
What becomes of an expression as a curve, and of two of them as a difference.
-/

namespace FormulaPlot

open FormulaPlot.Formula FormulaPlot.Grammar FormulaPlot.Scanning FormulaPlot.Text

set_option autoImplicit false

namespace Equation

def parenthesized (text : String) : String := "(" ++ text ++ ")"

theorem lexed_parenthesized_iff (text : String) (senses : List Sense) :
    Lexed 0 (parenthesized text).toList senses ↔
      ∃ inner, senses = openSense :: (inner ++ [closeSense]) ∧ Lexed 1 text.toList inner := by
  have shape : (parenthesized text).toList = '(' :: (text.toList ++ ')' :: []) := by
    simp [parenthesized, String.toList_append]
  rw [shape, lexed_group_iff]
  constructor
  · rintro ⟨inner, others, rfl, lexed, nothing⟩
    rw [nothing.of_nil]
    exact ⟨inner, rfl, lexed⟩
  · rintro ⟨inner, rfl, lexed⟩
    exact ⟨inner, [], rfl, lexed, .nothing⟩

theorem tokens_of_parenthesized {text : String} {tokens : List Token}
    (lexed : Lexed 0 (parenthesized text).toList (tokens.map Token.sense)) :
    ∃ opening inner closing, tokens = opening :: (inner ++ [closing]) ∧
      opening.sense = openSense ∧ closing.sense = closeSense ∧
      Lexed 1 text.toList (inner.map Token.sense) := by
  obtain ⟨senses, parted, lexedInner⟩ := (lexed_parenthesized_iff _ _).mp lexed
  obtain ⟨opening, rest, rfl, opens, parted⟩ := List.map_eq_cons_iff.mp parted
  obtain ⟨inner, closing, nothing, rfl, rfl, closes, parted⟩ := map_eq_around parted
  rw [List.map_eq_nil_iff.mp parted]
  exact ⟨opening, inner, closing, rfl, opens, closes, lexedInner⟩

theorem no_separator_of_open {opening : Token} (opens : opening.sense = openSense) :
    ¬opening.kind.isSeparator = true := by
  simp [kind_of_exact_sense opens rfl, TokenKind.isSeparator]

theorem lexed_difference_iff (left right : String) (senses : List Sense) :
    Lexed 0 (difference left right).toList senses ↔
      ∃ first second,
        senses = openSense :: (first ++ closeSense :: minusSense :: openSense ::
          (second ++ [closeSense])) ∧
        Lexed 1 left.toList first ∧
        Lexed (deepened 1 first - 1 + 1) right.toList second := by
  have shape : (difference left right).toList =
      '(' :: (left.toList ++ ')' :: ' ' :: '-' :: ' ' :: '(' :: (right.toList ++ ')' :: [])) := by
    simp [difference, String.toList_append]
  rw [shape, lexed_group_iff]
  simp only [lexed_blank_iff, lexed_minus_iff, lexed_group_iff]
  constructor
  · rintro ⟨first, others, rfl, lexedLeft, rest, rfl, second, last, rfl, lexedRight, nothing⟩
    rw [nothing.of_nil]
    exact ⟨first, second, rfl, lexedLeft, lexedRight⟩
  · rintro ⟨first, second, rfl, lexedLeft, lexedRight⟩
    exact ⟨first, _, rfl, lexedLeft, _, rfl, second, [], rfl, lexedRight, .nothing⟩

/-- The tokens of a difference: those of both sides, in parentheses. -/
theorem tokens_of_difference {left right : String} {tokens : List Token}
    (lexed : Lexed 0 (difference left right).toList (tokens.map Token.sense)) :
    ∃ opening first closing sign again second last,
      tokens = opening :: (first ++ closing :: sign :: again :: (second ++ [last])) ∧
        opening.sense = openSense ∧ closing.sense = closeSense ∧ sign.sense = minusSense ∧
        again.sense = openSense ∧ last.sense = closeSense ∧
        Lexed 1 left.toList (first.map Token.sense) ∧
        Lexed (deepened 1 (first.map Token.sense) - 1 + 1) right.toList
          (second.map Token.sense) := by
  obtain ⟨firstSenses, secondSenses, senses, lexedLeft, lexedRight⟩ :=
    (lexed_difference_iff _ _ _).mp lexed
  obtain ⟨opening, rest, rfl, opens, senses⟩ := List.map_eq_cons_iff.mp senses
  obtain ⟨first, closing, rest, rfl, rfl, closes, senses⟩ := map_eq_around senses
  obtain ⟨sign, rest, rfl, isMinus, senses⟩ := List.map_eq_cons_iff.mp senses
  obtain ⟨again, rest, rfl, reopens, senses⟩ := List.map_eq_cons_iff.mp senses
  obtain ⟨second, last, nothing, rfl, rfl, ends, senses⟩ := map_eq_around senses
  rw [List.map_eq_nil_iff.mp senses]
  exact ⟨opening, first, closing, sign, again, second, last, rfl, opens, closes, isMinus, reopens,
    ends, lexedLeft, lexedRight⟩

theorem evaluator_eq_ok_iff (mode : Mode) (text : String) (made : Evaluator Span) :
    evaluator mode text = .ok made ↔
      ∃ formula, Formula.read text = .ok formula ∧ formula.firstViolation mode.symbols = none ∧
        Evaluator.ofFormula formula mode.inputs = .ok made := by
  unfold evaluator
  cases spelled : Formula.read text with
  | error problem => simp
  | ok formula =>
      cases found : formula.firstViolation mode.symbols with
      | some violation => simp [found]
      | none =>
          cases result : Evaluator.ofFormula formula mode.inputs with
          | error violation => simp [found, result, map_error_error]
          | ok other => simp [found, result, map_error_ok]

theorem evaluator_of_formula_iff {formula : Formula Span} {inputs : List String}
    {made : Evaluator Span} :
    Evaluator.ofFormula formula inputs = .ok made ↔
      ∃ program, formula.resolve inputs = .ok program ∧ made = ⟨formula, inputs, program⟩ := by
  unfold Evaluator.ofFormula
  cases formula.resolve inputs with
  | error found => simp [Except.map]
  | ok program => simp [Except.map, eq_comm]

theorem evaluator_of_safe {mode : Mode} {text : String} {formula : Formula Span}
    (spelled : Formula.read text = .ok formula)
    (safe : formula.firstViolation mode.symbols = none) :
    ∃ made, evaluator mode text = .ok made := by
  have covered : ∀ name ∈ mode.symbols, name ∈ mode.inputs ∨ name = "pi" ∨ name = "e" := by
    cases mode <;> decide
  obtain ⟨program, resolved, _⟩ := resolve_of_accepted covered formula safe
  refine ⟨⟨formula, mode.inputs, program⟩, ?_⟩
  rw [evaluator_eq_ok_iff]
  exact ⟨formula, spelled, safe, evaluator_of_formula_iff.mpr ⟨program, resolved, rfl⟩⟩

theorem names_known {mode : Mode} {formula : Formula Span}
    (safe : formula.firstViolation mode.symbols = none) :
    ∀ name ∈ formula.names, name ∈ vocabulary := by
  have covered : ∀ name ∈ mode.symbols, name ∈ implicitSymbols := by cases mode <;> decide
  exact names_in_vocabulary covered formula safe

/-- Curves are ready when they can be read and are safe. -/
theorem explicit_ready_iff (text : String) :
    (prepareExplicit text).isReady = true ↔
      ∃ formula, Formula.read text = .ok formula ∧
        formula.firstViolation explicitSymbols = none := by
  rw [prepare_explicit_def]
  unfold evaluatorWithLatex
  cases made : evaluator .explicit text with
  | error problem =>
      simp only [Prepared.isReady, Bool.false_eq_true, false_iff]
      rintro ⟨formula, spelled, safe⟩
      obtain ⟨other, again⟩ : ∃ made, evaluator .explicit text = .ok made :=
        evaluator_of_safe spelled safe
      simp [made] at again
  | ok found =>
      obtain ⟨formula, spelled, safe, evaluated⟩ := (evaluator_eq_ok_iff _ _ _).mp made
      obtain ⟨program, _, rfl⟩ := evaluator_of_formula_iff.mp evaluated
      obtain ⟨latex, typeset⟩ := typeset_of_accepted formula safe false
      have written : formula.typeset = .ok latex := typeset
      simp only [written, Prepared.isReady, true_iff]
      exact ⟨formula, spelled, safe⟩

theorem relation_ready_iff (text left right : String) :
    (prepareImplicit text left right).isReady = true ↔
      ∃ formula, Formula.read (difference left right) = .ok formula ∧
        formula.firstViolation implicitSymbols = none := by
  rw [prepare_implicit_def]
  cases made : evaluator .implicit (difference left right) with
  | error problem =>
      simp only [Prepared.isReady, Bool.false_eq_true, false_iff]
      rintro ⟨formula, spelled, safe⟩
      obtain ⟨other, again⟩ : ∃ made, evaluator .implicit (difference left right) = .ok made :=
        evaluator_of_safe spelled safe
      simp [made] at again
  | ok found =>
      obtain ⟨formula, spelled, safe, _⟩ := (evaluator_eq_ok_iff _ _ _).mp made
      simp only [Prepared.isReady, true_iff]
      exact ⟨formula, spelled, safe⟩

theorem explicit_mode (text : String) : (prepareExplicit text).mode = .explicit := by
  rw [prepare_explicit_def]
  cases evaluatorWithLatex .explicit text with
  | error problem => rfl
  | ok made => rfl

theorem relation_mode (text left right : String) :
    (prepareImplicit text left right).mode = .implicit := by
  rw [prepare_implicit_def]
  cases evaluator .implicit (difference left right) with
  | error problem => rfl
  | ok made => rfl

theorem ready_of_is_ready {prepared : Prepared} (isReady : prepared.isReady = true) :
    ∃ whole, prepared.outcome = .ready whole := by
  unfold Prepared.isReady at isReady
  split at isReady
  · rename_i whole outcome
    exact ⟨whole, outcome⟩
  · simp at isReady

/-- A line that is a safe formula of two variables when it is put in parentheses. -/
structure IsExpression (text : String) : Prop where
  oneLine : '\n' ∉ text.toList
  noEquals : '=' ∉ text.toList
  safe : ∃ formula, Formula.read (parenthesized text) = .ok formula ∧
    formula.firstViolation implicitSymbols = none

/-- A text is not refused for what is nested in it. -/
def NotTooDeep (text : String) : Prop :=
  ∀ fault, Formula.read text = .error (.syntactic fault) → fault.code ≠ "E104"

/-- The difference of two texts is not too deep. -/
def Fits (left right : String) : Prop := NotTooDeep (difference left right)

/-- The tokens of an expression, its own parentheses around them. -/
structure Spelled (text : String) where
  opening : Token
  tokens : List Token
  closing : Token
  formula : Formula Span
  opens : opening.sense = openSense
  closes : closing.sense = closeSense
  lexed : ∀ depth, Lexed depth text.toList (tokens.map Token.sense)
  derived : Body mostNested (opening :: (tokens ++ [closing])) formula
  within : formula.depth ≤ greatestDepth
  safe : formula.firstViolation implicitSymbols = none

theorem IsExpression.spelled {text : String} (expression : IsExpression text) :
    Nonempty (Spelled text) := by
  obtain ⟨formula, spelled, safe⟩ := expression.safe
  obtain ⟨tokens, lexed, derived, within⟩ := tokens_of_read spelled
  obtain ⟨opening, inner, closing, rfl, opens, closes, lexedInner⟩ := tokens_of_parenthesized lexed
  exact ⟨⟨opening, inner, closing, formula, opens, closes,
    fun depth => lexedInner.at_depth expression.oneLine depth, derived, within, safe⟩⟩

namespace Spelled

variable {text : String} (spelled : Spelled text)

theorem names : identifiers spelled.tokens = spelled.formula.names := by
  rw [← spelled.derived.names]
  exact (identifiers_within (kind_of_exact_sense spelled.opens rfl)
    (kind_of_exact_sense spelled.closes rfl) (by decide) spelled.tokens).symm

theorem no_ln : (.identifier, "ln") ∉ spelled.tokens.map Token.sense := by
  rw [← mem_identifiers_iff, spelled.names]
  intro member
  rcases known_of_accepted spelled.formula spelled.safe "ln" member with isSymbol | isFunction
  · exact absurd isSymbol (by decide)
  · exact absurd isFunction (by decide)

theorem level : Level mostNested sumPrecedence
    (spelled.opening :: (spelled.tokens ++ [spelled.closing])) spelled.formula :=
  spelled.derived.sum (no_separator_of_open spelled.opens) spelled.safe

/-- There are tokens between the parentheses. -/
theorem present : spelled.tokens ≠ [] := by
  intro none
  have derived := spelled.derived
  rw [none, List.nil_append] at derived
  obtain ⟨result, read⟩ :=
    binary_of_body ⟨.start, .start⟩ derived (no_separator_of_open spelled.opens)
  have roomy : mostNested = 47 + 1 := rfl
  rw [roomy] at read
  have opens := kind_of_exact_sense spelled.opens rfl
  obtain ⟨used, last, behind, inner, parted, _, statement⟩ := leading_group opens read
  obtain ⟨first, rest, rfl, _⟩ := statement.no_separator_first
  simp at parted

include spelled in
theorem side_present (oneLine : '\n' ∉ text.toList) : side text ≠ [] := by
  intro none
  have lexed := lexed_side (spelled.lexed 0) oneLine
  rw [none] at lexed
  exact spelled.present (List.map_eq_nil_iff.mp lexed.of_nil)

theorem balanced_iff : Balanced text.toList ↔ BalancedTokens spelled.tokens := by
  unfold Balanced BalancedTokens
  rw [unclosed_of_lexed (spelled.lexed 0)]

/-- When its parentheses pair up, the expression is a statement by itself. -/
theorem statement_of_balanced (balanced : Balanced text.toList) :
    ∃ inner, Statement mostNested spelled.tokens inner ∧ inner.names = spelled.formula.names ∧
      inner.depth ≤ greatestDepth ∧ inner.firstViolation implicitSymbols = none := by
  have roomy : mostNested = 47 + 1 := rfl
  have opens := kind_of_exact_sense spelled.opens rfl
  have closes := kind_of_exact_sense spelled.closes rfl
  obtain ⟨result, read⟩ :=
    binary_of_body ⟨.start, .start⟩ spelled.derived (no_separator_of_open spelled.opens)
  rw [roomy] at read
  obtain ⟨inner, statement⟩ :=
    balanced_leading_group opens closes (spelled.balanced_iff.mp balanced) read
  have grouped := (Primary.group opens statement closes).level (Nat.zero_le _)
  have same := spelled.derived.unique grouped.body rfl
  have within := spelled.within
  have safe := spelled.safe
  rw [same] at within safe
  have deep := ((depth_le_iff _ _).mp within).2 inner (by simp [children])
  have parts := ((accepted_iff _).mp safe).2 inner (by simp [children])
  refine ⟨inner, statement.widen (Nat.le_succ 47), ?_, Nat.le_of_succ_le deep, parts⟩
  rw [same, Formula.names]

theorem narrow_iff {formula : Formula Span}
    (safe : formula.firstViolation implicitSymbols = none) :
    formula.firstViolation explicitSymbols = none ↔ "y" ∉ formula.names := by
  have apart : ∀ name ∈ implicitSymbols, ElementaryFunction.ofName? name = none := by decide
  have needed : ∀ name ∈ implicitSymbols, name ∈ explicitSymbols ↔ name ≠ "y" := by decide
  rw [accepted_narrow_iff apart formula safe]
  constructor
  · intro narrow inside
    have isSymbol : "y" ∈ implicitSymbols := by decide
    exact (needed "y" isSymbol).mp (narrow "y" inside isSymbol) rfl
  · intro none name inside isSymbol
    apply (needed name isSymbol).mpr
    rintro rfl
    exact none inside

/-- As a curve the side of an expression is ready when it is balanced and has no `y`. -/
theorem curve_ready_iff (oneLine : '\n' ∉ text.toList) :
    (prepareExplicit (String.ofList (side text))).isReady = true ↔
      Balanced text.toList ∧ "y" ∉ identifiers spelled.tokens := by
  have lexedSide : Lexed 0 (String.ofList (side text)).toList
      (spelled.tokens.map Token.sense) := by
    rw [String.toList_ofList]
    exact lexed_side (spelled.lexed 0) oneLine
  rw [explicit_ready_iff]
  constructor
  · rintro ⟨formula, read, safe⟩
    obtain ⟨tokens, lexed, derived, _⟩ := tokens_of_read read
    have same := lexed.unique lexedSide
    constructor
    · rw [spelled.balanced_iff, BalancedTokens, ← same]
      exact derived.paired.parentheses 0
    · rw [mem_identifiers_iff, ← same, ← mem_identifiers_iff, derived.names]
      intro inside
      rcases known_of_accepted formula safe "y" inside with isSymbol | isFunction
      · exact absurd isSymbol (by decide)
      · exact absurd isFunction (by decide)
  · rintro ⟨balanced, noY⟩
    obtain ⟨inner, statement, same, within, safe⟩ := spelled.statement_of_balanced balanced
    rw [spelled.names, ← same] at noY
    have nothing : Separators [] := by simp [Separators]
    obtain ⟨formula, read, alike⟩ :=
      read_of_derived lexedSide (.statement nothing statement) within
    refine ⟨formula, read, ?_⟩
    exact (accepted_of_bare alike).mpr ((narrow_iff safe).mpr noY)

end Spelled

theorem depth_of_fits {text : String} {tokens : List Token} {formula : Formula Span}
    (lexed : Lexed 0 text.toList (tokens.map Token.sense))
    (derived : Body mostNested tokens formula) (fits : NotTooDeep text) :
    formula.depth ≤ greatestDepth := by
  obtain ⟨others, tokenized, same⟩ := tokens_of_lexed lexed
  obtain ⟨another, again, equal⟩ := derived.alike same.symm
  have refused : ∀ fault, ofTokens others = .error fault → fault.code ≠ "E104" := by
    intro fault found
    apply fits fault
    rw [Formula.read, tokenized]
    dsimp only
    rw [found]
    rfl
  rw [← depth_of_bare equal]
  apply Nat.le_of_not_lt
  intro deep
  by_cases exhausted : Exhausted others
  · exact refused .exhausted exhausted rfl
  · have read : ofTokens others = .error (.tooDeep another.place) := by
      rw [of_tokens_reached exhausted, again.read]
      exact if_pos deep
    exact refused (.tooDeep another.place) read rfl

def unplaced (kind : TokenKind) (lexeme : String) : Token := ⟨kind, lexeme, ⟨.start, .start⟩⟩

theorem lexed_difference {left right : String} (first : Spelled left) (second : Spelled right)
    {starts ends : List Char}
    (lexedLeft : ∀ depth, Lexed depth starts (first.tokens.map Token.sense))
    (lexedRight : ∀ depth, Lexed depth ends (second.tokens.map Token.sense)) :
    Lexed 0 (difference (String.ofList starts) (String.ofList ends)).toList
      (((first.opening :: (first.tokens ++ [first.closing])) ++
        unplaced .minus "-" :: (second.opening :: (second.tokens ++ [second.closing]))).map
          Token.sense) := by
  rw [lexed_difference_iff, String.toList_ofList, String.toList_ofList]
  refine ⟨_, _, ?_, lexedLeft 1, lexedRight _⟩
  simp [first.opens, first.closes, second.opens, second.closes]
  rfl

/-- A difference of expressions that is not too deep is safe however it is read. -/
theorem relation_ready {left right : String} (first : Spelled left) (second : Spelled right)
    (oneLine : '\n' ∉ left.toList ∧ '\n' ∉ right.toList) (fits : Fits left right)
    (text : String) :
    (prepareImplicit text (String.ofList (side left)) (String.ofList (side right))).isReady =
      true := by
  have isMinus : (unplaced .minus "-").kind = .minus := rfl
  obtain ⟨formula, derived, safe⟩ :=
    first.level.difference rfl isMinus first.safe second.level second.safe
  have written := lexed_difference first second first.lexed second.lexed
  rw [String.ofList_toList, String.ofList_toList] at written
  have within := depth_of_fits written derived.body fits
  have prepared := lexed_difference first second
    (fun depth => lexed_side (first.lexed depth) oneLine.1)
    (fun depth => lexed_side (second.lexed depth) oneLine.2)
  obtain ⟨another, read, alike⟩ := read_of_derived prepared derived.body within
  rw [relation_ready_iff]
  exact ⟨another, read, (accepted_of_bare alike).mpr safe⟩

theorem parts_of_expressions {left right : String} (first : IsExpression left)
    (second : IsExpression right) :
    (splitAtEquals (normalize (left ++ " = " ++ right)).toList).map strip =
      [side left, side right] := by
  obtain ⟨leftSpelled⟩ := first.spelled
  obtain ⟨rightSpelled⟩ := second.spelled
  obtain ⟨start, rest, parts, leftSide, rightSide⟩ :=
    parts_of_equation ⟨first.oneLine, second.oneLine⟩ ⟨first.noEquals, second.noEquals⟩
      (leftSpelled.lexed 0) rightSpelled.lexed ⟨leftSpelled.no_ln, rightSpelled.no_ln⟩
  rw [parts, List.map_cons, List.map_singleton, leftSide, rightSide]

theorem prepare_equation {left right : String} (first : IsExpression left)
    (second : IsExpression right) :
    ∃ text, prepare (left ++ " = " ++ right) = prepareSides text (side left) (side right) := by
  have parts := parts_of_expressions first second
  obtain ⟨start, others, split, leftSide, parts⟩ := List.map_eq_cons_iff.mp parts
  obtain ⟨rest, nothing, rfl, rightSide, none⟩ := List.map_eq_cons_iff.mp parts
  rw [List.map_eq_nil_iff.mp none] at split
  refine ⟨normalize (left ++ " = " ++ right), ?_⟩
  have someText : ¬(normalize (left ++ " = " ++ right)).isEmpty = true := by
    intro empty
    rw [String.isEmpty_iff.mp empty] at split
    simp [splitAtEquals] at split
  rw [prepare_def]
  rw [if_neg someText, split]
  simp only [leftSide, rightSide]

def inParentheses (tokens : List Token) : List Token :=
  unplaced .leftParenthesis "(" :: (tokens ++ [unplaced .rightParenthesis ")"])

theorem expression_of_level {text : String} {tokens : List Token} {formula : Formula Span}
    {level : Nat} (oneLine : '\n' ∉ text.toList) (noEquals : '=' ∉ text.toList)
    (lexed : Lexed 1 text.toList (tokens.map Token.sense))
    (derived : Level mostNested level (inParentheses tokens) formula)
    (within : formula.depth ≤ greatestDepth)
    (safe : formula.firstViolation implicitSymbols = none) : IsExpression text := by
  have senses : (inParentheses tokens).map Token.sense =
      openSense :: (tokens.map Token.sense ++ [closeSense]) := by
    simp [inParentheses, Token.sense, unplaced, senseOf, TokenKind.isPower, openSense, closeSense]
  have whole : Lexed 0 (parenthesized text).toList ((inParentheses tokens).map Token.sense) :=
    (lexed_parenthesized_iff _ _).mpr ⟨_, senses, lexed⟩
  obtain ⟨another, read, alike⟩ := read_of_derived whole derived.body within
  exact ⟨oneLine, noEquals, another, read, (accepted_of_bare alike).mpr safe⟩

/-- Two expressions fit together when their trees are not too deep. -/
theorem fits_of_levels {left right : String} {tokens others : List Token}
    {first second : Formula Span} (lexedLeft : Lexed 1 left.toList (tokens.map Token.sense))
    (lexedRight : ∀ depth, Lexed depth right.toList (others.map Token.sense))
    (leftDerived : Level mostNested sumPrecedence (inParentheses tokens) first)
    (rightDerived : Level mostNested (sumPrecedence + 1) (inParentheses others) second)
    (within : max first.depth second.depth < greatestDepth) : Fits left right := by
  have found : precedence? (unplaced .minus "-").kind = some sumPrecedence := rfl
  have whole := Level.operation leftDerived found rightDerived
  have senses : (inParentheses tokens ++ unplaced .minus "-" :: inParentheses others).map
      Token.sense = openSense :: (tokens.map Token.sense ++ closeSense :: minusSense ::
        openSense :: (others.map Token.sense ++ [closeSense])) := by
    simp [inParentheses, Token.sense, unplaced, senseOf, TokenKind.isPower, openSense, closeSense,
      minusSense]
  have lexed : Lexed 0 (difference left right).toList
      ((inParentheses tokens ++ unplaced .minus "-" :: inParentheses others).map Token.sense) :=
    (lexed_difference_iff _ _ _).mpr ⟨_, _, senses, lexedLeft, lexedRight _⟩
  have shallow : (binary (first.place.through second.place) (unplaced .minus "-").kind first
      second).depth ≤ greatestDepth := by
    rw [depth_binary]
    exact within
  obtain ⟨formula, read, _⟩ := read_of_derived lexed whole.body shallow
  intro fault refused
  rw [read] at refused
  contradiction


def nameTokens (name : String) : List Token := [unplaced .identifier name]

/-- Twice `y`, written without a sign. -/
def doubleTokens : List Token := unplaced .number "2" :: nameTokens "y"

theorem name_level {name : String} (isSymbol : name ∈ implicitSymbols) :
    ∃ formula, Level mostNested (productPrecedence + 1) (inParentheses (nameTokens name)) formula ∧
      formula.depth ≤ 3 ∧ formula.firstViolation implicitSymbols = none := by
  have token : Primary 46 (nameTokens name) _ := .name rfl
  have inner := Statement.range (.single (token.level (Nat.zero_le _)))
  have group : Primary 47 (inParentheses (nameTokens name)) _ := .group rfl inner rfl
  refine ⟨_, group.level (Nat.le_refl _), ?_, ?_⟩
  · rw [depth_group, depth_leaf rfl]
    decide
  · simp [first_violation_none_iff, walk_eq, children, violation?, unplaced, isSymbol]

theorem double_level :
    ∃ formula, Level mostNested (productPrecedence + 1) (inParentheses doubleTokens) formula ∧
      formula.depth ≤ 3 ∧ formula.firstViolation implicitSymbols = none := by
  have two : Primary 46 [unplaced .number "2"] _ := .number rfl
  have name : Power 47 (nameTokens "y") _ := .base (.primary (.name rfl))
  have product := Level.product (two.level (Nat.le_succ productPrecedence)) name rfl (by decide)
  have inner := Statement.range (.single (product.weaken (Nat.zero_le _)))
  have group : Primary 47 (inParentheses doubleTokens) _ := .group rfl inner rfl
  refine ⟨_, group.level (Nat.le_refl _), ?_, ?_⟩
  · rw [depth_group, depth_binary, depth_leaf rfl, depth_leaf rfl]
    decide
  · simp [first_violation_none_iff, walk_eq, children, violation?, TokenKind.isArithmetic,
      implicitSymbols, unplaced]

theorem lexed_x (depth : Nat) : Lexed depth "x".toList ((nameTokens "x").map Token.sense) :=
  .lexeme (by decide) (by decide) (show front 'x' [] = .lexeme .identifier 0 from rfl) .nothing

theorem lexed_y (depth : Nat) : Lexed depth "y".toList ((nameTokens "y").map Token.sense) :=
  .lexeme (by decide) (by decide) (show front 'y' [] = .lexeme .identifier 0 from rfl) .nothing

theorem lexed_double (depth : Nat) : Lexed depth "2y".toList (doubleTokens.map Token.sense) :=
  .lexeme (by decide) (by decide) (show front '2' ['y'] = .lexeme .number 0 from rfl)
    (lexed_y depth)

theorem x_is_expression : IsExpression "x" := by
  obtain ⟨formula, derived, within, safe⟩ := name_level (show "x" ∈ implicitSymbols by decide)
  exact expression_of_level (by decide +kernel) (by decide +kernel) (lexed_x 1) derived
    (Nat.le_trans within (by decide)) safe

theorem y_is_expression : IsExpression "y" := by
  obtain ⟨formula, derived, within, safe⟩ := name_level (show "y" ∈ implicitSymbols by decide)
  exact expression_of_level (by decide +kernel) (by decide +kernel) (lexed_y 1) derived
    (Nat.le_trans within (by decide)) safe

theorem double_is_expression : IsExpression "2y" := by
  obtain ⟨formula, derived, within, safe⟩ := double_level
  exact expression_of_level (by decide +kernel) (by decide +kernel) (lexed_double 1) derived
    (Nat.le_trans within (by decide)) safe

theorem line_fits : Fits "x" "2y" := by
  obtain ⟨left, leftDerived, leftSmall, _⟩ := name_level (show "x" ∈ implicitSymbols by decide)
  obtain ⟨right, rightDerived, rightSmall, _⟩ := double_level
  apply fits_of_levels (lexed_x 1) lexed_double (leftDerived.weaken (by decide))
    (rightDerived.weaken (by decide))
  exact Nat.lt_of_le_of_lt (Nat.max_le.mpr ⟨leftSmall, rightSmall⟩) (by decide)

theorem double_fits : Fits "y" "2y" := by
  obtain ⟨left, leftDerived, leftSmall, _⟩ := name_level (show "y" ∈ implicitSymbols by decide)
  obtain ⟨right, rightDerived, rightSmall, _⟩ := double_level
  apply fits_of_levels (lexed_y 1) lexed_double (leftDerived.weaken (by decide))
    (rightDerived.weaken (by decide))
  exact Nat.lt_of_le_of_lt (Nat.max_le.mpr ⟨leftSmall, rightSmall⟩) (by decide)

end Equation

end FormulaPlot
