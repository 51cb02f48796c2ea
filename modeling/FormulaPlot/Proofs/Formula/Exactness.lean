import FormulaPlot.Proofs.Formula.Calls
import FormulaPlot.Proofs.Formula.Factors
import FormulaPlot.Proofs.Formula.Parts
import FormulaPlot.Proofs.Formula.Places

/-!
A text is read exactly when the grammar derives its tokens within the two limits, and then as the
only tree that the grammar derives from them. The stack reaches for each of these trees. What it
does not reach for is refused in any case, but of a well-formed text that is too deep it is then
not found out that it is, since the depth of a tree is only looked at when the tree is there.
-/

namespace FormulaPlot.Grammar

open FormulaPlot.Formula

set_option autoImplicit false

/-- Reading a text takes more calls than the stack has room for. -/
def Exhausted (tokens : List Token) : Prop := ofTokens tokens = .error .exhausted

/-- No reading runs out of calls on its own account. -/
theorem exhausted_iff (tokens : List Token) : Exhausted tokens ↔ mostCalls < textCalls tokens := by
  rw [Exhausted, of_tokens_eq]
  constructor
  · intro refused
    split at refused
    · assumption
    · rcases bind_eq_error_iff.mp refused with found | ⟨formula, found, deep⟩
      · exact (body_blames _ found).elim
      · split at deep
        · injection deep with same
          contradiction
        · contradiction
  · exact fun many => if_pos many

theorem of_tokens_reached {tokens : List Token} (reached : ¬Exhausted tokens) :
    ofTokens tokens =
      (readBody (textEnd tokens) (beforeEnd tokens)).bind fun formula =>
        if greatestDepth < formula.depth then .error (.tooDeep formula.place)
        else .ok formula := by
  rw [exhausted_iff] at reached
  rw [of_tokens_eq, if_neg reached]

section Reached

variable {room : Nat} {tokens : List Token} {formula : Formula Span}

theorem Body.not_exhausted (derived : Body room (beforeEnd tokens) formula)
    (small : formula.depth ≤ greatestDepth) : ¬Exhausted tokens := by
  have few := (derived.calls_le (textEnd tokens)).1
  have reach : 4 * mostNested + 3 * greatestDepth + 6 ≤ mostCalls := by decide
  rw [exhausted_iff, textCalls]
  omega

theorem Body.not_exhausted_of_alone (derived : Body room (beforeEnd tokens) formula)
    (alone : ∀ enclosure ∈ nesting (beforeEnd tokens), enclosure.factors = 0) :
    ¬Exhausted tokens := by
  have few := (derived.calls_le (textEnd tokens)).2 (derived.products_le alone)
  have reach : 10 * mostNested + 12 ≤ mostCalls := by decide
  rw [exhausted_iff, textCalls]
  omega

/-- As far as the stack reaches, a well-formed text is read, or it is nested too deeply. -/
theorem Body.of_tokens_cramped (derived : Body room (beforeEnd tokens) formula)
    (reached : ¬Exhausted tokens) : Cramped (ofTokens tokens) (.ok formula) := by
  rw [of_tokens_reached reached]
  apply (derived.cramped (textEnd tokens)).bind_ok
  split
  · exact cramped_deep _ _
  · exact cramped_same _

end Reached

theorem of_tokens_eq_ok_iff (tokens : List Token) (formula : Formula Span) :
    ofTokens tokens = .ok formula ↔
      Body mostNested (beforeEnd tokens) formula ∧ formula.depth ≤ greatestDepth := by
  constructor
  · intro read
    rw [of_tokens_eq] at read
    split at read
    · contradiction
    · obtain ⟨another, bodyRead, small⟩ := bind_eq_ok_iff.mp read
      split at small
      · contradiction
      · next within =>
          injection small with same
          rw [← same]
          exact ⟨body_of_read bodyRead, Nat.le_of_not_lt within⟩
  · rintro ⟨derived, small⟩
    rw [of_tokens_reached (derived.not_exhausted small), derived.read]
    exact if_neg (Nat.not_lt_of_le small)

/-- The trees that are read from a list of tokens are those that the grammar derives from them
within both limits; there is at most one, and without one the tokens are refused. They are refused
with a fault of their own, unless too many calls are nested in each other: of well-formed tokens
this is so only where the tree is too deep. -/
structure ReadExactly (tokens : List Token) : Prop where
  accepted : ∀ tree : Formula Unit,
    (∃ formula, ofTokens tokens = .ok formula ∧ formula.bare = tree) ↔
      ∃ formula, Body mostNested (beforeEnd tokens) formula ∧
        formula.depth ≤ greatestDepth ∧ formula.bare = tree
  unambiguous : ∀ room other first second, Body room (beforeEnd tokens) first →
    Body other (beforeEnd tokens) second → first = second
  refused : (¬∃ formula, Body mostNested (beforeEnd tokens) formula ∧
      formula.depth ≤ greatestDepth) →
    ∃ fault, ofTokens tokens = .error fault ∧
      (fault = .exhausted ↔ mostCalls < textCalls tokens)
  overlooked : ∀ room formula, Body room (beforeEnd tokens) formula →
    mostCalls < textCalls tokens → greatestDepth < formula.depth

theorem of_tokens_exact (tokens : List Token) : ReadExactly tokens where
  accepted tree := by simp only [of_tokens_eq_ok_iff, and_assoc]
  unambiguous room other first second derived another := derived.unique another rfl
  refused none := by
    cases read : ofTokens tokens with
    | ok formula => exact absurd ⟨formula, (of_tokens_eq_ok_iff tokens formula).mp read⟩ none
    | error fault =>
        refine ⟨fault, rfl, ?_⟩
        rw [← exhausted_iff, Exhausted, read, Except.error.injEq]
  overlooked room formula derived many := by
    apply Nat.lt_of_not_le
    intro small
    exact derived.not_exhausted small ((exhausted_iff tokens).mpr many)

section Factors

def spanOfColumn (column : Nat) : Span :=
  ⟨⟨1, column + 1, column⟩, ⟨1, column + 2, column + 1⟩⟩

def nameAt (column : Nat) : Token := ⟨.identifier, "x", spanOfColumn column⟩

/-- A name in groups, each of them behind a number. -/
def factorsAt (column : Nat) : Nat → List Token
  | 0 => [nameAt column]
  | count + 1 =>
      ⟨.number, "2", spanOfColumn column⟩ ::
        ⟨.leftParenthesis, "(", spanOfColumn (column + 1)⟩ ::
          (factorsAt (column + 2) count ++
            [⟨.rightParenthesis, ")", spanOfColumn (column + 3 * count + 3)⟩])

/-- The tokens of a text of such groups. -/
def nestedFactors (count : Nat) : List Token :=
  factorsAt 0 count ++
    [⟨.endOfText, "", ⟨(spanOfColumn (3 * count)).stop, (spanOfColumn (3 * count)).stop⟩⟩]

example : tokenize "2(2(x))" = .ok (nestedFactors 2) := by decide +kernel

/-- No group takes a level of nesting, but each takes two nodes. -/
theorem factors_derived (room column count : Nat) :
    ∃ formula, Level (room + 1) productPrecedence (factorsAt column count) formula ∧
      formula.depth = 2 * count + 1 := by
  induction count generalizing column with
  | zero =>
      have name : Primary room (factorsAt column 0) _ := .name rfl
      exact ⟨_, .tighter (.operand (by decide) (.power (.base (.primary name)))), depth_leaf rfl⟩
  | succ count induction =>
      obtain ⟨inner, derived, depth⟩ := induction (column + 2)
      have number : Level (room + 1) productPrecedence
          [⟨.number, "2", spanOfColumn column⟩] _ :=
        .tighter (.operand (by decide) (.power (.base (.primary (.number rfl)))))
      have group : Primary (room + 1)
          (⟨.leftParenthesis, "(", spanOfColumn (column + 1)⟩ ::
            (factorsAt (column + 2) count ++
              [⟨.rightParenthesis, ")", spanOfColumn (column + 3 * count + 3)⟩])) _ :=
        .group rfl derived.statement rfl
      refine ⟨_, .product number (.base (.primary group)) rfl (fun both => ?_), ?_⟩
      · exact absurd both.2 Bool.false_ne_true
      · rw [depth_binary, depth_group, depth, depth_leaf rfl]
        omega

theorem binary_calls_lt_assignment (finish : Span) (room : Nat) (tokens : List Token) :
    2 + binaryCalls finish room 0 tokens ≤ assignmentCalls finish room tokens := by
  rw [assignmentCalls, rangeCalls]
  omega

/-- A group behind a number stays open in six calls while the operand in it is read. -/
theorem binary_calls_factor (finish : Span) (room : Nat) {number opening : Token}
    (isNumber : number.kind = .number) (opens : opening.kind = .leftParenthesis)
    (behind : List Token) :
    6 + binaryCalls finish (room + 1) 0 behind ≤
      binaryCalls finish (room + 1) 0 (number :: opening :: behind) := by
  have operand : Operand (room + 1) [number] _ := .power (.base (.primary (.number isNumber)))
  have closed : Closed (.constant number.span number.number number.lexeme)
      (opening :: behind) := by
    rw [Closed, opens]
    rfl
  have inner := binary_calls_lt_assignment finish (room + 1) behind
  have primary : 1 + assignmentCalls finish (room + 1) behind =
      primaryCalls finish (room + 1) (opening :: behind) := by
    rw [primaryCalls, opens]
  have power : 2 + primaryCalls finish (room + 1) (opening :: behind) ≤
      powerCalls finish (room + 1) (opening :: behind) := by
    rw [powerCalls, postfixCalls]
    omega
  have operators : powerCalls finish (room + 1) (opening :: behind) ≤
      operatorsCalls finish (room + 1) 0 (opening :: behind) := by
    rw [operatorsCalls, opens]
    exact Nat.le_max_left _ _
  have binary : 1 + operatorsCalls finish (room + 1) 0 (opening :: behind) ≤
      binaryCalls finish (room + 1) 0 ([number] ++ opening :: behind) := by
    rw [binaryCalls, calls_behind_ok (Operand.read finish (opening :: behind) operand closed)]
    omega
  exact Nat.le_trans (by omega) binary

theorem factors_calls (finish : Span) (room column count : Nat) (rest : List Token) :
    6 * count ≤ binaryCalls finish (room + 1) 0 (factorsAt column count ++ rest) := by
  induction count generalizing column rest with
  | zero => exact Nat.zero_le _
  | succ count induction =>
      rw [factorsAt, List.cons_append, List.cons_append, List.append_assoc]
      have inner := induction (column + 2)
        ([⟨.rightParenthesis, ")", spanOfColumn (column + 3 * count + 3)⟩] ++ rest)
      have outer := @binary_calls_factor finish room ⟨.number, "2", spanOfColumn column⟩
        ⟨.leftParenthesis, "(", spanOfColumn (column + 1)⟩ rfl rfl
        (factorsAt (column + 2) count ++
          ([⟨.rightParenthesis, ")", spanOfColumn (column + 3 * count + 3)⟩] ++ rest))
      omega

theorem nested_factors_before_end (count : Nat) :
    beforeEnd (nestedFactors count) = factorsAt 0 count := by
  have others : ∀ column, ∀ token ∈ factorsAt column count, token.kind ≠ .endOfText := by
    induction count with
    | zero => exact fun column => List.forall_mem_singleton.mpr nofun
    | succ count induction =>
        intro column
        have inner := induction (column + 2)
        simp only [factorsAt, List.forall_mem_cons, List.forall_mem_append]
        exact ⟨by decide, by decide, inner, by decide, nofun⟩
  exact before_end_append (others 0) rfl

/-- Well-formed groups behind numbers that are too deep: no tree within the limits is derived from
them, and they are not refused for that, since the stack is exhausted before. -/
theorem factors_exhaust :
    (∃ formula, Body mostNested (beforeEnd (nestedFactors 200)) formula ∧
        greatestDepth < formula.depth) ∧
      (¬∃ formula, Body mostNested (beforeEnd (nestedFactors 200)) formula ∧
        formula.depth ≤ greatestDepth) ∧
      ofTokens (nestedFactors 200) = .error .exhausted := by
  obtain ⟨formula, level, depth⟩ := factors_derived (mostNested - 1) 0 200
  have derived : Body mostNested (beforeEnd (nestedFactors 200)) formula := by
    rw [nested_factors_before_end]
    exact level.statement.body
  have tall : greatestDepth < formula.depth := by
    rw [depth]
    decide
  refine ⟨⟨formula, derived, tall⟩, ?_, ?_⟩
  · rintro ⟨another, again, small⟩
    rw [again.unique derived rfl] at small
    exact absurd tall (Nat.not_lt_of_le small)
  · have many : 6 * 200 ≤
        binaryCalls (textEnd (nestedFactors 200)) mostNested 0 (factorsAt 0 200 ++ []) :=
      factors_calls _ (mostNested - 1) 0 200 []
    have undropped := level.statement.not_dropped []
    have first := binary_calls_lt_assignment (textEnd (nestedFactors 200)) mostNested
      (factorsAt 0 200)
    have reach : mostCalls < 6 * 200 := by decide
    rw [List.append_nil] at many undropped
    apply (exhausted_iff _).mpr
    rw [textCalls, nested_factors_before_end, bodyCalls, undropped]
    apply Nat.lt_of_lt_of_le _ (Nat.le_max_left _ _)
    omega

end Factors

end FormulaPlot.Grammar
