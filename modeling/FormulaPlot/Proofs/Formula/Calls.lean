import FormulaPlot.Formula.Calls
import FormulaPlot.Proofs.Formula.Rooms
import FormulaPlot.Proofs.Formula.Sizes

/-!
How many calls reading takes. The calls that are nested in each other are those on a path through
the text: each operand on it takes a level of nesting, and each factor that follows another one
without a sign takes none. Up to a factor the path has bounded steps, so that its length is bounded
by the levels of nesting and by the factors; and every factor in it is seen in the tree.
-/

namespace FormulaPlot.Formula

set_option autoImplicit false

/-- What calls are nested in each other for: operands, factors that follow another one without a
sign, and operators. -/
structure Path where
  operands : Nat
  factors : Nat
  operators : Nat

/-- Calls that a path accounts for. An operand takes seven calls at most up to the next one inside
it, a factor six, and an operator one more; `overhead` tells how many of these lie around the
calls that are counted. An operand takes a level of nesting and a node of the tree, a factor two
nodes. Of the operators in front of an operand no more than three are open; `lack` tells how many
of the three have been passed. -/
def Accounted (room nodes : Nat) (excess : Int) (overhead lack calls : Nat) : Prop :=
  ∃ path : Path, path.operands ≤ room + 1 ∧
    path.operands + 2 * path.factors + path.operators ≤ nodes ∧ (path.factors : Int) ≤ excess ∧
    calls < 7 * path.operands + 6 * path.factors + path.operators + overhead ∧
    path.operators + lack ≤ 3 * path.operands + 2 * path.factors

section Accounts

variable {room wide nodes more overhead above lack less calls others : Nat} {excess surplus : Int}

theorem Accounted.excess_nonneg (accounted : Accounted room nodes excess overhead lack calls) :
    0 ≤ excess := by
  obtain ⟨path, -, -, factors, -, -⟩ := accounted
  omega

/-- More of everything on the path. -/
theorem Accounted.step (accounted : Accounted room nodes excess overhead lack calls)
    (operands factors operators : Nat)
    (fits : room + operands ≤ wide ∧ nodes + (operands + 2 * factors + operators) ≤ more ∧
      excess + factors ≤ surplus ∧
      others + overhead ≤ calls + (7 * operands + 6 * factors + operators) + above ∧
      operators + less ≤ 3 * operands + 2 * factors + lack) :
    Accounted wide more surplus above less others := by
  obtain ⟨path, deep, tall, crowded, long, busy⟩ := accounted
  refine ⟨⟨path.operands + operands, path.factors + factors, path.operators + operators⟩, ?_⟩
  dsimp only
  omega

/-- An operand for which there is no room. -/
theorem Accounted.operand (enough : 0 ≤ excess) (positive : 0 < nodes) :
    Accounted 0 nodes excess 0 3 1 := by
  refine ⟨⟨1, 0, 0⟩, ?_⟩
  dsimp only
  omega

/-- Calls that come to no operand. -/
theorem Accounted.none (enough : 0 ≤ excess) (few : calls < overhead) :
    Accounted room nodes excess overhead 0 calls := by
  refine ⟨⟨0, 0, 0⟩, ?_⟩
  dsimp only
  omega

theorem Accounted.mono (accounted : Accounted room nodes excess overhead lack calls)
    (fits : room ≤ wide ∧ nodes ≤ more ∧ excess ≤ surplus ∧
      others + overhead ≤ calls + above ∧ less ≤ lack) :
    Accounted wide more surplus above less others :=
  accounted.step 0 0 0 (by omega)

theorem Accounted.call (accounted : Accounted room nodes excess overhead lack calls) :
    Accounted room nodes excess (overhead + 1) lack (1 + calls) :=
  accounted.mono (by omega)

theorem Accounted.both (first : Accounted room nodes excess overhead lack calls)
    (second : others = 0 ∨ Accounted room nodes excess overhead lack others) :
    Accounted room nodes excess overhead lack (max calls others) := by
  rcases second with rfl | second
  · rw [Nat.max_zero]
    exact first
  · rcases Nat.le_total calls others with below | below
    · rw [Nat.max_eq_right below]
      exact second
    · rw [Nat.max_eq_left below]
      exact first

/-- Where less room is left, what is read behind a part is read behind the same part, or nothing
is. -/
theorem calls_behind_eq {α : Type} {bound : Nat}
    {narrow : Except SyntaxFault (Taken α bound)} {roomy : Except SyntaxFault (α × List Token)}
    {value : α} {rest : List Token} (cramped : Cramped (outcome narrow) roomy)
    (read : roomy = .ok (value, rest))
    (calls : α → (rest : List Token) → rest.length < bound → Nat) :
    callsBehind narrow calls = 0 ∨
      ∃ within, callsBehind narrow calls = calls value rest within := by
  cases narrow with
  | error fault => exact .inl rfl
  | ok taken =>
      obtain ⟨found, behind, within⟩ := taken
      rcases cramped with same | ⟨span, deep⟩
      · rw [read] at same
        injection same with same
        injection same with first second
        subst first second
        exact .inr ⟨within, rfl⟩
      · contradiction

/-- A part is accounted for, and so is what is read behind it, if anything is. -/
theorem Accounted.behind {α : Type} {bound : Nat}
    {narrow : Except SyntaxFault (Taken α bound)} {roomy : Except SyntaxFault (α × List Token)}
    {value : α} {rest : List Token} {next : α → (rest : List Token) → rest.length < bound → Nat}
    (first : Accounted room nodes excess overhead lack calls)
    (cramped : Cramped (outcome narrow) roomy) (read : roomy = .ok (value, rest))
    (goesOn : ∀ within, next value rest within = 0 ∨
      Accounted room nodes excess overhead lack (next value rest within)) :
    Accounted room nodes excess overhead lack (max calls (callsBehind narrow next)) := by
  apply first.both
  rcases calls_behind_eq cramped read next with nothing | ⟨within, same⟩
  · exact .inl nothing
  · rw [same]
    exact goesOn within

end Accounts

theorem pair_of_ok {ε α β : Type} {first second : α} {one other : β}
    (same : (.ok (first, one) : Except ε (α × β)) = .ok (second, other)) :
    first = second ∧ one = other := by
  injection same with same
  injection same with left right
  exact ⟨left, right⟩

theorem precedence_bounds {kind : TokenKind} {precedence : Nat}
    (found : precedence? kind = some precedence) : 1 ≤ precedence ∧ precedence ≤ 3 := by
  revert found
  cases kind <;> simp +contextual [precedence?, eq_comm]

variable (finish : Span)

theorem calls_behind_ok {α : Type} {bound : Nat} {reading : Except SyntaxFault (Taken α bound)}
    {value : α} {rest : List Token} (read : outcome reading = .ok (value, rest))
    (calls : α → (rest : List Token) → rest.length < bound → Nat) :
    callsBehind reading calls = calls value rest (outcome_shorter read) := by
  cases reading with
  | error fault => contradiction
  | ok taken =>
      obtain ⟨found, behind, within⟩ := taken
      obtain ⟨rfl, rfl⟩ := pair_of_ok read
      rfl

theorem calls_behind_expect {kind : TokenKind} {what : String} {token : Token}
    {rest : List Token} (same : token.kind = kind)
    (next : Token → (tokens : List Token) → tokens.length < (token :: rest).length → Nat) :
    callsBehind (expect finish kind what (token :: rest)) next =
      next token rest (Nat.lt_succ_self _) := by
  simp only [expect, if_pos same, callsBehind]

section Suffixes

variable (room : Nat) (named : Bool) {next : Token} (rest : List Token)

theorem suffixes_calls_arguments (opens : next.kind = .leftParenthesis) :
    suffixesCalls finish room true (next :: rest) =
      max (1 + itemsCalls finish room .rightParenthesis rest)
        (callsBehind (readItems finish room .rightParenthesis "')'" rest) fun _ behind _ =>
          suffixesCalls finish room false behind) := by
  rw [suffixesCalls.eq_def]
  simp only [opens]

theorem suffixes_calls_index (opens : next.kind = .leftBracket) :
    suffixesCalls finish room named (next :: rest) =
      max (itemsCalls finish room .rightBracket rest)
        (callsBehind (readItems finish room .rightBracket "']'" rest) fun _ behind _ =>
          suffixesCalls finish room false behind) := by
  rw [suffixesCalls.eq_def]
  cases named <;> simp only [opens]

theorem suffixes_calls_member (isDot : next.kind = .dot) :
    suffixesCalls finish room named (next :: rest) =
      callsBehind (expect finish .identifier "identifier" rest) fun _ behind _ =>
        suffixesCalls finish room false behind := by
  rw [suffixesCalls.eq_def]
  cases named <;> simp only [isDot]

theorem suffixes_calls_stop {target : Formula Span}
    (stops : continuesPostfix target next.kind = false) :
    suffixesCalls finish room target.isSymbol (next :: rest) = 0 := by
  rw [suffixesCalls.eq_def]
  simp only [continuesPostfix, Bool.or_eq_false_iff, beq_eq_false_iff_ne] at stops
  obtain ⟨⟨noBracket, noDot⟩, noCall⟩ := stops
  split
  · rfl
  · rename_i first behind same
    injection same with same _
    subst same
    split
    · rename_i isNamed opens
      rw [opens, isNamed] at noCall
      contradiction
    · rename_i opens
      exact absurd opens noBracket
    · rename_i isDot
      exact absurd isDot noDot
    · rfl

end Suffixes

theorem sequence_eq_ok {room : Nat} {closing : TokenKind} {what : String}
    {tokens rest : List Token} {formulas : List (Formula Span)} {close : Span}
    (read : sequenceOutcome finish room closing what tokens = .ok ((formulas, close), rest)) :
    ∃ item behind others, outcome (readRange finish room tokens) = .ok (item, behind) ∧
      outcome (readMoreItems finish room closing what behind) = .ok ((others, close), rest) ∧
      formulas = item :: others := by
  rw [sequenceOutcome, bind_eq_ok_iff] at read
  obtain ⟨⟨item, behind⟩, readItem, read⟩ := read
  obtain ⟨⟨⟨others, last⟩, final⟩, readMore, same⟩ := map_eq_ok_iff.mp read
  obtain ⟨sameItems, rfl⟩ := Prod.mk.inj same
  obtain ⟨rfl, rfl⟩ := Prod.mk.inj sameItems
  exact ⟨item, behind, others, readItem, readMore, rfl⟩

theorem sequence_accounted {room wide : Nat} (within : room ≤ wide)
    {tokens behind rest : List Token} {item : Formula Span} {others : List (Formula Span)}
    (readItem : outcome (readRange finish wide tokens) = .ok (item, behind))
    (first : Accounted room item.depth (item.products + stars behind - stars tokens) 2 0
      (rangeCalls finish room tokens))
    (further : stars behind ≤ productsIn others + stars rest ∧
      (moreItemsCalls finish room behind = 0 ∨
        Accounted room (deepest others) (productsIn others + stars rest - stars behind) 2 0
          (moreItemsCalls finish room behind))) :
    Accounted room (deepest (item :: others))
      (productsIn (item :: others) + stars rest - stars tokens) 2 0
      (max (rangeCalls finish room tokens)
        (callsBehind (readRange finish room tokens) fun _ behind _ =>
          moreItemsCalls finish room behind)) := by
  have surplus := first.excess_nonneg
  obtain ⟨many, more⟩ := further
  rw [deepest_cons, products_in_cons]
  apply (first.mono (by omega)).behind (range_cramped finish within tokens) readItem
  intro fewer
  exact more.imp_right fun some => some.mono (by omega)

mutual

theorem assignment_accounted {room wide : Nat} (within : room ≤ wide) {tokens rest : List Token}
    {formula : Formula Span}
    (read : outcome (readAssignment finish wide tokens) = .ok (formula, rest)) :
    Accounted room formula.depth (formula.products + stars rest - stars tokens) 3 0
      (assignmentCalls finish room tokens) := by
  rw [outcome_read_assignment, bind_eq_ok_iff] at read
  obtain ⟨⟨target, others⟩, readTarget, read⟩ := read
  have first := range_accounted within readTarget
  have cramped := range_cramped finish within tokens
  rw [assignmentCalls]
  apply Accounted.call
  cases others with
  | nil =>
      obtain ⟨rfl, rfl⟩ := pair_of_ok read
      apply first.behind cramped readTarget
      intro fewer
      exact .inl rfl
  | cons sign behind =>
      have shorter : behind.length + 1 < tokens.length := outcome_shorter readTarget
      dsimp only at read
      by_cases isAssign : sign.kind = .assign
      · rw [if_pos isAssign] at read
        cases wide with
        | zero => contradiction
        | succ wide =>
            dsimp only at read
            rw [bind_eq_ok_iff] at read
            obtain ⟨⟨value, last⟩, readValue, read⟩ := read
            obtain ⟨whole, made, same⟩ := map_eq_ok_iff.mp read
            injection same with sameFormula sameRest
            subst sameFormula sameRest
            have plain := stars_cons_of_ne behind (by rw [isAssign]; decide)
            obtain ⟨tall, above, many⟩ := sizes_of_assign made
            have second : Accounted (room - 1) _ _ _ _ _ :=
              assignment_accounted (by omega) readValue
            have surplus := first.excess_nonneg
            have other := second.excess_nonneg
            dsimp only at tall above many second surplus other ⊢
            apply (first.mono (by omega)).behind cramped readTarget
            intro fewer
            dsimp only
            rw [if_pos isAssign]
            cases room with
            | zero => exact .inl rfl
            | succ room =>
                rw [Nat.add_sub_cancel] at second
                dsimp only
                exact .inr (second.step 1 0 0 (by omega))
      · rw [if_neg isAssign] at read
        obtain ⟨rfl, rfl⟩ := pair_of_ok read
        apply first.behind cramped readTarget
        intro fewer
        exact .inl (if_neg isAssign)
termination_by 16 * tokens.length + 8
decreasing_by
  all_goals subst_vars
  all_goals omega

theorem range_accounted {room wide : Nat} (within : room ≤ wide) {tokens rest : List Token}
    {formula : Formula Span}
    (read : outcome (readRange finish wide tokens) = .ok (formula, rest)) :
    Accounted room formula.depth (formula.products + stars rest - stars tokens) 2 0
      (rangeCalls finish room tokens) := by
  rw [outcome_read_range, bind_eq_ok_iff] at read
  obtain ⟨⟨start, others⟩, readFirst, read⟩ := read
  have first := binary_accounted within readFirst
  have cramped := binary_cramped finish within 0 tokens
  rw [rangeCalls]
  apply Accounted.call
  cases others with
  | nil =>
      obtain ⟨rfl, rfl⟩ := pair_of_ok read
      apply (first.mono (by omega)).behind cramped readFirst
      intro fewer
      exact .inl rfl
  | cons colon behind =>
      have shorter : behind.length + 1 < tokens.length := outcome_shorter readFirst
      dsimp only at read
      by_cases isColon : colon.kind = .colon
      · rw [if_pos isColon, bind_eq_ok_iff] at read
        obtain ⟨⟨second, last⟩, readSecond, read⟩ := read
        have plain := stars_cons_of_ne behind (by rw [isColon]; decide)
        have middle := binary_accounted within readSecond
        have secondCramped := binary_cramped finish within 0 behind
        have surplus := first.excess_nonneg
        have further := middle.excess_nonneg
        cases last with
        | nil =>
            obtain ⟨rfl, rfl⟩ := pair_of_ok read
            obtain ⟨tall, many⟩ :=
              sizes_of_two (.range (start.place.through second.place) start second) rfl rfl
            apply (first.mono (by omega)).behind cramped readFirst
            intro shorter
            dsimp only
            rw [if_pos isColon]
            refine .inr ((middle.mono (by omega)).behind secondCramped readSecond ?_)
            intro shortest
            exact .inl rfl
        | cons next more =>
            have fewer : more.length + 1 < behind.length := outcome_shorter readSecond
            dsimp only at read
            by_cases isSecond : next.kind = .colon
            · rw [if_pos isSecond] at read
              obtain ⟨⟨third, final⟩, readThird, same⟩ := map_eq_ok_iff.mp read
              obtain ⟨rfl, rfl⟩ := pair_of_ok (congrArg (Except.ok (ε := SyntaxFault)) same)
              have last := binary_accounted within readThird
              have stands := stars_cons_of_ne more (by rw [isSecond]; decide)
              have rest := last.excess_nonneg
              obtain ⟨tall, many⟩ := sizes_of_parts
                (.steppedRange (start.place.through third.place) start third second) rfl
              simp only [children, deepest_cons, deepest_nil, products_in_cons, products_in_nil]
                at tall many
              dsimp only
              apply (first.mono (by omega)).behind cramped readFirst
              intro shorter
              dsimp only
              rw [if_pos isColon]
              refine .inr ((middle.mono (by omega)).behind secondCramped readSecond ?_)
              intro shortest
              dsimp only
              rw [if_pos isSecond]
              exact .inr (last.mono (by omega))
            · rw [if_neg isSecond] at read
              obtain ⟨rfl, rfl⟩ := pair_of_ok read
              obtain ⟨tall, many⟩ :=
                sizes_of_two (.range (start.place.through second.place) start second) rfl rfl
              apply (first.mono (by omega)).behind cramped readFirst
              intro shorter
              dsimp only
              rw [if_pos isColon]
              refine .inr ((middle.mono (by omega)).behind secondCramped readSecond ?_)
              intro shortest
              exact .inl (if_neg isSecond)
      · rw [if_neg isColon] at read
        obtain ⟨rfl, rfl⟩ := pair_of_ok read
        apply (first.mono (by omega)).behind cramped readFirst
        intro fewer
        exact .inl (if_neg isColon)
termination_by 16 * tokens.length + 7
decreasing_by
  all_goals subst_vars
  all_goals omega

theorem binary_accounted {room wide least : Nat} (within : room ≤ wide) {tokens rest : List Token}
    {formula : Formula Span}
    (read : outcome (readBinary finish wide least tokens) = .ok (formula, rest)) :
    Accounted room formula.depth (formula.products + stars rest - stars tokens) 1
      (min 3 (least - 1)) (binaryCalls finish room least tokens) := by
  rw [outcome_read_binary, bind_eq_ok_iff] at read
  obtain ⟨⟨left, others⟩, readLeft, read⟩ := read
  have first := unary_accounted within readLeft
  have shorter := outcome_shorter readLeft
  obtain ⟨tall, many, operators⟩ := operators_accounted within read
  have surplus := first.excess_nonneg
  rw [binaryCalls]
  apply Accounted.call
  dsimp only at tall many operators surplus
  apply (first.mono (by omega)).behind (unary_cramped finish within tokens) readLeft
  intro fewer
  rcases operators with nothing | some
  · exact .inl nothing
  · exact .inr (some.mono (by omega))
termination_by 16 * tokens.length + 6
decreasing_by
  all_goals omega

/-- The formula that is read in the end has grown from the one in front of the operators. -/
theorem operators_accounted {room wide least : Nat} (within : room ≤ wide)
    {tokens rest : List Token} {left formula : Formula Span}
    (read : outcome (readOperators finish wide least left tokens) = .ok (formula, rest)) :
    left.depth ≤ formula.depth ∧
      left.products + stars tokens ≤ formula.products + stars rest ∧
      (operatorsCalls finish room least tokens = 0 ∨
        Accounted room formula.depth
          (formula.products + stars rest - (left.products + stars tokens)) 0
          (min 3 (least - 1)) (operatorsCalls finish room least tokens)) := by
  rw [operatorsCalls.eq_def]
  cases tokens with
  | nil =>
      rw [outcome_read_operators_nil] at read
      obtain ⟨rfl, rfl⟩ := pair_of_ok read
      exact ⟨Nat.le_refl _, Nat.le_refl _, .inl rfl⟩
  | cons next behind =>
      rw [outcome_read_operators_cons] at read
      cases found : precedence? next.kind with
      | none =>
          simp only [found] at read ⊢
          by_cases factor : (startsFactor next.kind && decide (least ≤ productPrecedence)) = true
          · rw [if_pos factor, bind_eq_ok_iff] at read
            obtain ⟨⟨right, others⟩, readRight, read⟩ := read
            have shorter : others.length < behind.length + 1 := outcome_shorter readRight
            have first := power_accounted within readRight
            obtain ⟨tall, many, further⟩ := operators_accounted within read
            obtain ⟨above, more⟩ := sizes_joined .star left right
            have surplus := first.excess_nonneg
            have positive := depth_eq_deepest right
            have low : least ≤ 3 := by
              rw [Bool.and_eq_true, decide_eq_true_eq] at factor
              exact factor.2
            rw [if_pos rfl] at more
            dsimp only at tall many further surplus more above positive
            refine ⟨by omega, by omega, .inr ?_⟩
            rw [if_pos factor]
            apply (first.step 0 1 0 (by omega)).behind
              (power_cramped finish within (next :: behind)) readRight
            intro fewer
            exact further.imp_right fun some => some.mono (by omega)
          · rw [if_neg factor] at read
            obtain ⟨rfl, rfl⟩ := pair_of_ok read
            exact ⟨Nat.le_refl _, Nat.le_refl _, .inl (if_neg factor)⟩
      | some precedence =>
          simp only [found] at read ⊢
          by_cases looser : precedence < least
          · rw [if_pos looser] at read
            obtain ⟨rfl, rfl⟩ := pair_of_ok read
            exact ⟨Nat.le_refl _, Nat.le_refl _, .inl (if_pos looser)⟩
          · rw [if_neg looser, bind_eq_ok_iff] at read
            obtain ⟨⟨right, others⟩, readRight, read⟩ := read
            have shorter : others.length < behind.length := outcome_shorter readRight
            have first := binary_accounted within readRight
            obtain ⟨tall, many, further⟩ := operators_accounted within read
            obtain ⟨above, more⟩ := sizes_joined next.kind left right
            have surplus := first.excess_nonneg
            have signs := stars_cons next behind
            have levels : 1 ≤ precedence ∧ precedence ≤ 3 := precedence_bounds found
            dsimp only at tall many further surplus more above
            refine ⟨by omega, by omega, .inr ?_⟩
            rw [if_neg looser]
            apply (first.step 0 0 1 (by omega)).behind
              (binary_cramped finish within (precedence + 1) behind) readRight
            intro fewer
            exact further.imp_right fun some => some.mono (by omega)
termination_by 16 * tokens.length + 5
decreasing_by
  all_goals subst_vars
  all_goals (try simp only [List.length_cons]); omega

theorem unary_accounted {room wide : Nat} (within : room ≤ wide) {tokens rest : List Token}
    {formula : Formula Span}
    (read : outcome (readUnary finish wide tokens) = .ok (formula, rest)) :
    Accounted room formula.depth (formula.products + stars rest - stars tokens) 0 3
      (unaryCalls finish room tokens) := by
  have positive := depth_eq_deepest formula
  cases wide with
  | zero =>
      rw [outcome_read_unary_zero] at read
      contradiction
  | succ wide =>
      cases tokens with
      | nil =>
          rw [outcome_read_unary_nil] at read
          have inner : Accounted (room - 1) _ _ _ _ _ := power_accounted (by omega) read
          have surplus := inner.excess_nonneg
          cases room with
          | zero =>
              rw [unaryCalls]
              exact Accounted.operand surplus (by omega)
          | succ room =>
              rw [Nat.add_sub_cancel] at inner
              rw [unaryCalls]
              exact inner.step 1 0 0 (by omega)
      | cons sign behind =>
          rw [outcome_read_unary_cons] at read
          by_cases isSign : sign.kind.isSign = true
          · rw [if_pos isSign] at read
            obtain ⟨⟨operand, last⟩, readOperand, same⟩ := map_eq_ok_iff.mp read
            obtain ⟨rfl, rfl⟩ := pair_of_ok (congrArg (Except.ok (ε := SyntaxFault)) same)
            have inner : Accounted (room - 1) _ _ _ _ _ :=
              unary_accounted (by omega) readOperand
            obtain ⟨tall, many⟩ :=
              sizes_of_one (.unary (sign.span.through operand.place) sign.kind operand) rfl rfl
            have plain := stars_cons_of_ne behind (not_star_of_sign isSign)
            have surplus := inner.excess_nonneg
            dsimp only
            cases room with
            | zero =>
                rw [unaryCalls]
                exact Accounted.operand (by omega) (by omega)
            | succ room =>
                rw [Nat.add_sub_cancel] at inner
                rw [unaryCalls, if_pos isSign]
                exact inner.step 1 0 0 (by omega)
          · rw [if_neg isSign] at read
            have inner : Accounted (room - 1) _ _ _ _ _ := power_accounted (by omega) read
            have surplus := inner.excess_nonneg
            cases room with
            | zero =>
                rw [unaryCalls]
                exact Accounted.operand surplus (by omega)
            | succ room =>
                rw [Nat.add_sub_cancel] at inner
                rw [unaryCalls, if_neg isSign]
                exact inner.step 1 0 0 (by omega)
termination_by 16 * tokens.length + 5
decreasing_by
  all_goals subst_vars
  all_goals (try simp only [List.length_cons]); omega

theorem power_accounted {room wide : Nat} (within : room ≤ wide) {tokens rest : List Token}
    {formula : Formula Span}
    (read : outcome (readPower finish wide tokens) = .ok (formula, rest)) :
    Accounted room (formula.depth - 1) (formula.products + stars rest - stars tokens) 6 0
      (powerCalls finish room tokens) := by
  rw [outcome_read_power, bind_eq_ok_iff] at read
  obtain ⟨⟨base, others⟩, readBase, read⟩ := read
  have first := postfix_accounted within readBase
  have cramped := postfix_cramped finish within tokens
  have surplus := first.excess_nonneg
  rw [powerCalls]
  apply Accounted.call
  cases others with
  | nil =>
      obtain ⟨rfl, rfl⟩ := pair_of_ok read
      apply first.behind cramped readBase
      intro fewer
      exact .inl rfl
  | cons sign behind =>
      have shorter : behind.length + 1 < tokens.length := outcome_shorter readBase
      dsimp only at read
      by_cases isPower : sign.kind.isPower = true
      · rw [if_pos isPower] at read
        obtain ⟨⟨exponent, last⟩, readExponent, same⟩ := map_eq_ok_iff.mp read
        obtain ⟨rfl, rfl⟩ := pair_of_ok (congrArg (Except.ok (ε := SyntaxFault)) same)
        have second := unary_accounted within readExponent
        have more := second.excess_nonneg
        have plain := stars_cons_of_ne behind (not_star_of_power isPower)
        obtain ⟨tall, many⟩ := sizes_joined .caret base exponent
        rw [if_neg (by decide)] at many
        dsimp only
        apply (first.mono (by omega)).behind cramped readBase
        intro fewer
        dsimp only
        rw [if_pos isPower]
        exact .inr (second.mono (by omega))
      · rw [if_neg isPower] at read
        obtain ⟨rfl, rfl⟩ := pair_of_ok read
        apply first.behind cramped readBase
        intro fewer
        exact .inl (if_neg isPower)
termination_by 16 * tokens.length + 4
decreasing_by
  all_goals subst_vars
  all_goals omega

theorem postfix_accounted {room wide : Nat} (within : room ≤ wide) {tokens rest : List Token}
    {formula : Formula Span}
    (read : outcome (readPostfix finish wide tokens) = .ok (formula, rest)) :
    Accounted room (formula.depth - 1) (formula.products + stars rest - stars tokens) 5 0
      (postfixCalls finish room tokens) := by
  rw [outcome_read_postfix_chain, bind_eq_ok_iff] at read
  obtain ⟨⟨primary, others⟩, readPrimary, read⟩ := read
  have first := primary_accounted within readPrimary
  have shorter := outcome_shorter readPrimary
  obtain ⟨tall, many, suffixes⟩ := suffixes_accounted within read
  have surplus := first.excess_nonneg
  rw [postfixCalls]
  apply Accounted.call
  dsimp only at tall many suffixes surplus
  apply (first.mono (by omega)).behind (primary_cramped finish within tokens) readPrimary
  intro fewer
  exact suffixes.imp_right fun some => some.mono (by omega)
termination_by 16 * tokens.length + 3
decreasing_by
  all_goals omega

theorem suffixes_accounted {room wide : Nat} (within : room ≤ wide) {tokens rest : List Token}
    {target formula : Formula Span}
    (read : outcome (readSuffixes finish wide target tokens) = .ok (formula, rest)) :
    target.depth ≤ formula.depth ∧
      target.products + stars tokens ≤ formula.products + stars rest ∧
      (suffixesCalls finish room target.isSymbol tokens = 0 ∨
        Accounted room (formula.depth - 1)
          (formula.products + stars rest - (target.products + stars tokens)) 4 0
          (suffixesCalls finish room target.isSymbol tokens)) := by
  cases tokens with
  | nil =>
      rw [outcome_read_suffixes_nil] at read
      obtain ⟨rfl, rfl⟩ := pair_of_ok read
      exact ⟨Nat.le_refl _, Nat.le_refl _, .inl (by rw [suffixesCalls])⟩
  | cons next behind =>
      by_cases goesOn : continuesPostfix target next.kind = true
      · simp only [continuesPostfix, Bool.or_eq_true, beq_iff_eq, Bool.and_eq_true] at goesOn
        rcases goesOn with (opens | isDot) | ⟨opens, named⟩
        · rw [outcome_read_suffixes_index finish wide target behind opens, bind_eq_ok_iff] at read
          obtain ⟨⟨⟨indices, close⟩, others⟩, readItems, read⟩ := read
          have shorter : others.length < behind.length := outcome_shorter readItems
          have first := items_accounted within (by decide) readItems
          obtain ⟨above, more, further⟩ := suffixes_accounted within read
          obtain ⟨tall, many⟩ :=
            sizes_of_parts (.index (target.place.through close) target indices) rfl
          simp only [children, deepest_cons, products_in_cons] at tall many
          have plain := stars_cons_of_ne behind (by rw [opens]; decide)
          have surplus := first.excess_nonneg
          rw [suffixes_calls_index finish room target.isSymbol behind opens]
          dsimp only [isSymbol] at above more further
          refine ⟨by omega, by omega, .inr ?_⟩
          apply (first.mono (by omega)).behind
            (items_cramped finish within .rightBracket "']'" behind) readItems
          intro fewer
          exact further.imp_right fun some => some.mono (by omega)
        · rw [outcome_read_suffixes_member finish wide target behind isDot, bind_eq_ok_iff] at read
          obtain ⟨⟨name, others⟩, readName, read⟩ := read
          have shorter : others.length < behind.length := outcome_shorter readName
          obtain ⟨above, more, further⟩ := suffixes_accounted within read
          obtain ⟨tall, many⟩ :=
            sizes_of_one (.member (target.place.through name.span) target name.lexeme) rfl rfl
          obtain ⟨rfl, isName⟩ := outcome_expect_eq_ok finish readName
          have plain := stars_cons_of_ne (name :: others) (by rw [isDot]; decide)
          have stands := stars_cons_of_ne others (by rw [isName]; decide)
          dsimp only [isSymbol] at above more further
          refine ⟨by omega, by omega, ?_⟩
          rw [suffixes_calls_member finish room target.isSymbol _ isDot]
          rcases calls_behind_eq (cramped_same _) readName (fun _ behind _ =>
            suffixesCalls finish room false behind) with nothing | ⟨fewer, same⟩
          · exact .inl nothing
          · rw [same]
            exact further.imp_right fun some => some.mono (by omega)
        · cases target with
          | symbol place name =>
              rw [outcome_read_suffixes_call finish wide place name behind opens,
                bind_eq_ok_iff] at read
              obtain ⟨⟨⟨arguments, close⟩, others⟩, readItems, read⟩ := read
              have shorter : others.length < behind.length := outcome_shorter readItems
              have first := items_accounted within (by decide) readItems
              obtain ⟨above, more, further⟩ := suffixes_accounted within read
              obtain ⟨tall, many⟩ := sizes_of_parts (.call (place.through close) name arguments) rfl
              obtain ⟨low, nothing⟩ := sizes_of_parts (.symbol place name : Formula Span) rfl
              simp only [children, deepest_nil, products_in_nil] at tall many low nothing
              have plain := stars_cons_of_ne behind (by rw [opens]; decide)
              have surplus := first.excess_nonneg
              rw [named, suffixes_calls_arguments finish room behind opens]
              dsimp only [isSymbol] at above more further
              refine ⟨by omega, by omega, .inr ?_⟩
              apply (first.call.mono (by omega)).behind
                (items_cramped finish within .rightParenthesis "')'" behind) readItems
              intro fewer
              exact further.imp_right fun some => some.mono (by omega)
          | _ => contradiction
      · have stops : continuesPostfix target next.kind = false := by simpa using goesOn
        rw [outcome_read_suffixes_stop finish wide behind stops] at read
        obtain ⟨rfl, rfl⟩ := pair_of_ok read
        exact ⟨Nat.le_refl _, Nat.le_refl _, .inl (suffixes_calls_stop finish room behind stops)⟩
termination_by 16 * tokens.length
decreasing_by
  all_goals subst_vars
  all_goals (try simp only [List.length_cons]); omega

theorem items_accounted {room wide : Nat} (within : room ≤ wide) {closing : TokenKind}
    (other : closing ≠ .star) {what : String} {tokens rest : List Token}
    {formulas : List (Formula Span)} {close : Span}
    (read : outcome (readItems finish wide closing what tokens) = .ok ((formulas, close), rest)) :
    Accounted room (deepest formulas) (productsIn formulas + stars rest - stars tokens) 3 0
      (itemsCalls finish room closing tokens) := by
  cases tokens with
  | nil =>
      rw [outcome_read_items_nil] at read
      obtain ⟨item, behind, others, readItem, readMore, rfl⟩ := sequence_eq_ok finish read
      exact absurd (outcome_shorter readItem) (Nat.not_lt_zero _)
  | cons next others =>
      rw [outcome_read_items_cons] at read
      by_cases closes : next.kind = closing
      · rw [if_pos closes] at read
        obtain ⟨same, rfl⟩ := pair_of_ok read
        obtain ⟨rfl, rfl⟩ := Prod.mk.inj same
        have plain := stars_cons_of_ne others (by rw [closes]; exact other)
        rw [itemsCalls, closedBy?, if_pos closes]
        dsimp only
        exact Accounted.none (by simp only [products_in_nil]; omega) (by decide)
      · rw [if_neg closes] at read
        obtain ⟨item, behind, items, readItem, readMore, rfl⟩ := sequence_eq_ok finish read
        have shorter : behind.length < others.length + 1 := outcome_shorter readItem
        rw [itemsCalls, closedBy?, if_neg closes]
        exact (sequence_accounted finish within readItem (range_accounted within readItem)
          (more_items_accounted within other readMore)).call
termination_by 16 * tokens.length + 9
decreasing_by
  all_goals subst_vars
  all_goals (try simp only [List.length_cons]); omega

theorem more_items_accounted {room wide : Nat} (within : room ≤ wide) {closing : TokenKind}
    (other : closing ≠ .star) {what : String} {tokens rest : List Token}
    {formulas : List (Formula Span)} {close : Span}
    (read : outcome (readMoreItems finish wide closing what tokens) =
      .ok ((formulas, close), rest)) :
    stars tokens ≤ productsIn formulas + stars rest ∧
      (moreItemsCalls finish room tokens = 0 ∨
        Accounted room (deepest formulas) (productsIn formulas + stars rest - stars tokens) 2 0
          (moreItemsCalls finish room tokens)) := by
  cases tokens with
  | nil =>
      rw [outcome_read_more_items_nil] at read
      contradiction
  | cons next others =>
      rw [outcome_read_more_items_cons] at read
      rw [moreItemsCalls]
      by_cases isComma : next.kind = .comma
      · rw [if_pos isComma] at read
        obtain ⟨item, behind, items, readItem, readMore, rfl⟩ := sequence_eq_ok finish read
        have shorter := outcome_shorter readItem
        have plain := stars_cons_of_ne others (by rw [isComma]; decide)
        have whole := sequence_accounted finish within readItem (range_accounted within readItem)
          (more_items_accounted within other readMore)
        have surplus := whole.excess_nonneg
        rw [if_pos isComma]
        exact ⟨by omega, .inr (whole.mono (by omega))⟩
      · rw [if_neg isComma] at read
        rw [if_neg isComma]
        by_cases closes : next.kind = closing
        · rw [if_pos closes] at read
          obtain ⟨same, rfl⟩ := pair_of_ok read
          obtain ⟨rfl, rfl⟩ := Prod.mk.inj same
          have plain := stars_cons_of_ne others (by rw [closes]; exact other)
          rw [plain]
          exact ⟨Nat.le_add_left _ _, .inl rfl⟩
        · rw [if_neg closes] at read
          contradiction
termination_by 16 * tokens.length
decreasing_by
  all_goals subst_vars
  all_goals (try simp only [List.length_cons]); omega

theorem primary_accounted {room wide : Nat} (within : room ≤ wide) {tokens rest : List Token}
    {formula : Formula Span}
    (read : outcome (readPrimary finish wide tokens) = .ok (formula, rest)) :
    Accounted room (formula.depth - 1) (formula.products + stars rest - stars tokens) 4 0
      (primaryCalls finish room tokens) := by
  cases tokens with
  | nil =>
      rw [outcome_read_primary_nil] at read
      contradiction
  | cons next behind =>
      by_cases starts : startsPrimary next.kind = true
      · simp only [startsPrimary, Bool.or_eq_true, beq_iff_eq] at starts
        rcases starts with (((isNumber | isName) | opens) | opens) | opens
        · rw [outcome_read_primary_number finish wide behind isNumber] at read
          obtain ⟨rfl, rfl⟩ := pair_of_ok read
          have plain := stars_cons_of_ne behind (by rw [isNumber]; decide)
          rw [primaryCalls, isNumber]
          dsimp only
          exact Accounted.none (by omega) (by decide)
        · rw [outcome_read_primary_name finish wide behind isName] at read
          obtain ⟨rfl, rfl⟩ := pair_of_ok read
          have plain := stars_cons_of_ne behind (by rw [isName]; decide)
          rw [primaryCalls, isName]
          dsimp only
          exact Accounted.none (by omega) (by decide)
        · rw [outcome_read_primary_group finish wide behind opens, bind_eq_ok_iff] at read
          obtain ⟨⟨inner, others⟩, readInner, read⟩ := read
          obtain ⟨⟨close, last⟩, readClose, same⟩ := map_eq_ok_iff.mp read
          obtain ⟨rfl, rfl⟩ := Prod.mk.inj same
          obtain ⟨rfl, closes⟩ := outcome_expect_eq_ok finish readClose
          have first := assignment_accounted within readInner
          obtain ⟨tall, many⟩ := sizes_of_one (.group (next.span.through close.span) inner) rfl rfl
          have plain := stars_cons_of_ne behind (by rw [opens]; decide)
          have stands := stars_cons_of_ne last (by rw [closes]; decide)
          rw [primaryCalls, opens]
          dsimp only
          exact first.call.mono (by omega)
        · rw [outcome_read_primary_array finish wide behind opens] at read
          obtain ⟨⟨⟨elements, close⟩, last⟩, readItems, same⟩ := map_eq_ok_iff.mp read
          obtain ⟨rfl, rfl⟩ := Prod.mk.inj same
          have first := items_accounted within (by decide) readItems
          obtain ⟨tall, many⟩ := sizes_of_parts (.array (next.span.through close) elements) rfl
          simp only [children] at tall many
          have plain := stars_cons_of_ne behind (by rw [opens]; decide)
          rw [primaryCalls, opens]
          dsimp only
          exact first.call.mono (by omega)
        · have plain := stars_cons_of_ne behind (by rw [opens]; decide)
          rw [primaryCalls, opens]
          dsimp only
          cases closed : closedBy? .rightBrace behind with
          | some taken =>
              cases behind with
              | nil => contradiction
              | cons close last =>
                  by_cases closes : close.kind = .rightBrace
                  · rw [outcome_read_primary_empty_object finish wide last opens closes] at read
                    obtain ⟨rfl, rfl⟩ := pair_of_ok read
                    have stands := stars_cons_of_ne last (by rw [closes]; decide)
                    dsimp only
                    exact Accounted.none (by omega) (by decide)
                  · simp [closedBy?, closes] at closed
          | none =>
              rw [outcome_read_primary_object finish wide opens closed] at read
              obtain ⟨⟨⟨entries, close⟩, last⟩, readEntries, same⟩ := map_eq_ok_iff.mp read
              obtain ⟨rfl, rfl⟩ := Prod.mk.inj same
              have first := entries_accounted within readEntries
              obtain ⟨tall, many⟩ := sizes_of_parts (.object (next.span.through close) entries) rfl
              simp only [children] at tall many
              dsimp only
              exact first.mono (by omega)
      · have stops : startsPrimary next.kind = false := by simpa using starts
        rw [outcome_read_primary_stop finish wide behind stops] at read
        contradiction
termination_by 16 * tokens.length + 2
decreasing_by
  all_goals subst_vars
  all_goals (try simp only [List.length_cons]); omega

theorem entries_accounted {room wide : Nat} (within : room ≤ wide) {tokens rest : List Token}
    {entries : List (String × Formula Span)} {close : Span}
    (read : outcome (readEntries finish wide tokens) = .ok ((entries, close), rest)) :
    Accounted room (deepest (entries.map Prod.snd))
      (productsIn (entries.map Prod.snd) + stars rest - stars tokens) 1 0
      (entriesCalls finish room tokens) := by
  rw [outcome_read_entries, bind_eq_ok_iff] at read
  obtain ⟨⟨key, afterKey⟩, readKey, read⟩ := read
  dsimp only at read
  rw [bind_eq_ok_iff] at read
  obtain ⟨⟨colon, afterColon⟩, readColon, read⟩ := read
  dsimp only at read
  rw [bind_eq_ok_iff] at read
  obtain ⟨⟨value, others⟩, readValue, read⟩ := read
  obtain ⟨rfl, isName⟩ := outcome_expect_eq_ok finish readKey
  obtain ⟨rfl, isColon⟩ := outcome_expect_eq_ok finish readColon
  have keyless := stars_cons_of_ne (colon :: afterColon) (by rw [isName]; decide)
  have bare := stars_cons_of_ne afterColon (by rw [isColon]; decide)
  have first := binary_accounted within readValue
  have surplus := first.excess_nonneg
  rw [entriesCalls, calls_behind_expect finish isName, calls_behind_expect finish isColon]
  have shorter := outcome_shorter readValue
  cases others with
  | nil => contradiction
  | cons next behind =>
      have fewer : behind.length + 1 < afterColon.length := shorter
      dsimp only at read
      by_cases isComma : next.kind = .comma
      · rw [if_pos isComma] at read
        obtain ⟨⟨⟨more, last⟩, final⟩, readMore, same⟩ := map_eq_ok_iff.mp read
        obtain ⟨sameEntries, rfl⟩ := Prod.mk.inj same
        obtain ⟨rfl, rfl⟩ := Prod.mk.inj sameEntries
        have plain := stars_cons_of_ne behind (by rw [isComma]; decide)
        have second := entries_accounted within readMore
        have further := second.excess_nonneg
        simp only [List.map_cons, deepest_cons, products_in_cons]
        apply (first.mono (by omega)).behind (binary_cramped finish within 0 afterColon) readValue
        intro shortest
        dsimp only
        rw [if_pos isComma]
        exact .inr (second.mono (by omega))
      · rw [if_neg isComma] at read
        by_cases closes : next.kind = .rightBrace
        · rw [if_pos closes] at read
          obtain ⟨sameEntries, rfl⟩ := pair_of_ok read
          obtain ⟨rfl, rfl⟩ := Prod.mk.inj sameEntries
          have plain := stars_cons_of_ne behind (by rw [closes]; decide)
          simp only [List.map_cons, List.map_nil, deepest_cons, deepest_nil, products_in_cons,
            products_in_nil]
          apply (first.mono (by omega)).behind (binary_cramped finish within 0 afterColon)
            readValue
          intro shortest
          exact .inl (if_neg isComma)
        · rw [if_neg closes] at read
          contradiction
termination_by 16 * tokens.length
decreasing_by
  all_goals subst_vars
  all_goals (try simp only [List.length_cons]); omega

end

end FormulaPlot.Formula

namespace FormulaPlot.Grammar

open FormulaPlot.Formula

section Texts

variable (finish : Span)

theorem Separators.stars_append {separators : List Token} (all : Separators separators)
    (tokens : List Token) : stars (separators ++ tokens) = stars tokens := by
  induction separators with
  | nil => rfl
  | cons next rest induction =>
      obtain ⟨separates, others⟩ := List.forall_mem_cons.mp all
      have other : next.kind ≠ .star := by
        intro isStar
        rw [isStar] at separates
        contradiction
      rw [List.cons_append, stars_cons_of_ne _ other, induction others]

theorem Statement.front_accounted {room : Nat} {tokens : List Token} {formula : Formula Span}
    (derived : Statement room tokens formula) {rest : List Token}
    (ends : Before endsStatement rest) :
    Accounted mostNested formula.depth (formula.products + stars rest - stars (tokens ++ rest)) 3 0
      (assignmentCalls finish mostNested (tokens ++ rest)) :=
  assignment_accounted finish (Nat.le_max_left mostNested room)
    (Statement.read finish rest (derived.widen (Nat.le_max_right mostNested room)) ends)

theorem Following.accounted {room : Nat} {tokens : List Token} {statements : List (Formula Span)}
    (derived : Following room tokens statements) :
    stars tokens ≤ productsIn statements ∧
      (statementsCalls finish tokens = 0 ∨
        Accounted mostNested (deepest statements) (productsIn statements - stars tokens) 3 0
          (statementsCalls finish tokens)) := by
  induction derived with
  | @none tokens separators =>
      have signs := separators.stars_append []
      rw [List.append_nil] at signs
      refine ⟨Nat.le_of_eq signs, .inl ?_⟩
      cases tokens with
      | nil => rw [statementsCalls]
      | cons next rest =>
          have nothing : rest.dropWhile (fun token => token.kind.isSeparator) = [] := by
            have dropped := Separators.drop
              (fun token member => separators token (List.mem_cons_of_mem next member)) []
            simpa using dropped
          rw [statementsCalls, if_pos (separators next List.mem_cons_self), nothing]
          rfl
  | @more separated head tail statement statements separators present derived others induction =>
      cases separated with
      | nil => exact absurd rfl present
      | cons next rest =>
          have dropped : (rest ++ (head ++ tail)).dropWhile (fun token => token.kind.isSeparator) =
              head ++ tail := by
            rw [Separators.drop
              (fun token member => separators token (List.mem_cons_of_mem next member))]
            exact derived.not_dropped tail
          have something : (head ++ tail).isEmpty = false := by
            obtain ⟨first, behind, rfl, _⟩ := derived.starts
            rfl
          obtain ⟨many, further⟩ := induction
          have first := derived.front_accounted finish others.ends
          have surplus := first.excess_nonneg
          rw [separators.stars_append, products_in_cons, deepest_cons, List.cons_append,
            statementsCalls, if_pos (separators next List.mem_cons_self), dropped, something]
          refine ⟨by omega, .inr ?_⟩
          apply (first.mono (by omega)).behind (derived.front_cramped finish others.ends) rfl
          intro fewer
          exact further.imp_right fun some => some.mono (by omega)

theorem Body.accounted {room : Nat} {tokens : List Token} {formula : Formula Span}
    (derived : Body room tokens formula) :
    Accounted mostNested formula.depth (formula.products - stars tokens) 3 0
      (bodyCalls finish tokens) := by
  rw [bodyCalls]
  cases derived with
  | @statement separated tokens _ separators derived =>
      have dropped := derived.not_dropped []
      have first := derived.front_accounted finish (show Before endsStatement [] from trivial)
      have cramped := derived.front_cramped finish (show Before endsStatement [] from trivial)
      rw [List.append_nil] at dropped first cramped
      rw [Separators.drop separators, dropped, separators.stars_append]
      apply (first.mono (by rw [stars, List.countP_nil]; omega)).behind cramped rfl
      intro fewer
      exact .inl (by rw [statementsCalls])
  | @block separated head tail start last statement statements separators derived others
      present isFirst isLast =>
      obtain ⟨many, further⟩ := others.accounted finish
      have first := derived.front_accounted finish others.ends
      have surplus := first.excess_nonneg
      obtain ⟨tall, most⟩ := sizes_of_parts
        (.block (start.span.through last.span) (statement :: statements)) rfl
      simp only [children, deepest_cons, products_in_cons] at tall most
      rw [Separators.drop separators, derived.not_dropped, separators.stars_append]
      apply (first.mono (by omega)).behind (derived.front_cramped finish others.ends) rfl
      intro fewer
      exact further.imp_right fun some => some.mono (by omega)

/-- The calls of a well-formed text are bounded by the depth of its tree, and by the levels of
nesting alone where the tree has no more products than there are signs for them. -/
theorem Body.calls_le {room : Nat} {tokens : List Token} {formula : Formula Span}
    (derived : Body room tokens formula) :
    bodyCalls finish tokens ≤ 4 * mostNested + 3 * formula.depth + 6 ∧
      (formula.products ≤ stars tokens → bodyCalls finish tokens ≤ 10 * mostNested + 12) := by
  obtain ⟨path, deep, tall, crowded, long, busy⟩ := derived.accounted finish
  exact ⟨by omega, fun spelled => by omega⟩

end Texts

end FormulaPlot.Grammar
