import FormulaPlot.Proofs.Formula.Boundary

/-!
Whatever is read is derived by the grammar from the tokens that were used up for it. Each reading
function also stops at a token that its layer could not have gone on with.
-/

namespace FormulaPlot.Grammar

open FormulaPlot.Formula

set_option autoImplicit false

variable {finish : Span}

theorem parameters_of_arguments {arguments : List (Formula Span)}
    (symbols : arguments.all isSymbol = true) :
    arguments.map symbolName? = (arguments.filterMap symbolName?).map some := by
  induction arguments with
  | nil => rfl
  | cons argument rest induction =>
      simp only [List.all_cons, Bool.and_eq_true] at symbols
      cases argument with
      | symbol place name =>
          have kept := congrArg (List.cons (some name)) (induction symbols.2)
          simpa [symbolName?] using kept
      | _ => exact absurd symbols.1 (by simp [isSymbol])

/-- An assignment that is accepted is one of the two forms of the grammar. -/
theorem statement_of_assign {room : Nat} {head tail : List Token} {sign : Token}
    {target value formula : Formula Span} (derived : Range (room + 1) head target)
    (isAssign : sign.kind = .assign) (valueDerived : Statement room tail value)
    (assigned : assign target value = .ok formula) :
    Statement (room + 1) (head ++ sign :: tail) formula := by
  unfold assign at assigned
  dsimp only at assigned
  split at assigned
  · split at assigned
    · rename_i place name arguments symbols
      simp only [Except.ok.injEq] at assigned
      rw [← assigned]
      exact .definition derived (parameters_of_arguments symbols) isAssign valueDerived
    · simp at assigned
  · simp only [Except.ok.injEq] at assigned
    rw [← assigned]
    exact .assignment derived rfl isAssign valueDerived
  · simp only [Except.ok.injEq] at assigned
    rw [← assigned]
    exact .assignment derived rfl isAssign valueDerived
  · simp only [Except.ok.injEq] at assigned
    rw [← assigned]
    exact .assignment derived rfl isAssign valueDerived
  · simp at assigned

mutual

theorem statement_of_read {room : Nat} {tokens rest : List Token} {formula : Formula Span}
    (read : outcome (readAssignment finish room tokens) = .ok (formula, rest)) :
    ∃ used, tokens = used ++ rest ∧ Statement room used formula := by
  rw [outcome_read_assignment, bind_eq_ok_iff] at read
  obtain ⟨⟨target, behind⟩, targetRead, read⟩ := read
  obtain ⟨head, parted, derived⟩ := range_of_read targetRead
  cases behind with
  | nil =>
      simp only [Except.ok.injEq, Prod.mk.injEq] at read
      obtain ⟨rfl, rfl⟩ := read
      exact ⟨head, parted, .range derived⟩
  | cons sign behind =>
      dsimp only at read
      split at read
      · rename_i isAssign
        cases room with
        | zero => simp at read
        | succ room =>
            rw [bind_eq_ok_iff] at read
            obtain ⟨⟨value, last⟩, valueRead, read⟩ := read
            rw [map_eq_ok_iff] at read
            obtain ⟨made, assigned, same⟩ := read
            simp only [Prod.mk.injEq] at same
            obtain ⟨rfl, rfl⟩ := same
            obtain ⟨tail, rfl, valueDerived⟩ := statement_of_read valueRead
            exact ⟨head ++ sign :: tail, by simp [parted],
              statement_of_assign derived isAssign valueDerived assigned⟩
      · simp only [Except.ok.injEq, Prod.mk.injEq] at read
        obtain ⟨rfl, rfl⟩ := read
        exact ⟨head, parted, .range derived⟩
termination_by 16 * tokens.length + 8
decreasing_by
  all_goals subst_vars
  all_goals (try simp only [List.length_append, List.length_cons]); omega

theorem range_of_read {room : Nat} {tokens rest : List Token} {formula : Formula Span}
    (read : outcome (readRange finish room tokens) = .ok (formula, rest)) :
    ∃ used, tokens = used ++ rest ∧ Range room used formula := by
  rw [outcome_read_range, bind_eq_ok_iff] at read
  obtain ⟨⟨first, behind⟩, firstRead, read⟩ := read
  obtain ⟨head, parted, firstDerived, _⟩ := level_of_read firstRead
  cases behind with
  | nil =>
      simp only [Except.ok.injEq, Prod.mk.injEq] at read
      obtain ⟨rfl, rfl⟩ := read
      exact ⟨head, parted, .single firstDerived⟩
  | cons colon behind =>
      dsimp only at read
      split at read
      · rename_i isColon
        rw [bind_eq_ok_iff] at read
        obtain ⟨⟨second, last⟩, secondRead, read⟩ := read
        obtain ⟨middle, rfl, secondDerived, _⟩ := level_of_read secondRead
        cases last with
        | nil =>
            simp only [Except.ok.injEq, Prod.mk.injEq] at read
            obtain ⟨rfl, rfl⟩ := read
            exact ⟨head ++ colon :: middle, by simp [parted],
              .range firstDerived isColon secondDerived⟩
        | cons next last =>
            dsimp only at read
            split at read
            · rename_i isSecond
              rw [map_eq_ok_iff] at read
              obtain ⟨⟨third, final⟩, thirdRead, same⟩ := read
              simp only [Prod.mk.injEq] at same
              obtain ⟨rfl, rfl⟩ := same
              obtain ⟨tail, rfl, thirdDerived, _⟩ := level_of_read thirdRead
              exact ⟨head ++ colon :: (middle ++ next :: tail), by simp [parted],
                .stepped firstDerived isColon secondDerived isSecond thirdDerived⟩
            · simp only [Except.ok.injEq, Prod.mk.injEq] at read
              obtain ⟨rfl, rfl⟩ := read
              exact ⟨head ++ colon :: middle, by simp [parted],
                .range firstDerived isColon secondDerived⟩
      · simp only [Except.ok.injEq, Prod.mk.injEq] at read
        obtain ⟨rfl, rfl⟩ := read
        exact ⟨head, parted, .single firstDerived⟩
termination_by 16 * tokens.length + 7
decreasing_by
  all_goals subst_vars
  all_goals (try simp only [List.length_append, List.length_cons]); omega

theorem level_of_read {room : Nat} {least : Nat} {tokens rest : List Token} {formula : Formula Span}
    (read : outcome (readBinary finish room least tokens) = .ok (formula, rest)) :
    ∃ used, tokens = used ++ rest ∧ Level room least used formula ∧ Closed formula rest ∧
      Looser least rest := by
  rw [outcome_read_binary, bind_eq_ok_iff] at read
  obtain ⟨⟨left, behind⟩, leftRead, read⟩ := read
  have fewer := outcome_shorter leftRead
  obtain ⟨head, parted, derived, closed⟩ := operand_of_read leftRead
  have above : productPrecedence < max least (productPrecedence + 1) := by omega
  obtain ⟨used, rfl, whole, closedWhole, looserWhole⟩ :=
    level_of_operators (.operand above derived) (by omega) closed
      (looser_of_lt (by omega) behind) read
  exact ⟨head ++ used, by simp [parted], whole, closedWhole, looserWhole⟩
termination_by 16 * tokens.length + 6
decreasing_by
  all_goals subst_vars
  all_goals (try simp only [List.length_append]); omega

/-- The operators behind an operand of some level: the operand cannot be continued at a tighter
level, so that all that follows is looser. -/
theorem level_of_operators {room : Nat} {least level : Nat} {head tokens rest : List Token}
    {left formula : Formula Span} (derived : Level room level head left) (within : least ≤ level)
    (closed : Closed left tokens) (looser : Looser (level + 1) tokens)
    (read : outcome (readOperators finish room least left tokens) = .ok (formula, rest)) :
    ∃ used, tokens = used ++ rest ∧ Level room least (head ++ used) formula ∧
      Closed formula rest ∧ Looser least rest := by
  cases shape : tokens with
  | nil =>
      rw [shape] at closed looser read
      rw [outcome_read_operators_nil] at read
      simp only [Except.ok.injEq, Prod.mk.injEq] at read
      obtain ⟨rfl, rfl⟩ := read
      exact ⟨[], rfl, by simpa using derived.weaken within, trivial, trivial⟩
  | cons next behind =>
      rw [shape] at closed looser read
      rw [outcome_read_operators_cons] at read
      unfold Looser joins at looser
      cases found : precedence? next.kind with
      | none =>
          simp only [found, Bool.and_eq_false_iff, decide_eq_false_iff_not] at looser
          simp only [found] at read
          by_cases factor :
              (startsFactor next.kind && decide (least ≤ productPrecedence)) = true
          · rw [if_pos factor] at read
            simp only [Bool.and_eq_true, decide_eq_true_eq] at factor
            rw [bind_eq_ok_iff] at read
            obtain ⟨⟨right, last⟩, rightRead, read⟩ := read
            have fewer : last.length < behind.length + 1 := outcome_shorter rightRead
            obtain ⟨used, parted, rightDerived, rightClosed⟩ := power_of_read rightRead
            obtain ⟨more, rfl⟩ : ∃ more, used = next :: more := by
              cases used with
              | nil =>
                  simp only [List.nil_append] at parted
                  rw [← parted] at fewer
                  simp at fewer
              | cons first more =>
                  simp only [List.cons_append, List.cons.injEq] at parted
                  exact ⟨more, by rw [parted.1]⟩
            simp only [List.cons_append, List.cons.injEq, true_and] at parted
            subst parted
            have tight : productPrecedence ≤ level := by
              rcases looser with other | above
              · rw [factor.1] at other
                simp at other
              · omega
            have apart : ¬(next.kind = .leftParenthesis ∧ left.endsInName = true) := by
              rintro ⟨opens, named⟩
              simp [Closed, continuesOperand, opens, named] at closed
            have product := Level.product (derived.weaken tight) rightDerived factor.1 apart
            obtain ⟨used, rfl, whole, closedWhole, looserWhole⟩ :=
              level_of_operators product factor.2 (closed_congr rfl rightClosed)
                (looser_of_lt (by omega) last) read
            exact ⟨next :: more ++ used, by simp, by simpa using whole, closedWhole,
              looserWhole⟩
          · rw [if_neg factor] at read
            simp only [Except.ok.injEq, Prod.mk.injEq] at read
            obtain ⟨rfl, rfl⟩ := read
            refine ⟨[], rfl, by simpa using derived.weaken within, closed, ?_⟩
            unfold Looser joins
            simpa only [found, Bool.not_eq_true] using factor
      | some precedence =>
          simp only [found, decide_eq_false_iff_not] at looser
          simp only [found] at read
          by_cases stops : precedence < least
          · rw [if_pos stops] at read
            simp only [Except.ok.injEq, Prod.mk.injEq] at read
            obtain ⟨rfl, rfl⟩ := read
            refine ⟨[], rfl, by simpa using derived.weaken within, closed, ?_⟩
            unfold Looser joins
            simp only [found, decide_eq_false_iff_not]
            omega
          · rw [if_neg stops] at read
            rw [bind_eq_ok_iff] at read
            obtain ⟨⟨right, last⟩, rightRead, read⟩ := read
            have fewer : last.length < behind.length := outcome_shorter rightRead
            obtain ⟨tail, rfl, rightDerived, rightClosed, rightLooser⟩ := level_of_read rightRead
            have joinedUp := Level.operation (derived.weaken (by omega)) found rightDerived
            obtain ⟨used, rfl, whole, closedWhole, looserWhole⟩ :=
              level_of_operators joinedUp (by omega) (closed_congr rfl rightClosed) rightLooser
                read
            exact ⟨next :: (tail ++ used), by simp, by simpa using whole, closedWhole,
              looserWhole⟩
termination_by 16 * tokens.length + 5
decreasing_by
  all_goals subst_vars
  all_goals (try simp only [List.length_append, List.length_cons]); omega

theorem operand_of_read {room : Nat} {tokens rest : List Token} {formula : Formula Span}
    (read : outcome (readUnary finish room tokens) = .ok (formula, rest)) :
    ∃ used, tokens = used ++ rest ∧ Operand room used formula ∧ Closed formula rest := by
  cases room with
  | zero => simp [outcome_read_unary_zero] at read
  | succ room =>
      cases shape : tokens with
      | nil =>
          rw [shape] at read
          rw [outcome_read_unary_nil] at read
          obtain ⟨used, parted, derived, closed⟩ := power_of_read read
          exact ⟨used, parted, .power derived, closed⟩
      | cons sign behind =>
          rw [shape] at read
          rw [outcome_read_unary_cons] at read
          split at read
          · rename_i isSign
            rw [map_eq_ok_iff] at read
            obtain ⟨⟨operand, last⟩, operandRead, same⟩ := read
            simp only [Prod.mk.injEq] at same
            obtain ⟨rfl, rfl⟩ := same
            obtain ⟨used, rfl, derived, closed⟩ := operand_of_read operandRead
            exact ⟨sign :: used, rfl, .signed isSign derived, closed_congr rfl closed⟩
          · obtain ⟨used, parted, derived, closed⟩ := power_of_read read
            exact ⟨used, parted, .power derived, closed⟩
termination_by 16 * tokens.length + 5
decreasing_by
  all_goals subst_vars
  all_goals (try simp only [List.length_cons]); omega

theorem power_of_read {room : Nat} {tokens rest : List Token} {formula : Formula Span}
    (read : outcome (readPower finish room tokens) = .ok (formula, rest)) :
    ∃ used, tokens = used ++ rest ∧ Power room used formula ∧ Closed formula rest := by
  rw [outcome_read_power, bind_eq_ok_iff] at read
  obtain ⟨⟨base, behind⟩, baseRead, read⟩ := read
  obtain ⟨head, parted, derived, closed⟩ := postfix_of_read baseRead
  cases behind with
  | nil =>
      simp only [Except.ok.injEq, Prod.mk.injEq] at read
      obtain ⟨rfl, rfl⟩ := read
      exact ⟨head, parted, .base derived, trivial⟩
  | cons sign behind =>
      dsimp only at read
      split at read
      · rename_i isPower
        rw [map_eq_ok_iff] at read
        obtain ⟨⟨exponent, last⟩, exponentRead, same⟩ := read
        simp only [Prod.mk.injEq] at same
        obtain ⟨rfl, rfl⟩ := same
        obtain ⟨tail, rfl, exponentDerived, exponentClosed⟩ := operand_of_read exponentRead
        exact ⟨head ++ sign :: tail, by simp [parted], .raised derived isPower exponentDerived,
          closed_congr rfl exponentClosed⟩
      · rename_i noPower
        simp only [Except.ok.injEq, Prod.mk.injEq] at read
        obtain ⟨rfl, rfl⟩ := read
        refine ⟨head, parted, .base derived, ?_⟩
        simp only [ClosedPostfix, continuesPostfix, Bool.or_eq_false_iff] at closed
        simp only [Closed, continuesOperand, derived.ends_in_name, Bool.or_eq_false_iff]
        exact ⟨⟨⟨(Bool.not_eq_true _).mp noPower, closed.1.1⟩, closed.1.2⟩, closed.2⟩
termination_by 16 * tokens.length + 4
decreasing_by
  all_goals subst_vars
  all_goals (try simp only [List.length_append, List.length_cons]); omega

theorem postfix_of_read {room : Nat} {tokens rest : List Token} {formula : Formula Span}
    (read : outcome (readPostfix finish room tokens) = .ok (formula, rest)) :
    ∃ used, tokens = used ++ rest ∧ Postfix room used formula ∧ ClosedPostfix formula rest := by
  rw [outcome_read_postfix_chain, bind_eq_ok_iff] at read
  obtain ⟨⟨primary, behind⟩, primaryRead, read⟩ := read
  have fewer := outcome_shorter primaryRead
  obtain ⟨head, parted, derived⟩ := primary_of_read primaryRead
  obtain ⟨used, rfl, whole, closed⟩ := postfix_of_suffixes (.primary derived) read
  exact ⟨head ++ used, by simp [parted], whole, closed⟩
termination_by 16 * tokens.length + 3
decreasing_by
  all_goals subst_vars
  all_goals (try simp only [List.length_append]); omega

theorem postfix_of_suffixes {room : Nat} {head tokens rest : List Token}
    {target formula : Formula Span} (derived : Postfix room head target)
    (read : outcome (readSuffixes finish room target tokens) = .ok (formula, rest)) :
    ∃ used, tokens = used ++ rest ∧ Postfix room (head ++ used) formula ∧
      ClosedPostfix formula rest := by
  cases shape : tokens with
  | nil =>
      rw [shape] at read
      rw [outcome_read_suffixes_nil] at read
      simp only [Except.ok.injEq, Prod.mk.injEq] at read
      obtain ⟨rfl, rfl⟩ := read
      exact ⟨[], rfl, by simpa using derived, trivial⟩
  | cons next behind =>
      rw [shape] at read
      by_cases goesOn : continuesPostfix target next.kind = true
      · simp only [continuesPostfix, Bool.or_eq_true, beq_iff_eq, Bool.and_eq_true] at goesOn
        rcases goesOn with (opens | isDot) | ⟨opens, named⟩
        · rw [outcome_read_suffixes_index finish room target behind opens, bind_eq_ok_iff] at read
          obtain ⟨⟨⟨indices, place⟩, last⟩, indicesRead, read⟩ := read
          have fewer : last.length < behind.length := outcome_shorter indicesRead
          obtain ⟨items, closing, rfl, itemsDerived, closes, rfl⟩ := items_of_read indicesRead
          obtain ⟨used, rfl, whole, closed⟩ :=
            postfix_of_suffixes (.index derived opens itemsDerived closes) read
          exact ⟨next :: (items ++ closing :: used), by simp, by simpa using whole, closed⟩
        · rw [outcome_read_suffixes_member finish room target behind isDot, bind_eq_ok_iff] at read
          obtain ⟨⟨name, last⟩, nameRead, read⟩ := read
          have fewer : last.length < behind.length := outcome_shorter nameRead
          obtain ⟨rfl, isName⟩ := outcome_expect_eq_ok finish nameRead
          obtain ⟨used, rfl, whole, closed⟩ :=
            postfix_of_suffixes (.member derived isDot isName) read
          exact ⟨next :: name :: used, by simp, by simpa using whole, closed⟩
        · cases target with
          | symbol place name =>
              rw [outcome_read_suffixes_call finish room place name behind opens, bind_eq_ok_iff]
                at read
              obtain ⟨⟨⟨arguments, close⟩, last⟩, argumentsRead, read⟩ := read
              have fewer : last.length < behind.length := outcome_shorter argumentsRead
              obtain ⟨items, closing, rfl, itemsDerived, closes, rfl⟩ :=
                items_of_read argumentsRead
              obtain ⟨used, rfl, whole, closed⟩ :=
                postfix_of_suffixes (.call derived opens itemsDerived closes) read
              exact ⟨next :: (items ++ closing :: used), by simp, by simpa using whole, closed⟩
          | _ => simp [isSymbol] at named
      · have stops : continuesPostfix target next.kind = false := by simpa using goesOn
        rw [outcome_read_suffixes_stop finish room behind stops] at read
        simp only [Except.ok.injEq, Prod.mk.injEq] at read
        obtain ⟨rfl, rfl⟩ := read
        exact ⟨[], rfl, by simpa using derived, stops⟩
termination_by 16 * tokens.length
decreasing_by
  all_goals subst_vars
  all_goals (try simp only [List.length_append, List.length_cons]); omega

theorem items_of_read {room : Nat} {closing : TokenKind} {what : String} {tokens rest : List Token}
    {formulas : List (Formula Span)} {place : Span}
    (read : outcome (readItems finish room closing what tokens) = .ok ((formulas, place), rest)) :
    ∃ used close, tokens = used ++ close :: rest ∧ Items room used formulas ∧
      close.kind = closing ∧ close.span = place := by
  cases shape : tokens with
  | nil =>
      rw [shape] at read
      rw [outcome_read_items_nil, sequenceOutcome, bind_eq_ok_iff] at read
      obtain ⟨⟨item, behind⟩, itemRead, read⟩ := read
      have fewer := outcome_shorter itemRead
      simp at fewer
  | cons next behind =>
      rw [shape] at read
      rw [outcome_read_items_cons] at read
      split at read
      · rename_i closes
        simp only [Except.ok.injEq, Prod.mk.injEq] at read
        obtain ⟨⟨rfl, rfl⟩, rfl⟩ := read
        exact ⟨[], next, rfl, .none, closes, rfl⟩
      · rw [sequenceOutcome, bind_eq_ok_iff] at read
        obtain ⟨⟨item, last⟩, itemRead, read⟩ := read
        rw [map_eq_ok_iff] at read
        obtain ⟨⟨⟨items, final⟩, left⟩, moreRead, same⟩ := read
        simp only [Prod.mk.injEq] at same
        obtain ⟨⟨rfl, rfl⟩, rfl⟩ := same
        have fewer : last.length < behind.length + 1 := outcome_shorter itemRead
        obtain ⟨head, parted, derived⟩ := range_of_read itemRead
        obtain ⟨used, close, rfl, whole, closes, same⟩ := items_of_more derived moreRead
        exact ⟨head ++ used, close, by simpa using parted, .some whole, closes, same⟩
termination_by 16 * tokens.length + 9
decreasing_by
  all_goals subst_vars
  all_goals (try simp only [List.length_cons]); omega

theorem items_of_more {room : Nat} {closing : TokenKind} {what : String}
    {head tokens rest : List Token} {formula : Formula Span} {formulas : List (Formula Span)}
    {place : Span} (derived : Range room head formula)
    (read : outcome (readMoreItems finish room closing what tokens) =
      .ok ((formulas, place), rest)) :
    ∃ used close, tokens = used ++ close :: rest ∧
      Sequence room (head ++ used) (formula :: formulas) ∧ close.kind = closing ∧
      close.span = place := by
  cases shape : tokens with
  | nil =>
      rw [shape] at read
      simp [outcome_read_more_items_nil, expected] at read
  | cons next behind =>
      rw [shape] at read
      rw [outcome_read_more_items_cons] at read
      split at read
      · rename_i isComma
        rw [sequenceOutcome, bind_eq_ok_iff] at read
        obtain ⟨⟨item, last⟩, itemRead, read⟩ := read
        rw [map_eq_ok_iff] at read
        obtain ⟨⟨⟨items, final⟩, left⟩, moreRead, same⟩ := read
        simp only [Prod.mk.injEq] at same
        obtain ⟨⟨rfl, rfl⟩, rfl⟩ := same
        have fewer : last.length < behind.length := outcome_shorter itemRead
        obtain ⟨middle, rfl, itemDerived⟩ := range_of_read itemRead
        obtain ⟨used, close, rfl, whole, closes, same⟩ := items_of_more itemDerived moreRead
        exact ⟨next :: (middle ++ used), close, by simp,
          .more derived isComma whole, closes, same⟩
      · split at read
        · rename_i closes
          simp only [Except.ok.injEq, Prod.mk.injEq] at read
          obtain ⟨⟨rfl, rfl⟩, rfl⟩ := read
          exact ⟨[], next, rfl, by simpa using Sequence.last derived, closes, rfl⟩
        · simp [expected] at read
termination_by 16 * tokens.length
decreasing_by
  all_goals subst_vars
  all_goals (try simp only [List.length_append, List.length_cons]); omega

theorem primary_of_read {room : Nat} {tokens rest : List Token} {formula : Formula Span}
    (read : outcome (readPrimary finish room tokens) = .ok (formula, rest)) :
    ∃ used, tokens = used ++ rest ∧ Primary room used formula := by
  cases shape : tokens with
  | nil =>
      rw [shape] at read
      simp [outcome_read_primary_nil, expected] at read
  | cons next behind =>
      rw [shape] at read
      by_cases starts : startsPrimary next.kind = true
      · simp only [startsPrimary, Bool.or_eq_true, beq_iff_eq] at starts
        rcases starts with (((isNumber | isName) | opens) | opens) | opens
        · rw [outcome_read_primary_number finish room behind isNumber] at read
          simp only [Except.ok.injEq, Prod.mk.injEq] at read
          obtain ⟨rfl, rfl⟩ := read
          exact ⟨[next], rfl, .number isNumber⟩
        · rw [outcome_read_primary_name finish room behind isName] at read
          simp only [Except.ok.injEq, Prod.mk.injEq] at read
          obtain ⟨rfl, rfl⟩ := read
          exact ⟨[next], rfl, .name isName⟩
        · rw [outcome_read_primary_group finish room behind opens, bind_eq_ok_iff] at read
          obtain ⟨⟨inner, last⟩, innerRead, read⟩ := read
          rw [map_eq_ok_iff] at read
          obtain ⟨⟨close, left⟩, closeRead, same⟩ := read
          simp only [Prod.mk.injEq] at same
          obtain ⟨rfl, rfl⟩ := same
          obtain ⟨rfl, closes⟩ := outcome_expect_eq_ok finish closeRead
          obtain ⟨used, rfl, derived⟩ := statement_of_read innerRead
          exact ⟨next :: (used ++ [close]), by simp, .group opens derived closes⟩
        · rw [outcome_read_primary_array finish room behind opens, map_eq_ok_iff] at read
          obtain ⟨⟨⟨elements, place⟩, left⟩, elementsRead, same⟩ := read
          simp only [Prod.mk.injEq] at same
          obtain ⟨rfl, rfl⟩ := same
          obtain ⟨items, close, rfl, derived, closes, rfl⟩ := items_of_read elementsRead
          exact ⟨next :: (items ++ [close]), by simp, .array opens derived closes⟩
        · cases closed : closedBy? .rightBrace behind with
          | some taken =>
              cases behind with
              | nil => simp [closedBy?] at closed
              | cons close last =>
                  by_cases closes : close.kind = .rightBrace
                  · rw [outcome_read_primary_empty_object finish room last opens closes] at read
                    simp only [Except.ok.injEq, Prod.mk.injEq] at read
                    obtain ⟨rfl, rfl⟩ := read
                    exact ⟨[next, close], rfl, .emptyObject opens closes⟩
                  · simp [closedBy?, closes] at closed
          | none =>
              rw [outcome_read_primary_object finish room opens closed, map_eq_ok_iff] at read
              obtain ⟨⟨⟨entries, place⟩, left⟩, entriesRead, same⟩ := read
              simp only [Prod.mk.injEq] at same
              obtain ⟨rfl, rfl⟩ := same
              obtain ⟨used, close, rfl, derived, closes, rfl⟩ := entries_of_read entriesRead
              exact ⟨next :: (used ++ [close]), by simp, .object opens derived closes⟩
      · have stops : startsPrimary next.kind = false := by simpa using starts
        simp [outcome_read_primary_stop finish room behind stops, expected] at read
termination_by 16 * tokens.length + 2
decreasing_by
  all_goals subst_vars
  all_goals (try simp only [List.length_cons]); omega

theorem entries_of_read {room : Nat} {tokens rest : List Token}
    {entries : List (String × Formula Span)} {place : Span}
    (read : outcome (readEntries finish room tokens) = .ok ((entries, place), rest)) :
    ∃ used close, tokens = used ++ close :: rest ∧ Entries room used entries ∧
      close.kind = .rightBrace ∧ close.span = place := by
  rw [outcome_read_entries, bind_eq_ok_iff] at read
  obtain ⟨⟨key, afterKey⟩, keyRead, read⟩ := read
  obtain ⟨splitKey, isName⟩ := outcome_expect_eq_ok finish keyRead
  rw [bind_eq_ok_iff] at read
  obtain ⟨⟨colon, afterColon⟩, colonRead, read⟩ := read
  obtain ⟨splitColon, isColon⟩ := outcome_expect_eq_ok finish colonRead
  rw [bind_eq_ok_iff] at read
  obtain ⟨⟨value, behind⟩, valueRead, read⟩ := read
  obtain ⟨head, rfl, derived, _⟩ := level_of_read valueRead
  cases behind with
  | nil => simp [expected] at read
  | cons next behind =>
      dsimp only at read
      split at read
      · rename_i isComma
        rw [map_eq_ok_iff] at read
        obtain ⟨⟨⟨more, final⟩, left⟩, moreRead, same⟩ := read
        simp only [Prod.mk.injEq] at same
        obtain ⟨⟨rfl, rfl⟩, rfl⟩ := same
        obtain ⟨tail, close, rfl, moreDerived, closes, same⟩ := entries_of_read moreRead
        exact ⟨key :: colon :: (head ++ next :: tail), close,
          by rw [splitKey]; simpa using splitColon,
          .more isName isColon derived isComma moreDerived, closes, same⟩
      · split at read
        · rename_i closes
          simp only [Except.ok.injEq, Prod.mk.injEq] at read
          obtain ⟨⟨rfl, rfl⟩, rfl⟩ := read
          exact ⟨key :: colon :: head, next, by rw [splitKey]; simpa using splitColon,
            .last isName isColon derived, closes, rfl⟩
        · simp [expected] at read
termination_by 16 * tokens.length
decreasing_by
  all_goals subst_vars
  all_goals (try simp only [List.length_append, List.length_cons]); omega

end

end FormulaPlot.Grammar
