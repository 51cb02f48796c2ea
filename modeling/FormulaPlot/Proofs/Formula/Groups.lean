import FormulaPlot.Proofs.Formula.Brackets
import FormulaPlot.Proofs.Formula.Bodies

/-!
Groups in parentheses, alone and one taken from another. A parenthesis at the front of a text opens
a group of its own statement, which ends where its parentheses pair up.
-/

namespace FormulaPlot

set_option autoImplicit false

namespace Formula

def isGroup {label : Type} : Formula label → Bool
  | group .. => true
  | _ => false

end Formula

namespace Grammar

open FormulaPlot.Formula

theorem Primary.level {room level : Nat} {tokens : List Token} {formula : Formula Span}
    (derived : Primary room tokens formula) (within : level ≤ productPrecedence + 1) :
    Level (room + 1) level tokens formula :=
  Level.weaken within (.operand (Nat.lt_succ_self productPrecedence)
    (.power (.base (.primary derived))))

theorem Level.body {room level : Nat} {tokens : List Token} {formula : Formula Span}
    (derived : Level room level tokens formula) : Body room tokens formula := by
  have nothing : Separators [] := by simp [Separators]
  exact .statement nothing (.range (.single (derived.weaken (Nat.zero_le level))))

theorem Operand.primary_of_group {room : Nat} {tokens : List Token} {formula : Formula Span}
    (derived : Operand room tokens formula) (grouped : formula.isGroup = true) :
    ∃ less, Primary less tokens formula := by
  cases derived with
  | power derived =>
      cases derived with
      | base derived =>
          cases derived with
          | primary derived => exact ⟨_, derived⟩
          | _ => simp [isGroup] at grouped
      | raised => simp [isGroup] at grouped
  | signed => simp [isGroup] at grouped

/-- A formula in parentheses that stands for a whole level is the inner statement in its
parentheses. -/
theorem Level.primary_of_group {room level : Nat} {tokens : List Token} {formula : Formula Span} :
    Level room level tokens formula → formula.isGroup = true →
      ∃ less, Primary less tokens formula
  | .operand _ derived, grouped => derived.primary_of_group grouped
  | .tighter derived, grouped => Level.primary_of_group derived grouped
  | .operation _ _ _, grouped => by simp [isGroup] at grouped
  | .product _ _ _ _, grouped => by simp [isGroup] at grouped

theorem Statement.primary_of_group {room : Nat} {tokens : List Token} {formula : Formula Span}
    (derived : Statement room tokens formula) (grouped : formula.isGroup = true) :
    ∃ less, Primary less tokens formula := by
  cases derived with
  | range derived =>
      cases derived with
      | single derived => exact derived.primary_of_group grouped
      | _ => simp [isGroup] at grouped
  | _ => simp [isGroup] at grouped

/-- A text that starts with no separator is a block or one statement. -/
theorem Body.statement_of_first {room : Nat} {first : Token} {rest : List Token}
    {formula : Formula Span} (derived : Body room (first :: rest) formula)
    (noSeparator : ¬first.kind.isSeparator = true) :
    (∃ place statements, formula = .block place statements) ∨
      Statement room (first :: rest) formula := by
  generalize shape : first :: rest = tokens at derived
  cases derived with
  | @statement separated tokens _ separators statement =>
      cases separated with
      | nil => exact .inr statement
      | cons separator more =>
          simp only [List.cons_append, List.cons.injEq] at shape
          rw [shape.1] at noSeparator
          exact absurd (separators separator List.mem_cons_self) noSeparator
  | block => exact .inl ⟨_, _, rfl⟩

theorem Body.primary_of_group {room : Nat} {first : Token} {rest : List Token}
    {formula : Formula Span} (derived : Body room (first :: rest) formula)
    (noSeparator : ¬first.kind.isSeparator = true) (grouped : formula.isGroup = true) :
    ∃ less, Primary less (first :: rest) formula := by
  rcases derived.statement_of_first noSeparator with ⟨place, statements, rfl⟩ | statement
  · simp [isGroup] at grouped
  · exact statement.primary_of_group grouped

/-- A group as a primary. -/
theorem Primary.inner_of_group {room : Nat} {tokens : List Token} {formula : Formula Span}
    (derived : Primary room tokens formula) (grouped : formula.isGroup = true) :
    ∃ opening closing inside inner, tokens = opening :: (inside ++ [closing]) ∧
      Statement room inside inner := by
  cases derived with
  | group opens inside closes => exact ⟨_, _, _, _, rfl, inside⟩
  | _ => simp [isGroup] at grouped

variable {finish : Span}

/-- What is read from an opening parenthesis on starts with a group. -/
theorem leading_group {room least : Nat} {opening : Token} {rest : List Token}
    {result : Formula Span × List Token} (opens : opening.kind = .leftParenthesis)
    (read : outcome (readBinary finish (room + 1) least (opening :: rest)) = .ok result) :
    ∃ used closing behind inner, rest = used ++ closing :: behind ∧
      closing.kind = .rightParenthesis ∧ Statement room used inner := by
  have noSign : ¬opening.kind.isSign = true := by simp [opens, TokenKind.isSign]
  rw [outcome_read_binary, bind_eq_ok_iff] at read
  obtain ⟨operand, operandRead, _⟩ := read
  rw [outcome_read_unary_cons, if_neg noSign, outcome_read_power, bind_eq_ok_iff] at operandRead
  obtain ⟨base, baseRead, _⟩ := operandRead
  rw [outcome_read_postfix_chain, bind_eq_ok_iff] at baseRead
  obtain ⟨primary, primaryRead, _⟩ := baseRead
  rw [outcome_read_primary_group finish room rest opens, bind_eq_ok_iff] at primaryRead
  obtain ⟨⟨inner, last⟩, innerRead, closeRead⟩ := primaryRead
  rw [map_eq_ok_iff] at closeRead
  obtain ⟨⟨closing, behind⟩, closeRead, _⟩ := closeRead
  obtain ⟨same, closes⟩ := outcome_expect_eq_ok finish closeRead
  obtain ⟨used, parted, derived⟩ := statement_of_read innerRead
  dsimp only at same
  exact ⟨used, closing, behind, inner, by rw [parted, same], closes, derived⟩

/-- The group at the front is the one whose parentheses pair up. -/
theorem balanced_leading_group {room least : Nat} {opening closing : Token}
    {tokens behind : List Token} {result : Formula Span × List Token}
    (opens : opening.kind = .leftParenthesis) (closes : closing.kind = .rightParenthesis)
    (balanced : BalancedTokens tokens)
    (read : outcome (readBinary finish (room + 1) least
      (opening :: (tokens ++ closing :: behind))) = .ok result) :
    ∃ inner, Statement room tokens inner := by
  obtain ⟨used, last, rest, inner, parted, ends, derived⟩ := leading_group opens read
  have usedBalanced : BalancedTokens used := derived.paired.parentheses 0
  obtain ⟨same, _⟩ := balanced_front_unique closes ends balanced usedBalanced parted
  rw [same]
  exact ⟨inner, derived⟩

/-- The first part of a text that does not start with a separator. -/
theorem binary_of_body (finish : Span) {first : Token} {rest : List Token} {formula : Formula Span}
    (derived : Body mostNested (first :: rest) formula)
    (noSeparator : ¬first.kind.isSeparator = true) :
    ∃ result, outcome (readBinary finish mostNested 0 (first :: rest)) = .ok result := by
  have read : readBody finish (first :: rest) = .ok formula := derived.read
  have kept : (first :: rest).dropWhile (fun token => token.kind.isSeparator) = first :: rest :=
    List.dropWhile_cons_of_neg noSeparator
  rw [read_body_eq, kept, bind_eq_ok_iff] at read
  obtain ⟨statement, statementRead, _⟩ := read
  rw [outcome_read_assignment, bind_eq_ok_iff] at statementRead
  obtain ⟨range, rangeRead, _⟩ := statementRead
  rw [outcome_read_range, bind_eq_ok_iff] at rangeRead
  obtain ⟨level, levelRead, _⟩ := rangeRead
  exact ⟨level, levelRead⟩

theorem closed_before_minus (formula : Formula Span) {sign : Token} (rest : List Token)
    (isMinus : sign.kind = .minus) : Closed formula (sign :: rest) := by
  simp [Closed, continuesOperand, isMinus, TokenKind.isPower]

/-- One group taken from another: the tree is the difference of the two groups. -/
theorem difference_of_balanced {opening closing sign again last : Token}
    {first second : List Token} {formula : Formula Span}
    (opens : opening.kind = .leftParenthesis) (closes : closing.kind = .rightParenthesis)
    (isMinus : sign.kind = .minus) (reopens : again.kind = .leftParenthesis)
    (ends : last.kind = .rightParenthesis)
    (firstBalanced : BalancedTokens first) (secondBalanced : BalancedTokens second)
    (derived : Body mostNested
      (opening :: (first ++ closing :: sign :: again :: (second ++ [last]))) formula) :
    ∃ room place left right,
      mostNested = room + 1 ∧ Statement room first left ∧ Statement room second right ∧
        formula = .binary place .minus (.group (opening.span.through closing.span) left)
          (.group (again.span.through last.span) right) := by
  have roomy : mostNested = 47 + 1 := rfl
  have noSeparator : ¬opening.kind.isSeparator = true := by simp [opens, TokenKind.isSeparator]
  obtain ⟨result, read⟩ := binary_of_body ⟨.start, .start⟩ derived noSeparator
  have firstRead := read
  rw [roomy] at firstRead
  obtain ⟨left, leftDerived⟩ := balanced_leading_group opens closes firstBalanced firstRead
  have leftGroup := Primary.group opens leftDerived closes
  have leftLevel := leftGroup.level (Nat.le_succ productPrecedence)
  have parted : opening :: (first ++ closing :: sign :: again :: (second ++ [last])) =
      opening :: (first ++ [closing]) ++ sign :: again :: (second ++ [last]) := by simp
  have found : precedence? sign.kind = some 2 := by rw [isMinus]; rfl
  have looser : Looser (productPrecedence + 1) (sign :: again :: (second ++ [last])) :=
    looser_of_lt (Nat.lt_succ_self productPrecedence) _
  rw [parted, roomy, Level.read ⟨.start, .start⟩ _ (Nat.zero_le productPrecedence) leftLevel
    (closed_before_minus _ _ isMinus) looser, outcome_read_operators_cons] at read
  simp only [found, Nat.not_lt_zero, if_false] at read
  rw [bind_eq_ok_iff] at read
  obtain ⟨rightResult, rightRead, _⟩ := read
  obtain ⟨right, rightDerived⟩ := balanced_leading_group reopens ends secondBalanced rightRead
  have rightGroup := Primary.group reopens rightDerived ends
  have rightLevel := rightGroup.level (Nat.le_refl (productPrecedence + 1))
  have whole := Level.operation (leftLevel.weaken (by decide)) found (rightLevel.weaken (by decide))
  have same := derived.unique whole.body parted
  rw [isMinus] at same
  exact ⟨47, _, left, right, roomy, leftDerived, rightDerived, same⟩

end Grammar

end FormulaPlot
