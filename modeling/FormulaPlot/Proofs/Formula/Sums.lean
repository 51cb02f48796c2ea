import FormulaPlot.Proofs.Formula.Acceptance
import FormulaPlot.Proofs.Formula.Groups

/-!
Safe texts are sums. One sum can be taken from another by writing a minus between them: the terms of
the second sum group to the left of it.
-/

namespace FormulaPlot.Grammar

open FormulaPlot.Formula

set_option autoImplicit false

def sumPrecedence : Nat := 2

variable {allowed : List String}

theorem safe_left {place : Span} {operator : TokenKind} {left right : Formula Span}
    (accepted : (binary place operator left right).firstViolation allowed = none) :
    left.firstViolation allowed = none := by
  rw [accepted_iff] at accepted
  exact accepted.2 left (by simp [children])

theorem safe_right {place : Span} {operator : TokenKind} {left right : Formula Span}
    (accepted : (binary place operator left right).firstViolation allowed = none) :
    right.firstViolation allowed = none := by
  rw [accepted_iff] at accepted
  exact accepted.2 right (by simp [children])

theorem safe_operator {place : Span} {operator : TokenKind} {left right : Formula Span}
    (accepted : (binary place operator left right).firstViolation allowed = none) :
    operator.isArithmetic = true := by
  rw [accepted_iff] at accepted
  simpa [violation?] using accepted.1

theorem safe_binary {place : Span} {operator : TokenKind} {left right : Formula Span}
    (arithmetic : operator.isArithmetic = true) (leftSafe : left.firstViolation allowed = none)
    (rightSafe : right.firstViolation allowed = none) :
    (binary place operator left right).firstViolation allowed = none := by
  rw [accepted_iff]
  refine ⟨by simp [violation?, arithmetic], ?_⟩
  simp [children, leftSafe, rightSafe]

theorem sum_of_arithmetic {kind : TokenKind} {precedence : Nat}
    (arithmetic : kind.isArithmetic = true) (found : precedence? kind = some precedence) :
    sumPrecedence ≤ precedence := by
  cases kind <;> simp [TokenKind.isArithmetic] at arithmetic <;> simp [precedence?] at found <;>
    simp [sumPrecedence, ← found]

/-- Safe formulas compare nothing. -/
theorem Level.sum {room level : Nat} {tokens : List Token} {formula : Formula Span} :
    Level room level tokens formula → formula.firstViolation allowed = none →
      Level room sumPrecedence tokens formula
  | .operand within derived, _ =>
      Level.weaken (Nat.le_trans (Nat.le_succ sumPrecedence) (Nat.le_of_lt within))
        (.operand within derived)
  | .tighter derived, accepted => Level.sum derived accepted
  | .operation left found right, accepted =>
      Level.weaken (sum_of_arithmetic (safe_operator accepted) found)
        (.operation left found right)
  | .product left right factor apart, _ =>
      Level.weaken (by decide) (.product left right factor apart)

theorem Statement.sum {room : Nat} {tokens : List Token} {formula : Formula Span}
    (derived : Statement room tokens formula)
    (accepted : formula.firstViolation allowed = none) :
    Level room sumPrecedence tokens formula := by
  have root := ((accepted_iff formula).mp accepted).1
  cases derived with
  | range derived =>
      cases derived with
      | single derived => exact derived.sum accepted
      | _ => simp [violation?] at root
  | _ => simp [violation?] at root

theorem Body.sum {room : Nat} {first : Token} {rest : List Token} {formula : Formula Span}
    (derived : Body room (first :: rest) formula) (noSeparator : ¬first.kind.isSeparator = true)
    (accepted : formula.firstViolation allowed = none) :
    Level room sumPrecedence (first :: rest) formula := by
  rcases derived.statement_of_first noSeparator with ⟨place, statements, rfl⟩ | statement
  · have root := ((accepted_iff _).mp accepted).1
    simp [violation?] at root
  · exact statement.sum accepted

theorem Level.operation_of_tighter {room level : Nat} {head tail : List Token} {operator : Token}
    {left right : Formula Span} (leftDerived : Level room level head left)
    (found : precedence? operator.kind = some level)
    (rightDerived : Level room (level + 1) tail right)
    (arithmetic : operator.kind.isArithmetic = true)
    (leftSafe : left.firstViolation allowed = none)
    (rightSafe : right.firstViolation allowed = none) :
    ∃ formula, Level room level (head ++ operator :: tail) formula ∧
      formula.firstViolation allowed = none :=
  ⟨_, .operation leftDerived found rightDerived, safe_binary arithmetic leftSafe rightSafe⟩

/-- A sum taken from another one is a sum, whatever its terms are. -/
theorem Level.difference {room level : Nat} {head tail : List Token} {sign : Token}
    {left right : Formula Span} (isSum : level = sumPrecedence)
    (leftDerived : Level room level head left) (isMinus : sign.kind = .minus)
    (leftSafe : left.firstViolation allowed = none) :
    Level room level tail right → right.firstViolation allowed = none →
      ∃ formula, Level room level (head ++ sign :: tail) formula ∧
        formula.firstViolation allowed = none
  | .operand within derived, rightSafe =>
      absurd within (by rw [isSum]; decide)
  | .tighter derived, rightSafe =>
      leftDerived.operation_of_tighter (by rw [isMinus, isSum]; rfl) derived
        (by rw [isMinus]; rfl) leftSafe rightSafe
  | .operation first found second, rightSafe => by
      obtain ⟨formula, derived, safe⟩ :=
        Level.difference isSum leftDerived isMinus leftSafe first (safe_left rightSafe)
      have whole := derived.operation_of_tighter found second (safe_operator rightSafe) safe
        (safe_right rightSafe)
      rwa [List.append_assoc] at whole
  | .product left right factor apart, rightSafe =>
      absurd isSum (by decide)

end FormulaPlot.Grammar
