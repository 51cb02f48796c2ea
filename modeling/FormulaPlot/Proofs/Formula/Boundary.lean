import FormulaPlot.Proofs.Formula.Grammar
import FormulaPlot.Proofs.Formula.Outcome

/-!
Where a layer of the grammar ends: the tokens that may and that may not follow it.
-/

namespace FormulaPlot

set_option autoImplicit false

namespace Formula

/-- Whether a token behind a formula belongs to its last operand. -/
def continuesOperand {label : Type} (formula : Formula label) (kind : TokenKind) : Bool :=
  kind.isPower || kind == .leftBracket || kind == .dot ||
    (kind == .leftParenthesis && formula.endsInName)

/-- Whether a token joins another operand with an operator that is at least as tight as a level. -/
def joins (least : Nat) (kind : TokenKind) : Bool :=
  match precedence? kind with
  | some precedence => decide (least ≤ precedence)
  | none => startsFactor kind && decide (least ≤ productPrecedence)

end Formula

namespace Grammar

open FormulaPlot.Formula

def Closed (formula : Formula Span) : List Token → Prop
  | [] => True
  | next :: _ => continuesOperand formula next.kind = false

def ClosedPostfix (formula : Formula Span) : List Token → Prop
  | [] => True
  | next :: _ => continuesPostfix formula next.kind = false

def Looser (least : Nat) : List Token → Prop
  | [] => True
  | next :: _ => joins least next.kind = false

theorem precedence_le {kind : TokenKind} {precedence : Nat}
    (found : precedence? kind = some precedence) : precedence ≤ productPrecedence := by
  cases kind <;> simp [precedence?, productPrecedence] at found ⊢ <;> omega

theorem joins_mono {least greater : Nat} {kind : TokenKind} (within : least ≤ greater)
    (apart : joins least kind = false) : joins greater kind = false := by
  unfold joins at apart ⊢
  cases found : precedence? kind with
  | none =>
      simp only [found, Bool.and_eq_false_iff, decide_eq_false_iff_not] at apart ⊢
      rcases apart with other | above
      · exact Or.inl other
      · exact Or.inr (by omega)
  | some precedence =>
      simp only [found, decide_eq_false_iff_not] at apart ⊢
      omega

theorem looser_mono {least greater : Nat} {tokens : List Token} (within : least ≤ greater)
    (looser : Looser least tokens) : Looser greater tokens := by
  cases tokens with
  | nil => trivial
  | cons next rest => exact joins_mono within looser

/-- No operator is tighter than a product. -/
theorem joins_of_lt {least : Nat} (above : productPrecedence < least) (kind : TokenKind) :
    joins least kind = false := by
  unfold joins
  cases found : precedence? kind with
  | none =>
      simp only [Bool.and_eq_false_iff, decide_eq_false_iff_not]
      exact Or.inr (by omega)
  | some precedence =>
      have bound := precedence_le found
      simp only [decide_eq_false_iff_not]
      omega

theorem looser_of_lt {least : Nat} (above : productPrecedence < least) (tokens : List Token) :
    Looser least tokens := by
  cases tokens with
  | nil => trivial
  | cons next rest => exact joins_of_lt above next.kind

theorem closed_congr {first second : Formula Span} {tokens : List Token}
    (same : first.endsInName = second.endsInName) (closed : Closed first tokens) :
    Closed second tokens := by
  cases tokens with
  | nil => trivial
  | cons next rest =>
      unfold Closed continuesOperand at closed ⊢
      rw [← same]
      exact closed

/-- An operator between operands belongs to neither of them. -/
theorem operator_closes (formula : Formula Span) {kind : TokenKind} {precedence : Nat}
    (found : precedence? kind = some precedence) : continuesOperand formula kind = false := by
  cases kind <;> simp [precedence?] at found <;> rfl

theorem factor_closes {formula : Formula Span} {kind : TokenKind}
    (factor : startsFactor kind = true)
    (apart : ¬(kind = .leftParenthesis ∧ formula.endsInName = true)) :
    continuesOperand formula kind = false := by
  cases kind <;> simp [startsFactor] at factor
  · rfl
  · rfl
  · simp only [true_and, Bool.not_eq_true] at apart
    simp [continuesOperand, TokenKind.isPower, apart]

theorem precedence_of_factor {kind : TokenKind} (factor : startsFactor kind = true) :
    precedence? kind = none := by
  cases kind <;> simp [startsFactor] at factor <;> rfl

/-- Tokens that end a statement: closing brackets, commas and separators. -/
def endsStatement (kind : TokenKind) : Bool :=
  kind.closes || kind == .comma || kind.isSeparator

def endsRange (kind : TokenKind) : Bool := endsStatement kind || kind == .assign

def endsLevel (kind : TokenKind) : Bool := endsRange kind || kind == .colon

/-- The next token, if there is one, is of some class. -/
def Before (kinds : TokenKind → Bool) : List Token → Prop
  | [] => True
  | next :: _ => kinds next.kind = true

theorem before_mono {narrow wide : TokenKind → Bool} {tokens : List Token}
    (included : ∀ kind, narrow kind = true → wide kind = true) (before : Before narrow tokens) :
    Before wide tokens := by
  cases tokens with
  | nil => trivial
  | cons next rest => exact included next.kind before

theorem ends_range_of_statement (kind : TokenKind) (ends : endsStatement kind = true) :
    endsRange kind = true := by
  simp [endsRange, ends]

theorem ends_level_of_range (kind : TokenKind) (ends : endsRange kind = true) :
    endsLevel kind = true := by
  simp [endsLevel, ends]

theorem end_closes (formula : Formula Span) (kind : TokenKind) (ends : endsLevel kind = true) :
    continuesOperand formula kind = false := by
  cases kind <;> simp [endsLevel, endsRange, endsStatement, TokenKind.closes,
    TokenKind.isSeparator] at ends <;> rfl

theorem end_joins_nothing (least : Nat) (kind : TokenKind) (ends : endsLevel kind = true) :
    joins least kind = false := by
  cases kind <;> simp [endsLevel, endsRange, endsStatement, TokenKind.closes,
    TokenKind.isSeparator] at ends <;> rfl

theorem closed_of_ends (formula : Formula Span) {tokens : List Token}
    (ends : Before endsLevel tokens) : Closed formula tokens := by
  cases tokens with
  | nil => trivial
  | cons next rest => exact end_closes formula next.kind ends

theorem looser_of_ends (least : Nat) {tokens : List Token} (ends : Before endsLevel tokens) :
    Looser least tokens := by
  cases tokens with
  | nil => trivial
  | cons next rest => exact end_joins_nothing least next.kind ends

theorem Level.weaken {room : Nat} {tokens : List Token} {formula : Formula Span}
    {least level : Nat} (within : least ≤ level) (derived : Level room level tokens formula) :
    Level room least tokens formula := by
  induction level with
  | zero =>
      have same : least = 0 := by omega
      rwa [same]
  | succ level induction =>
      by_cases same : least = level + 1
      · rwa [same]
      · exact induction (by omega) (.tighter derived)

theorem Postfix.ends_in_name {room : Nat} {tokens : List Token} {formula : Formula Span}
    (derived : Postfix room tokens formula) : formula.endsInName = formula.isSymbol := by
  cases derived with
  | primary derived => cases derived <;> rfl
  | _ => rfl

end Grammar

end FormulaPlot
