import FormulaPlot.Proofs.Formula.Cuts
import FormulaPlot.Proofs.Formula.Spelling

/-!
Which formulas can be spelled. The parts of a node that was read bind at least as tightly as their
place in it asks for, and constants hold the values of their numbers.
-/

namespace FormulaPlot

open FormulaPlot.Scanning

set_option autoImplicit false

/-- The value of a number by itself. -/
def numeralValue (lexeme : String) : Float :=
  Token.number ⟨.number, lexeme, ⟨.start, .start⟩⟩

namespace Formula

open FormulaPlot.Grammar

variable {label : Type}

def signLayer : Nat := 4

def powerLayer : Nat := 5

def primaryLayer : Nat := 6

/-- The layer of the grammar that a node belongs to: the precedences of the operators, then signs,
powers and primaries. -/
def layer : Formula label → Nat
  | unary .. => signLayer
  | binary _ operator _ _ => (precedence? operator).getD powerLayer
  | assignment .. | definition .. | range .. | steppedRange .. | block .. => 0
  | _ => primaryLayer

theorem layer_of_precedence {kind : TokenKind} {precedence : Nat} {place : label}
    {left right : Formula label} (found : precedence? kind = some precedence) :
    (binary place kind left right).layer = precedence := by
  rw [layer, found, Option.getD_some]

theorem layer_le (formula : Formula label) : formula.layer ≤ primaryLayer := by
  cases formula with
  | binary place operator left right =>
      cases found : precedence? operator with
      | none =>
          rw [layer, found]
          decide
      | some precedence =>
          rw [layer_of_precedence found]
          exact Nat.le_trans (precedence_le found) (by decide)
  | _ => exact Nat.le_of_ble_eq_true rfl

/-- The rule of a single node: what its number and its operands can be. -/
def WellPlaced : Formula label → Prop
  | constant _ value lexeme => IsNumeral lexeme ∧ value = numeralValue lexeme
  | unary _ operator operand => operator.isSign = true ∧ signLayer ≤ operand.layer
  | binary _ operator left right =>
      (∃ precedence, precedence? operator = some precedence ∧ precedence ≤ left.layer ∧
        precedence < right.layer) ∨
      (operator = .caret ∧ primaryLayer ≤ left.layer ∧ signLayer ≤ right.layer)
  | _ => True

def Layered (formula : Formula label) : Prop := ∀ node ∈ formula.walk, node.WellPlaced

theorem layered_iff (formula : Formula label) :
    formula.Layered ↔ formula.WellPlaced ∧ ∀ child ∈ formula.children, child.Layered := by
  unfold Layered
  rw [walk_eq, List.forall_mem_cons]
  simp only [List.mem_flatMap]
  constructor
  · rintro ⟨root, parts⟩
    exact ⟨root, fun child member node inside => parts node ⟨child, member, inside⟩⟩
  · rintro ⟨root, parts⟩
    refine ⟨root, ?_⟩
    rintro node ⟨child, member, inside⟩
    exact parts child member node inside

end Formula

namespace Grammar

open FormulaPlot.Formula

def Numerals (tokens : List Token) : Prop :=
  ∀ token ∈ tokens, token.kind = .number → IsNumeral token.lexeme

theorem numerals_append {head tail : List Token} :
    Numerals (head ++ tail) ↔ Numerals head ∧ Numerals tail :=
  List.forall_mem_append

theorem numerals_cons {first : Token} {rest : List Token} (numerals : Numerals (first :: rest)) :
    Numerals rest :=
  (List.forall_mem_cons.mp numerals).2

/-- Tokens on both sides of a sign. -/
theorem numerals_around {head tail : List Token} {sign : Token}
    (numerals : Numerals (head ++ sign :: tail)) : Numerals head ∧ Numerals tail := by
  rw [numerals_append] at numerals
  exact ⟨numerals.1, numerals_cons numerals.2⟩

theorem numerals_within {opening closing : Token} {tokens : List Token}
    (numerals : Numerals (opening :: (tokens ++ [closing]))) : Numerals tokens :=
  (numerals_append.mp (numerals_cons numerals)).1

theorem layered_leaf {formula : Formula Span} (leaf : formula.children = [])
    (root : formula.WellPlaced) : formula.Layered := by
  rw [layered_iff, leaf]
  exact ⟨root, List.forall_mem_nil _⟩

theorem layered_one {formula child : Formula Span} (single : formula.children = [child])
    (root : formula.WellPlaced) (part : child.Layered) : formula.Layered := by
  rw [layered_iff, single]
  exact ⟨root, List.forall_mem_singleton.mpr part⟩

theorem layered_two {formula first second : Formula Span}
    (both : formula.children = [first, second]) (root : formula.WellPlaced)
    (left : first.Layered) (right : second.Layered) : formula.Layered := by
  rw [layered_iff, both, List.forall_mem_cons, List.forall_mem_singleton]
  exact ⟨root, left, right⟩

mutual

theorem Statement.layered {room : Nat} {tokens : List Token} {formula : Formula Span} :
    Statement room tokens formula → Numerals tokens → formula.Layered
  | .range derived, numerals => derived.layered numerals
  | .assignment target _ _ value, numerals => by
      have ⟨heads, tails⟩ := numerals_around numerals
      exact layered_two rfl trivial (target.layered heads) (value.layered tails)
  | .definition _ _ _ body, numerals =>
      layered_one rfl trivial (body.layered (numerals_around numerals).2)

theorem Range.layered {room : Nat} {tokens : List Token} {formula : Formula Span} :
    Range room tokens formula → Numerals tokens → formula.Layered
  | .single derived, numerals => (derived.layered numerals).1
  | .range first _ last, numerals => by
      have ⟨heads, tails⟩ := numerals_around numerals
      exact layered_two rfl trivial (first.layered heads).1 (last.layered tails).1
  | .stepped first _ step _ last, numerals => by
      have ⟨heads, behind⟩ := numerals_around numerals
      have ⟨middles, tails⟩ := numerals_around behind
      rw [layered_iff]
      simp only [children, List.forall_mem_cons]
      exact ⟨trivial, (first.layered heads).1, (last.layered tails).1, (step.layered middles).1,
        List.forall_mem_nil _⟩

/-- Operands of a level are at least as tight as the level. -/
theorem Level.layered {room level : Nat} {tokens : List Token} {formula : Formula Span} :
    Level room level tokens formula → Numerals tokens →
      formula.Layered ∧ min level signLayer ≤ formula.layer
  | .operand _ derived, numerals => by
      have ⟨layered, tight⟩ := derived.layered numerals
      exact ⟨layered, Nat.le_trans (Nat.min_le_right _ _) tight⟩
  | .tighter derived, numerals => by
      have ⟨layered, tight⟩ := derived.layered numerals
      exact ⟨layered, by omega⟩
  | .operation left found right, numerals => by
      have ⟨heads, tails⟩ := numerals_around numerals
      have ⟨leftLayered, leftTight⟩ := left.layered heads
      have ⟨rightLayered, rightTight⟩ := right.layered tails
      have bound := precedence_le found
      unfold productPrecedence at bound
      unfold signLayer at leftTight rightTight
      refine ⟨layered_two rfl (.inl ⟨_, found, by omega, by omega⟩) leftLayered rightLayered, ?_⟩
      rw [layer_of_precedence found]
      exact Nat.min_le_left _ _
  | .product left right _ _, numerals => by
      have ⟨heads, tails⟩ := numerals_append.mp numerals
      have ⟨leftLayered, leftTight⟩ := left.layered heads
      have ⟨rightLayered, rightTight⟩ := right.layered tails
      have found : precedence? .star = some productPrecedence := rfl
      unfold productPrecedence signLayer at leftTight
      unfold powerLayer at rightTight
      refine ⟨layered_two rfl (.inl ⟨3, rfl, by omega, by omega⟩) leftLayered rightLayered, ?_⟩
      rw [layer_of_precedence found]
      exact Nat.min_le_left _ _

theorem Operand.layered {room : Nat} {tokens : List Token} {formula : Formula Span} :
    Operand room tokens formula → Numerals tokens → formula.Layered ∧ signLayer ≤ formula.layer
  | .power derived, numerals => by
      have ⟨layered, tight⟩ := derived.layered numerals
      exact ⟨layered, Nat.le_trans (Nat.le_succ _) tight⟩
  | .signed isSign operand, numerals => by
      have ⟨layered, tight⟩ := operand.layered (numerals_cons numerals)
      exact ⟨layered_one rfl ⟨isSign, tight⟩ layered, Nat.le_refl _⟩

theorem Power.layered {room : Nat} {tokens : List Token} {formula : Formula Span} :
    Power room tokens formula → Numerals tokens → formula.Layered ∧ powerLayer ≤ formula.layer
  | .base derived, numerals => by
      have ⟨layered, tight⟩ := derived.layered numerals
      rw [tight]
      exact ⟨layered, Nat.le_succ _⟩
  | .raised base _ exponent, numerals => by
      have ⟨heads, tails⟩ := numerals_around numerals
      have ⟨baseLayered, baseTight⟩ := base.layered heads
      have ⟨exponentLayered, exponentTight⟩ := exponent.layered tails
      exact ⟨layered_two rfl (.inr ⟨rfl, Nat.le_of_eq baseTight.symm, exponentTight⟩) baseLayered
        exponentLayered, Nat.le_refl _⟩

theorem Postfix.layered {room : Nat} {tokens : List Token} {formula : Formula Span} :
    Postfix room tokens formula → Numerals tokens → formula.Layered ∧ formula.layer = primaryLayer
  | .primary derived, numerals => derived.layered numerals
  | .call _ _ items _, numerals => by
      have inner := numerals_within (numerals_append.mp numerals).2
      exact ⟨(layered_iff _).mpr ⟨trivial, items.layered inner⟩, rfl⟩
  | .index target _ items _, numerals => by
      have ⟨heads, tails⟩ := numerals_append.mp numerals
      have parts := items.layered (numerals_within tails)
      have targets := (target.layered heads).1
      exact ⟨(layered_iff _).mpr ⟨trivial, List.forall_mem_cons.mpr ⟨targets, parts⟩⟩, rfl⟩
  | .member target _ _, numerals => by
      have targets := (target.layered (numerals_append.mp numerals).1).1
      exact ⟨layered_one rfl trivial targets, rfl⟩

theorem Primary.layered {room : Nat} {tokens : List Token} {formula : Formula Span} :
    Primary room tokens formula → Numerals tokens → formula.Layered ∧ formula.layer = primaryLayer
  | .number isNumber, numerals => by
      have numeral := numerals _ List.mem_cons_self isNumber
      exact ⟨layered_leaf rfl ⟨numeral, rfl⟩, rfl⟩
  | .name _, _ => ⟨layered_leaf rfl trivial, rfl⟩
  | .group _ inner _, numerals =>
      ⟨layered_one rfl trivial (inner.layered (numerals_within numerals)), rfl⟩
  | .array _ items _, numerals =>
      ⟨(layered_iff _).mpr ⟨trivial, items.layered (numerals_within numerals)⟩, rfl⟩
  | .emptyObject _ _, _ => ⟨layered_leaf rfl trivial, rfl⟩
  | .object _ entries _, numerals =>
      ⟨(layered_iff _).mpr ⟨trivial, entries.layered (numerals_within numerals)⟩, rfl⟩

theorem Items.layered {room : Nat} {tokens : List Token} {formulas : List (Formula Span)} :
    Items room tokens formulas → Numerals tokens → ∀ formula ∈ formulas, formula.Layered
  | .none, _ => List.forall_mem_nil _
  | .some items, numerals => items.layered numerals

theorem Sequence.layered {room : Nat} {tokens : List Token} {formulas : List (Formula Span)} :
    Sequence room tokens formulas → Numerals tokens → ∀ formula ∈ formulas, formula.Layered
  | .last derived, numerals => List.forall_mem_singleton.mpr (derived.layered numerals)
  | .more derived _ rest, numerals => by
      have ⟨heads, tails⟩ := numerals_around numerals
      exact List.forall_mem_cons.mpr ⟨derived.layered heads, rest.layered tails⟩

theorem Entries.layered {room : Nat} {tokens : List Token}
    {entries : List (String × Formula Span)} :
    Entries room tokens entries → Numerals tokens →
      ∀ formula ∈ entries.map Prod.snd, formula.Layered
  | .last _ _ value, numerals => by
      have values := numerals_cons (numerals_cons numerals)
      exact List.forall_mem_singleton.mpr (value.layered values).1
  | .more _ _ value _ rest, numerals => by
      have ⟨heads, tails⟩ := numerals_around (numerals_cons (numerals_cons numerals))
      exact List.forall_mem_cons.mpr ⟨(value.layered heads).1, rest.layered tails⟩

end

theorem Following.layered {room : Nat} {tokens : List Token} {statements : List (Formula Span)}
    (derived : Following room tokens statements) (numerals : Numerals tokens) :
    ∀ statement ∈ statements, statement.Layered := by
  induction derived with
  | none => exact List.forall_mem_nil _
  | more _ _ first _ induction =>
      have ⟨heads, tails⟩ := numerals_append.mp (numerals_append.mp numerals).2
      exact List.forall_mem_cons.mpr ⟨first.layered heads, induction tails⟩

theorem Body.layered {room : Nat} {tokens : List Token} {formula : Formula Span}
    (derived : Body room tokens formula) (numerals : Numerals tokens) : formula.Layered := by
  cases derived with
  | statement _ first => exact first.layered (numerals_append.mp numerals).2
  | block _ first behind =>
      have ⟨heads, tails⟩ := numerals_append.mp (numerals_append.mp numerals).2
      rw [layered_iff]
      exact ⟨trivial, List.forall_mem_cons.mpr ⟨first.layered heads, behind.layered tails⟩⟩

theorem numerals_of_lexed {depth : Nat} {characters : List Char} {tokens : List Token}
    (lexed : Lexed depth characters (tokens.map Token.sense)) : Numerals tokens := by
  intro token member number
  have sense : token.sense = (.number, token.lexeme) := by
    unfold Token.sense senseOf
    rw [number]
    rfl
  have numeral := lexed.numerals token.sense (List.mem_map_of_mem member)
  rw [sense] at numeral
  exact numeral rfl

end Grammar

/-- What is read from a text is well placed at every node. -/
theorem Formula.layered_of_read {text : String} {formula : Formula Span}
    (spelled : Formula.read text = .ok formula) : formula.Layered := by
  have ⟨tokens, lexed, derived, _⟩ := tokens_of_read spelled
  exact derived.layered (Grammar.numerals_of_lexed lexed)

end FormulaPlot
