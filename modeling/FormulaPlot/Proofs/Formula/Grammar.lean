import FormulaPlot.Formula.Reading

/-!
The grammar of formulas, layer by layer. Each layer derives a list of tokens together with the tree
that it spells, places included. The first index is the room for nesting: an operand, a sign, an
exponent and an assigned value take one level of it, and everything inside them has to do with what
is left.
-/

namespace FormulaPlot

set_option autoImplicit false

namespace Formula

/-- Whether the last token of an operand is a bare name. A parenthesis behind it is a call. -/
def endsInName {label : Type} : Formula label → Bool
  | symbol .. => true
  | unary _ _ operand => endsInName operand
  | binary _ _ _ right => endsInName right
  | _ => false

/-- What a value can be assigned to, function heads aside. -/
def isTarget {label : Type} : Formula label → Bool
  | symbol .. => true
  | index .. => true
  | member .. => true
  | _ => false

end Formula

namespace Grammar

open FormulaPlot.Formula

mutual

/-- A statement is a range, or a target with the statement whose value it gets. -/
inductive Statement : Nat → List Token → Formula Span → Prop
  | range {room : Nat} {tokens : List Token} {formula : Formula Span} :
      Range room tokens formula → Statement room tokens formula
  | assignment {room : Nat} {head tail : List Token} {sign : Token}
      {target value : Formula Span} :
      Range (room + 1) head target → target.isTarget = true → sign.kind = .assign →
      Statement room tail value →
      Statement (room + 1) (head ++ sign :: tail)
        (.assignment (target.place.through value.place) target value)
  | definition {room : Nat} {head tail : List Token} {sign : Token} {place : Span}
      {name : String} {arguments : List (Formula Span)} {parameters : List String}
      {body : Formula Span} :
      Range (room + 1) head (.call place name arguments) →
      arguments.map symbolName? = parameters.map some → sign.kind = .assign →
      Statement room tail body →
      Statement (room + 1) (head ++ sign :: tail)
        (.definition (place.through body.place) name parameters body)

/-- One operand of the loosest level, or two or three of them between colons. -/
inductive Range : Nat → List Token → Formula Span → Prop
  | single {room : Nat} {tokens : List Token} {formula : Formula Span} :
      Level room 0 tokens formula → Range room tokens formula
  | range {room : Nat} {head tail : List Token} {colon : Token} {first last : Formula Span} :
      Level room 0 head first → colon.kind = .colon → Level room 0 tail last →
      Range room (head ++ colon :: tail) (.range (first.place.through last.place) first last)
  | stepped {room : Nat} {head middle tail : List Token} {colon second : Token}
      {first step last : Formula Span} :
      Level room 0 head first → colon.kind = .colon → Level room 0 middle step →
      second.kind = .colon → Level room 0 tail last →
      Range room (head ++ colon :: (middle ++ second :: tail))
        (.steppedRange (first.place.through last.place) first last step)

/-- Operands joined by operators that bind at least as tightly as the level: comparisons (1), sums
(2), products (3). All of them group to the left: the operand on the right belongs to the next
level. A factor may follow a product directly. -/
inductive Level : Nat → Nat → List Token → Formula Span → Prop
  | operand {room level : Nat} {tokens : List Token} {formula : Formula Span} :
      productPrecedence < level → Operand room tokens formula → Level room level tokens formula
  | tighter {room level : Nat} {tokens : List Token} {formula : Formula Span} :
      Level room (level + 1) tokens formula → Level room level tokens formula
  | operation {room level : Nat} {head tail : List Token} {operator : Token}
      {left right : Formula Span} :
      Level room level head left → precedence? operator.kind = some level →
      Level room (level + 1) tail right →
      Level room level (head ++ operator :: tail)
        (.binary (left.place.through right.place) operator.kind left right)
  | product {room : Nat} {head tail : List Token} {first : Token} {left right : Formula Span} :
      Level room productPrecedence head left → Power room (first :: tail) right →
      startsFactor first.kind = true →
      ¬(first.kind = .leftParenthesis ∧ left.endsInName = true) →
      Level room productPrecedence (head ++ first :: tail)
        (.binary (left.place.through right.place) .star left right)

/-- A power behind any number of signs. -/
inductive Operand : Nat → List Token → Formula Span → Prop
  | power {room : Nat} {tokens : List Token} {formula : Formula Span} :
      Power room tokens formula → Operand (room + 1) tokens formula
  | signed {room : Nat} {sign : Token} {tokens : List Token} {operand : Formula Span} :
      sign.kind.isSign = true → Operand room tokens operand →
      Operand (room + 1) (sign :: tokens)
        (.unary (sign.span.through operand.place) sign.kind operand)

/-- Powers group to the right, and the exponent may have a sign. -/
inductive Power : Nat → List Token → Formula Span → Prop
  | base {room : Nat} {tokens : List Token} {formula : Formula Span} :
      Postfix room tokens formula → Power room tokens formula
  | raised {room : Nat} {head tail : List Token} {sign : Token} {base exponent : Formula Span} :
      Postfix room head base → sign.kind.isPower = true → Operand room tail exponent →
      Power room (head ++ sign :: tail)
        (.binary (base.place.through exponent.place) .caret base exponent)

/-- A primary with calls, indices and members. Only a bare name can be called. -/
inductive Postfix : Nat → List Token → Formula Span → Prop
  | primary {room : Nat} {tokens : List Token} {formula : Formula Span} :
      Primary room tokens formula → Postfix room tokens formula
  | call {room : Nat} {head items : List Token} {opening closing : Token} {place : Span}
      {name : String} {arguments : List (Formula Span)} :
      Postfix room head (.symbol place name) → opening.kind = .leftParenthesis →
      Items room items arguments → closing.kind = .rightParenthesis →
      Postfix room (head ++ opening :: (items ++ [closing]))
        (.call (place.through closing.span) name arguments)
  | index {room : Nat} {head items : List Token} {opening closing : Token}
      {target : Formula Span} {indices : List (Formula Span)} :
      Postfix room head target → opening.kind = .leftBracket →
      Items room items indices → closing.kind = .rightBracket →
      Postfix room (head ++ opening :: (items ++ [closing]))
        (.index (target.place.through closing.span) target indices)
  | member {room : Nat} {head : List Token} {dot name : Token} {target : Formula Span} :
      Postfix room head target → dot.kind = .dot → name.kind = .identifier →
      Postfix room (head ++ [dot, name])
        (.member (target.place.through name.span) target name.lexeme)

inductive Primary : Nat → List Token → Formula Span → Prop
  | number {room : Nat} {token : Token} :
      token.kind = .number →
      Primary room [token] (.constant token.span token.number token.lexeme)
  | name {room : Nat} {token : Token} :
      token.kind = .identifier → Primary room [token] (.symbol token.span token.lexeme)
  | group {room : Nat} {opening closing : Token} {tokens : List Token} {inner : Formula Span} :
      opening.kind = .leftParenthesis → Statement room tokens inner →
      closing.kind = .rightParenthesis →
      Primary room (opening :: (tokens ++ [closing]))
        (.group (opening.span.through closing.span) inner)
  | array {room : Nat} {opening closing : Token} {items : List Token}
      {elements : List (Formula Span)} :
      opening.kind = .leftBracket → Items room items elements → closing.kind = .rightBracket →
      Primary room (opening :: (items ++ [closing]))
        (.array (opening.span.through closing.span) elements)
  | emptyObject {room : Nat} {opening closing : Token} :
      opening.kind = .leftBrace → closing.kind = .rightBrace →
      Primary room [opening, closing] (.object (opening.span.through closing.span) [])
  | object {room : Nat} {opening closing : Token} {tokens : List Token}
      {entries : List (String × Formula Span)} :
      opening.kind = .leftBrace → Entries room tokens entries → closing.kind = .rightBrace →
      Primary room (opening :: (tokens ++ [closing]))
        (.object (opening.span.through closing.span) entries)

/-- Any number of ranges between commas. -/
inductive Items : Nat → List Token → List (Formula Span) → Prop
  | none {room : Nat} : Items room [] []
  | some {room : Nat} {tokens : List Token} {formulas : List (Formula Span)} :
      Sequence room tokens formulas → Items room tokens formulas

inductive Sequence : Nat → List Token → List (Formula Span) → Prop
  | last {room : Nat} {tokens : List Token} {formula : Formula Span} :
      Range room tokens formula → Sequence room tokens [formula]
  | more {room : Nat} {head tail : List Token} {comma : Token} {formula : Formula Span}
      {formulas : List (Formula Span)} :
      Range room head formula → comma.kind = .comma → Sequence room tail formulas →
      Sequence room (head ++ comma :: tail) (formula :: formulas)

/-- The properties of an object. -/
inductive Entries : Nat → List Token → List (String × Formula Span) → Prop
  | last {room : Nat} {key colon : Token} {tokens : List Token} {value : Formula Span} :
      key.kind = .identifier → colon.kind = .colon → Level room 0 tokens value →
      Entries room (key :: colon :: tokens) [(key.lexeme, value)]
  | more {room : Nat} {key colon comma : Token} {head tail : List Token} {value : Formula Span}
      {entries : List (String × Formula Span)} :
      key.kind = .identifier → colon.kind = .colon → Level room 0 head value →
      comma.kind = .comma → Entries room tail entries →
      Entries room (key :: colon :: (head ++ comma :: tail)) ((key.lexeme, value) :: entries)

end

def Separators (tokens : List Token) : Prop := ∀ token ∈ tokens, token.kind.isSeparator = true

/-- What may stand behind a statement: separators, and further statements each behind one
separator or more. -/
inductive Following : Nat → List Token → List (Formula Span) → Prop
  | none {room : Nat} {tokens : List Token} : Separators tokens → Following room tokens []
  | more {room : Nat} {separators head tail : List Token} {statement : Formula Span}
      {statements : List (Formula Span)} :
      Separators separators → separators ≠ [] → Statement room head statement →
      Following room tail statements →
      Following room (separators ++ (head ++ tail)) (statement :: statements)

/-- A whole text is one statement, or a block if a separator follows its first statement. -/
inductive Body : Nat → List Token → Formula Span → Prop
  | statement {room : Nat} {separators tokens : List Token} {formula : Formula Span} :
      Separators separators → Statement room tokens formula →
      Body room (separators ++ tokens) formula
  | block {room : Nat} {separators head tail : List Token} {first last : Token}
      {statement : Formula Span} {statements : List (Formula Span)} :
      Separators separators → Statement room head statement →
      Following room tail statements → tail ≠ [] →
      (separators ++ (head ++ tail)).head? = some first →
      (separators ++ (head ++ tail)).getLast? = some last →
      Body room (separators ++ (head ++ tail))
        (.block (first.span.through last.span) (statement :: statements))

end Grammar

end FormulaPlot
