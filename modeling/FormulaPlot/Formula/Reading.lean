import FormulaPlot.Formula.Scanning
import FormulaPlot.Formula.Traversal

/-!
Formulas from tokens. From the loosest to the tightest binding: separators; `=`; `:`; comparisons;
sums; products, written or by juxtaposition; signs; powers; calls, indices and members. Powers and
assignments group to the right, the other operators to the left.
-/

namespace FormulaPlot

set_option autoImplicit false

inductive SyntaxFault where
  | unexpectedToken (expected found : String) (span : Span)
  | unexpectedEnd (expected : String) (span : Span)
  | invalidTarget (span : Span)
  | tooDeep (span : Span)
  | exhausted
  deriving DecidableEq, Repr

namespace Formula

/-- Signs, operands, exponents and assigned values open one level each. -/
def mostNested : Nat := 48

/-- A result with the tokens behind it, which are fewer than a bound. -/
structure Taken (α : Type) (bound : Nat) where
  value : α
  rest : List Token
  within : rest.length < bound

abbrev Reading (bound : Nat) := Except SyntaxFault (Taken (Formula Span) bound)

def precedence? : TokenKind → Option Nat
  | .equal | .notEqual | .less | .greater | .lessEqual | .greaterEqual => some 1
  | .plus | .minus => some 2
  | .star | .slash | .percent => some 3
  | _ => none

/-- The precedence of a product that is written by juxtaposition. -/
def productPrecedence : Nat := 3

/-- Kinds that start a factor of such a product. -/
def startsFactor (kind : TokenKind) : Bool :=
  kind == .number || kind == .identifier || kind == .leftParenthesis

def spanAt (finish : Span) : List Token → Span
  | [] => finish
  | token :: _ => token.span

def expected {α : Type} (finish : Span) (what : String) : List Token → Except SyntaxFault α
  | [] => .error (.unexpectedEnd what finish)
  | token :: _ => .error (.unexpectedToken what token.lexeme token.span)

def expect (finish : Span) (kind : TokenKind) (what : String) (tokens : List Token) :
    Except SyntaxFault (Taken Token tokens.length) :=
  match tokens with
  | [] => expected finish what []
  | token :: rest =>
      if token.kind = kind then .ok ⟨token, rest, by simp⟩
      else expected finish what (token :: rest)

def closedBy? (closing : TokenKind) (tokens : List Token) :
    Option (Taken Token tokens.length) :=
  match tokens with
  | [] => none
  | token :: rest => if token.kind = closing then some ⟨token, rest, by simp⟩ else none

def closingBrace : String := "'\x7d'"

def joined (operator : TokenKind) (left right : Formula Span) : Formula Span :=
  .binary (left.place.through right.place) operator left right

/-- Names, elements and members can be assigned to. A call whose arguments are all names is the
head of a function definition. -/
def assign (target value : Formula Span) : Except SyntaxFault (Formula Span) :=
  let place := target.place.through value.place
  match target with
  | .call _ name arguments =>
      if arguments.all isSymbol then
        .ok (.definition place name (arguments.filterMap symbolName?) value)
      else .error (.invalidTarget target.place)
  | .symbol .. | .index .. | .member .. => .ok (.assignment place target value)
  | _ => .error (.invalidTarget target.place)

mutual

def readAssignment (finish : Span) (room : Nat) (tokens : List Token) : Reading tokens.length :=
  match readRange finish room tokens with
  | .error fault => .error fault
  | .ok ⟨target, [], within⟩ => .ok ⟨target, [], within⟩
  | .ok ⟨target, sign :: rest, within⟩ =>
      if sign.kind = .assign then
        match room with
        | 0 => .error (.tooDeep (spanAt finish rest))
        | room + 1 =>
            match readAssignment finish room rest with
            | .error fault => .error fault
            | .ok ⟨value, behind, fewer⟩ =>
                match assign target value with
                | .error fault => .error fault
                | .ok formula =>
                    .ok ⟨formula, behind, by simp only [List.length_cons] at within; omega⟩
      else .ok ⟨target, sign :: rest, within⟩
termination_by 16 * tokens.length + 8
decreasing_by
  all_goals (try simp only [List.length_cons] at *); omega

def readRange (finish : Span) (room : Nat) (tokens : List Token) : Reading tokens.length :=
  match readBinary finish room 0 tokens with
  | .error fault => .error fault
  | .ok ⟨first, [], within⟩ => .ok ⟨first, [], within⟩
  | .ok ⟨first, colon :: rest, within⟩ =>
      if colon.kind = .colon then
        match readBinary finish room 0 rest with
        | .error fault => .error fault
        | .ok ⟨second, [], fewer⟩ =>
            .ok ⟨.range (first.place.through second.place) first second, [],
              by simp only [List.length_cons, List.length_nil] at *; omega⟩
        | .ok ⟨second, next :: behind, fewer⟩ =>
            if next.kind = .colon then
              match readBinary finish room 0 behind with
              | .error fault => .error fault
              | .ok ⟨third, behind, fewest⟩ =>
                  .ok ⟨.steppedRange (first.place.through third.place) first third second, behind,
                    by simp only [List.length_cons] at *; omega⟩
            else
              .ok ⟨.range (first.place.through second.place) first second, next :: behind,
                by simp only [List.length_cons] at *; omega⟩
      else .ok ⟨first, colon :: rest, within⟩
termination_by 16 * tokens.length + 7
decreasing_by
  all_goals (try simp only [List.length_cons] at *); omega

/-- Operands joined by operators that bind at least as tightly as `least`. -/
def readBinary (finish : Span) (room least : Nat) (tokens : List Token) :
    Reading tokens.length :=
  match readUnary finish room tokens with
  | .error fault => .error fault
  | .ok ⟨left, rest, within⟩ =>
      match readOperators finish room least left rest with
      | .error fault => .error fault
      | .ok ⟨formula, behind, fewer⟩ => .ok ⟨formula, behind, by omega⟩
termination_by 16 * tokens.length + 6
decreasing_by
  all_goals omega

def readOperators (finish : Span) (room least : Nat) (left : Formula Span)
    (tokens : List Token) : Reading (tokens.length + 1) :=
  match tokens with
  | [] => .ok ⟨left, [], by simp⟩
  | next :: rest =>
      match precedence? next.kind with
      | none =>
          if startsFactor next.kind && decide (least ≤ productPrecedence) then
            match readPower finish room (next :: rest) with
            | .error fault => .error fault
            | .ok ⟨right, behind, within⟩ =>
                match readOperators finish room least (joined .star left right) behind with
                | .error fault => .error fault
                | .ok ⟨formula, behind, fewer⟩ => .ok ⟨formula, behind, by omega⟩
          else .ok ⟨left, next :: rest, by simp⟩
      | some precedence =>
          if precedence < least then .ok ⟨left, next :: rest, by simp⟩
          else
            match readBinary finish room (precedence + 1) rest with
            | .error fault => .error fault
            | .ok ⟨right, behind, within⟩ =>
                match readOperators finish room least (joined next.kind left right) behind with
                | .error fault => .error fault
                | .ok ⟨formula, behind, fewer⟩ =>
                    .ok ⟨formula, behind, by simp only [List.length_cons]; omega⟩
termination_by 16 * tokens.length + 5
decreasing_by
  all_goals (try simp only [List.length_cons] at *); omega

def readUnary (finish : Span) (room : Nat) (tokens : List Token) : Reading tokens.length :=
  match room with
  | 0 => .error (.tooDeep (spanAt finish tokens))
  | room + 1 =>
      match tokens with
      | [] => readPower finish room []
      | sign :: rest =>
          if sign.kind.isSign then
            match readUnary finish room rest with
            | .error fault => .error fault
            | .ok ⟨operand, behind, within⟩ =>
                .ok ⟨.unary (sign.span.through operand.place) sign.kind operand, behind,
                  by simp only [List.length_cons]; omega⟩
          else readPower finish room (sign :: rest)
termination_by 16 * tokens.length + 5
decreasing_by
  all_goals (try simp only [List.length_cons] at *); omega

/-- The exponent of a power may carry its own sign. -/
def readPower (finish : Span) (room : Nat) (tokens : List Token) : Reading tokens.length :=
  match readPostfix finish room tokens with
  | .error fault => .error fault
  | .ok ⟨base, [], within⟩ => .ok ⟨base, [], within⟩
  | .ok ⟨base, sign :: rest, within⟩ =>
      if sign.kind.isPower then
        match readUnary finish room rest with
        | .error fault => .error fault
        | .ok ⟨exponent, behind, fewer⟩ =>
            .ok ⟨joined .caret base exponent, behind,
              by simp only [List.length_cons] at within; omega⟩
      else .ok ⟨base, sign :: rest, within⟩
termination_by 16 * tokens.length + 4
decreasing_by
  all_goals (try simp only [List.length_cons] at *); omega

def readPostfix (finish : Span) (room : Nat) (tokens : List Token) : Reading tokens.length :=
  match readPrimary finish room tokens with
  | .error fault => .error fault
  | .ok ⟨formula, rest, within⟩ =>
      match readSuffixes finish room formula rest with
      | .error fault => .error fault
      | .ok ⟨formula, behind, fewer⟩ => .ok ⟨formula, behind, by omega⟩
termination_by 16 * tokens.length + 3
decreasing_by
  all_goals omega

/-- A parenthesis calls only a bare name; behind anything else it starts a factor. -/
def readSuffixes (finish : Span) (room : Nat) (formula : Formula Span) (tokens : List Token) :
    Reading (tokens.length + 1) :=
  match tokens with
  | [] => .ok ⟨formula, [], by simp⟩
  | next :: rest =>
      match formula, next.kind with
      | .symbol place name, .leftParenthesis =>
          match readItems finish room .rightParenthesis "')'" rest with
          | .error fault => .error fault
          | .ok ⟨(arguments, close), behind, within⟩ =>
              match readSuffixes finish room (.call (place.through close) name arguments)
                  behind with
              | .error fault => .error fault
              | .ok ⟨formula, behind, fewer⟩ =>
                  .ok ⟨formula, behind, by simp only [List.length_cons]; omega⟩
      | _, .leftBracket =>
          match readItems finish room .rightBracket "']'" rest with
          | .error fault => .error fault
          | .ok ⟨(indices, close), behind, within⟩ =>
              match readSuffixes finish room
                  (.index (formula.place.through close) formula indices) behind with
              | .error fault => .error fault
              | .ok ⟨formula, behind, fewer⟩ =>
                  .ok ⟨formula, behind, by simp only [List.length_cons]; omega⟩
      | _, .dot =>
          match expect finish .identifier "identifier" rest with
          | .error fault => .error fault
          | .ok ⟨name, behind, within⟩ =>
              match readSuffixes finish room
                  (.member (formula.place.through name.span) formula name.lexeme) behind with
              | .error fault => .error fault
              | .ok ⟨formula, behind, fewer⟩ =>
                  .ok ⟨formula, behind, by simp only [List.length_cons]; omega⟩
      | _, _ => .ok ⟨formula, next :: rest, by simp⟩
termination_by 16 * tokens.length
decreasing_by
  all_goals (try simp only [List.length_cons] at *); omega

/-- Expressions between commas up to a closing bracket, with the span of that bracket. -/
def readItems (finish : Span) (room : Nat) (closing : TokenKind) (what : String)
    (tokens : List Token) : Except SyntaxFault (Taken (List (Formula Span) × Span) tokens.length) :=
  match closedBy? closing tokens with
  | some ⟨close, rest, within⟩ => .ok ⟨([], close.span), rest, within⟩
  | none =>
      match readRange finish room tokens with
      | .error fault => .error fault
      | .ok ⟨item, behind, within⟩ =>
          match readMoreItems finish room closing what behind with
          | .error fault => .error fault
          | .ok ⟨(items, close), behind, fewer⟩ => .ok ⟨(item :: items, close), behind, by omega⟩
termination_by 16 * tokens.length + 9
decreasing_by
  all_goals omega

def readMoreItems (finish : Span) (room : Nat) (closing : TokenKind) (what : String)
    (tokens : List Token) : Except SyntaxFault (Taken (List (Formula Span) × Span) tokens.length) :=
  match tokens with
  | [] => expected finish what []
  | next :: rest =>
      if next.kind = .comma then
        match readRange finish room rest with
        | .error fault => .error fault
        | .ok ⟨item, behind, within⟩ =>
            match readMoreItems finish room closing what behind with
            | .error fault => .error fault
            | .ok ⟨(items, close), behind, fewer⟩ =>
                .ok ⟨(item :: items, close), behind, by simp only [List.length_cons]; omega⟩
      else if next.kind = closing then .ok ⟨([], next.span), rest, by simp⟩
      else expected finish what (next :: rest)
termination_by 16 * tokens.length
decreasing_by
  all_goals (try simp only [List.length_cons] at *); omega

def readPrimary (finish : Span) (room : Nat) (tokens : List Token) : Reading tokens.length :=
  match tokens with
  | [] => expected finish "expression" []
  | next :: rest =>
      match next.kind with
      | .number => .ok ⟨.constant next.span next.number next.lexeme, rest, by simp⟩
      | .identifier => .ok ⟨.symbol next.span next.lexeme, rest, by simp⟩
      | .leftParenthesis =>
          match readAssignment finish room rest with
          | .error fault => .error fault
          | .ok ⟨inner, behind, within⟩ =>
              match expect finish .rightParenthesis "')'" behind with
              | .error fault => .error fault
              | .ok ⟨close, behind, fewer⟩ =>
                  .ok ⟨.group (next.span.through close.span) inner, behind,
                    by simp only [List.length_cons]; omega⟩
      | .leftBracket =>
          match readItems finish room .rightBracket "']'" rest with
          | .error fault => .error fault
          | .ok ⟨(elements, close), behind, within⟩ =>
              .ok ⟨.array (next.span.through close) elements, behind,
                by simp only [List.length_cons]; omega⟩
      | .leftBrace =>
          match closedBy? .rightBrace rest with
          | some ⟨close, behind, within⟩ =>
              .ok ⟨.object (next.span.through close.span) [], behind,
                by simp only [List.length_cons]; omega⟩
          | none =>
              match readEntries finish room rest with
              | .error fault => .error fault
              | .ok ⟨(entries, close), behind, within⟩ =>
                  .ok ⟨.object (next.span.through close) entries, behind,
                    by simp only [List.length_cons]; omega⟩
      | _ => expected finish "expression" (next :: rest)
termination_by 16 * tokens.length + 2
decreasing_by
  all_goals (try simp only [List.length_cons] at *); omega

/-- One property or more, up to the closing brace. -/
def readEntries (finish : Span) (room : Nat) (tokens : List Token) :
    Except SyntaxFault (Taken (List (String × Formula Span) × Span) tokens.length) :=
  match expect finish .identifier "property name" tokens with
  | .error fault => .error fault
  | .ok ⟨key, afterKey, shorter⟩ =>
      match expect finish .colon "':'" afterKey with
      | .error fault => .error fault
      | .ok ⟨_, afterColon, fewer⟩ =>
          match readBinary finish room 0 afterColon with
          | .error fault => .error fault
          | .ok ⟨value, [], _⟩ => expected finish closingBrace []
          | .ok ⟨value, next :: behind, fewest⟩ =>
              if next.kind = .comma then
                match readEntries finish room behind with
                | .error fault => .error fault
                | .ok ⟨(entries, close), behind, within⟩ =>
                    .ok ⟨((key.lexeme, value) :: entries, close), behind,
                      by simp only [List.length_cons] at *; omega⟩
              else if next.kind = .rightBrace then
                .ok ⟨([(key.lexeme, value)], next.span), behind,
                  by simp only [List.length_cons] at *; omega⟩
              else expected finish closingBrace (next :: behind)
termination_by 16 * tokens.length
decreasing_by
  all_goals (try simp only [List.length_cons] at *); omega

end

/-- Statements behind the first one. A separator may end the text. -/
def readStatements (finish : Span) (tokens : List Token) :
    Except SyntaxFault (List (Formula Span) × List Token) :=
  match tokens with
  | [] => .ok ([], [])
  | next :: rest =>
      if next.kind.isSeparator then
        if (rest.dropWhile fun token => token.kind.isSeparator).isEmpty then .ok ([], [])
        else
          match readAssignment finish mostNested
              (rest.dropWhile fun token => token.kind.isSeparator) with
          | .error fault => .error fault
          | .ok ⟨statement, behind, _within⟩ =>
              match readStatements finish behind with
              | .error fault => .error fault
              | .ok (statements, behind) => .ok (statement :: statements, behind)
      else .ok ([], next :: rest)
termination_by tokens.length
decreasing_by
  have bound := (List.dropWhile_suffix (l := rest) fun token => token.kind.isSeparator).length_le
  simp only [List.length_cons]
  omega

def startsWithSeparator : List Token → Bool
  | [] => false
  | token :: _ => token.kind.isSeparator

/-- The span of a whole text, separators at its ends included. -/
def textSpan (finish : Span) (tokens : List Token) : Span :=
  (spanAt finish tokens).through ((tokens.getLast?.map Token.span).getD finish)

/-- Tokens before the end of the text make one formula, a block if a separator follows its first
statement. -/
def readBody (finish : Span) (tokens : List Token) : Except SyntaxFault (Formula Span) :=
  match readAssignment finish mostNested (tokens.dropWhile fun token => token.kind.isSeparator) with
  | .error fault => .error fault
  | .ok ⟨first, behind, _⟩ =>
      match readStatements finish behind with
      | .error fault => .error fault
      | .ok (_, token :: rest) => expected finish "operator or end of expression" (token :: rest)
      | .ok (others, []) =>
          if startsWithSeparator behind then
            .ok (.block (textSpan finish tokens) (first :: others))
          else .ok first

end Formula

end FormulaPlot
