import FormulaPlot.Decimal.Numeral
import FormulaPlot.Decimal.Shortest
import FormulaPlot.Formula.Token
import FormulaPlot.Text.Quoted
import FormulaPlot.Text.Word

/-!
The tokens of a text. Every lexeme is the longest that can start where it starts; blanks between
lexemes are skipped, and so are line ends inside brackets.
-/

namespace FormulaPlot

open FormulaPlot.Text

set_option autoImplicit false

inductive LexicalFault where
  | unexpectedCharacter (character : Char) (span : Span)
  | invalidNumber (lexeme : String) (span : Span)
  deriving DecidableEq, Repr

namespace Scanning

/-- Blanks that only separate tokens. -/
def isGap (character : Char) : Bool :=
  character == ' ' || character == '\t' || character == '\r'

def startsWithDigit : List Char → Bool
  | character :: _ => isDigit character
  | [] => false

def startsWithFraction : List Char → Bool
  | '.' :: rest => startsWithDigit rest
  | _ => false

def fractionLength : List Char → Nat
  | '.' :: rest => if startsWithDigit rest then 1 + (rest.takeWhile isDigit).length else 0
  | _ => 0

/-- An exponent needs a digit; without one its mark is the start of a name. -/
def exponentLength : List Char → Nat
  | mark :: rest =>
      if mark == 'e' || mark == 'E' then
        if startsWithDigit rest then 1 + (rest.takeWhile isDigit).length
        else
          match rest with
          | sign :: digits =>
              if (sign == '+' || sign == '-') && startsWithDigit digits then
                2 + (digits.takeWhile isDigit).length
              else 0
          | [] => 0
      else 0
  | [] => 0

/-- Length of the number that a text starts with. -/
def numberLength (characters : List Char) : Nat :=
  let whole := (characters.takeWhile isDigit).length
  let fraction := fractionLength (characters.drop whole)
  whole + fraction + exponentLength (characters.drop (whole + fraction))

def startsNumber (characters : List Char) : Bool :=
  startsWithDigit characters || startsWithFraction characters

def startsName (character : Char) : Bool := isLetter character || character == '_'

/-- What stands at the front of a text: a kind, or no token at all, with the number of characters
that follow the first one. -/
inductive Front where
  | lexeme (kind : TokenKind) (more : Nat)
  | badNumber (more : Nat)
  | badCharacter

def numberFront (characters : List Char) : Front :=
  let length := numberLength characters
  let rest := characters.drop length
  if startsWithFraction rest then
    let junk := rest.takeWhile fun character => isDigit character || character == '.'
    .badNumber (length + junk.length - 1)
  else if (Decimal.readNumeral? (characters.take length)).isSome then
    .lexeme .number (length - 1)
  else .badNumber (length - 1)

def operatorFront (character : Char) (rest : List Char) : Front :=
  match rest.head?.bind (TokenKind.ofPair? character) with
  | some kind => .lexeme kind 1
  | none =>
      match TokenKind.ofCharacter? character with
      | some kind => .lexeme kind 0
      | none => .badCharacter

def front (character : Char) (rest : List Char) : Front :=
  if startsNumber (character :: rest) then numberFront (character :: rest)
  else if startsName character then
    .lexeme .identifier (rest.takeWhile isWordCharacter).length
  else operatorFront character rest

def depthAfter (kind : TokenKind) (depth : Nat) : Nat :=
  if kind.opens then depth + 1 else if kind.closes then depth - 1 else depth

end Scanning

/-- The tokens up to the end of the text, or up to the first fault. -/
structure Scanned where
  tokens : List Token
  fault : Option LexicalFault

namespace Scanned

def cons (token : Token) (scanned : Scanned) : Scanned :=
  ⟨token :: scanned.tokens, scanned.fault⟩

def finished (here : Location) : Scanned := ⟨[⟨.endOfText, "", ⟨here, here⟩⟩], none⟩

def failed (fault : LexicalFault) : Scanned := ⟨[], some fault⟩

end Scanned

namespace Scanning

/-- The shown lexeme of a line end. -/
def newlineLexeme : String := "\\n"

def scanFrom (here : Location) (depth : Nat) : List Char → Scanned
  | [] => .finished here
  | character :: rest =>
      let next := here.next character
      if isGap character then scanFrom next depth rest
      else if character = '\n' then
        if 0 < depth then scanFrom next depth rest
        else .cons ⟨.newline, newlineLexeme, ⟨here, next⟩⟩ (scanFrom next depth rest)
      else
        match front character rest with
        | .lexeme kind more =>
            let lexeme := character :: rest.take more
            let stop := here.after lexeme
            .cons ⟨kind, String.ofList lexeme, ⟨here, stop⟩⟩
              (scanFrom stop (depthAfter kind depth) (rest.drop more))
        | .badNumber more =>
            let lexeme := character :: rest.take more
            .failed (.invalidNumber (String.ofList lexeme) ⟨here, here.after lexeme⟩)
        | .badCharacter => .failed (.unexpectedCharacter character ⟨here, next⟩)
termination_by characters => characters.length
decreasing_by all_goals simp only [List.length_cons, List.length_drop]; omega

end Scanning

def scan (text : String) : Scanned := Scanning.scanFrom .start 0 text.toList

def tokenize (text : String) : Except LexicalFault (List Token) :=
  match (scan text).fault with
  | some fault => .error fault
  | none => .ok (scan text).tokens

/-- The value of a number token. Its lexeme was read when it was scanned. -/
def Token.number (token : Token) : Float :=
  ((Decimal.readNumeral? token.lexeme.toList).map Decimal.Numeral.toFloat).getD 0.0

/-- Numbers and names are shown with what they hold, other tokens by their kind. -/
def Token.text (token : Token) : String :=
  match token.kind with
  | .number => token.kind.name ++ "(" ++ Decimal.shortest (Binary64.read token.number) ++ ")"
  | .identifier => token.kind.name ++ "(" ++ Text.quoted token.lexeme ++ ")"
  | kind => kind.name

end FormulaPlot
