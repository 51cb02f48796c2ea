import FormulaPlot.Formula.Calls

/-!
What is wrong with a formula text, and how that is shown: a code, a sentence, hints, and the
marked place in the source line.
-/

namespace FormulaPlot

set_option autoImplicit false

/-- Constructs that can be read and not be plotted. -/
inductive Violation where
  | feature (kind : String)
  | function (name : String)
  | symbol (name : String) (allowed : List String)
  | operator (sign : String)
  deriving DecidableEq, Repr

/-- Equations of the wrong shape. -/
inductive FormFault where
  | emptySide
  | tooManyEquals
  | equalsInSurface
  deriving DecidableEq, Repr

inductive Problem where
  | lexical (fault : LexicalFault)
  | syntactic (fault : SyntaxFault)
  | violation (violation : Violation) (span : Option Span)
  | form (fault : FormFault)
  deriving DecidableEq, Repr

structure Diagnostic where
  code : String
  message : String
  span : Option Span
  sourceLine : Option String
  hints : List String
  deriving DecidableEq, Repr

def position (span : Span) : String := " at position " ++ toString span.start.offset

namespace LexicalFault

def code : LexicalFault → String
  | unexpectedCharacter .. => "E001"
  | invalidNumber .. => "E002"

def message : LexicalFault → String
  | unexpectedCharacter character span =>
      "Unexpected character '" ++ character.toString ++ "'" ++ position span
  | invalidNumber lexeme span => "Invalid number '" ++ lexeme ++ "'" ++ position span

def span : LexicalFault → Span
  | unexpectedCharacter _ span => span
  | invalidNumber _ span => span

def hints : LexicalFault → List String
  | unexpectedCharacter .. => []
  | invalidNumber .. => ["exponents need digits: 1e3, 2.5e-4"]

end LexicalFault

namespace SyntaxFault

def code : SyntaxFault → String
  | unexpectedToken .. => "E101"
  | unexpectedEnd .. => "E102"
  | invalidTarget .. => "E103"
  | tooDeep .. | exhausted => "E104"

def message : SyntaxFault → String
  | unexpectedToken expected found span =>
      "Expected " ++ expected ++ ", found '" ++ found ++ "'" ++ position span
  | unexpectedEnd expected _ => "Unexpected end of expression, expected " ++ expected
  | invalidTarget span => "Invalid left hand side of assignment" ++ position span
  | tooDeep _ | exhausted => "Expression is nested too deeply."

/-- What exhausts the stack is nowhere in particular. -/
def span? : SyntaxFault → Option Span
  | unexpectedToken _ _ span => some span
  | unexpectedEnd _ span => some span
  | invalidTarget span => some span
  | tooDeep span => some span
  | exhausted => none

end SyntaxFault

namespace Violation

def code : Violation → String
  | feature .. => "E201"
  | function .. => "E202"
  | symbol .. => "E203"
  | operator .. => "E204"

def message : Violation → String
  | feature kind => "Unsupported expression feature: " ++ kind
  | function name => "Unsupported function \"" ++ name ++ "\"."
  | symbol name allowed =>
      "Unknown symbol \"" ++ name ++ "\". Use " ++ String.intercalate ", " allowed ++
        " as symbols."
  | operator sign => "Unsupported operator \"" ++ sign ++ "\"."

end Violation

namespace FormFault

def code : FormFault → String
  | emptySide => "E301"
  | tooManyEquals => "E302"
  | equalsInSurface => "E303"

def message : FormFault → String
  | emptySide => "Both sides of the equation must be non-empty."
  | tooManyEquals => "Use exactly one equals sign in an equation."
  | equalsInSurface =>
      "3D mode expects z = f(x, y) entered as f(x, y) without an equals sign."

def hints : FormFault → List String
  | equalsInSurface => ["type x^2 + y^2 instead of z = x^2 + y^2"]
  | _ => []

end FormFault

namespace Problem

def message : Problem → String
  | lexical fault => fault.message
  | syntactic fault => fault.message
  | violation found _ => found.message
  | form fault => fault.message

/-- The source line is quoted for faults of the text itself, not for refused constructs. -/
def diagnostic (source : Option String) : Problem → Diagnostic
  | lexical fault => ⟨fault.code, fault.message, some fault.span, source, fault.hints⟩
  | syntactic fault => ⟨fault.code, fault.message, fault.span?, source, []⟩
  | violation found span => ⟨found.code, found.message, span, none, []⟩
  | form fault => ⟨fault.code, fault.message, none, source, fault.hints⟩

end Problem

namespace Diagnostic

/-- All diagnostics are errors. -/
def severity : String := "error"

def headline (diagnostic : Diagnostic) : String :=
  let place := (diagnostic.span.map fun span => span.start.text ++ ": ").getD ""
  place ++ severity ++ "[" ++ diagnostic.code ++ "]: " ++ diagnostic.message

/-- Columns from the first to the last marked one. A span over several lines is marked to the end
of the source, and an empty one by a single mark. -/
def markCount (source : String) (span : Span) : Nat :=
  let stop := if span.start.line = span.stop.line then span.stop.column else source.length + 1
  max 1 (stop - span.start.column)

def marked (source : String) (span : Span) : List String :=
  let marks := List.replicate (span.start.column - 1) ' ' ++
    List.replicate (markCount source span) '^'
  ["  | " ++ source, "  | " ++ String.ofList marks]

def sourceLines (diagnostic : Diagnostic) : List String :=
  match diagnostic.sourceLine, diagnostic.span with
  | some source, some span => marked source span
  | _, _ => []

def format (diagnostic : Diagnostic) (showSource : Bool) : String :=
  let source := if showSource then diagnostic.sourceLines else []
  let hints := diagnostic.hints.map fun hint => "  = hint: " ++ hint
  String.intercalate "\n" (diagnostic.headline :: source ++ hints)

end Diagnostic

namespace Formula

/-- The formula that a text spells. -/
def read (text : String) : Except Problem (Formula Span) :=
  match tokenize text with
  | .error fault => .error (.lexical fault)
  | .ok tokens => (ofTokens tokens).mapError .syntactic

end Formula

end FormulaPlot
