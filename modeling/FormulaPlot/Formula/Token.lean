import FormulaPlot.Formula.Position

/-!
Tokens of formula texts. More operators and brackets are known than can be plotted, so that the
others can be refused by name.
-/

namespace FormulaPlot

set_option autoImplicit false

inductive TokenKind where
  | number
  | identifier
  | plus
  | minus
  | star
  | slash
  | percent
  | caret
  | doubleStar
  | less
  | greater
  | lessEqual
  | greaterEqual
  | equal
  | notEqual
  | assign
  | leftParenthesis
  | rightParenthesis
  | leftBracket
  | rightBracket
  | leftBrace
  | rightBrace
  | comma
  | colon
  | semicolon
  | dot
  | newline
  | endOfText
  deriving DecidableEq, Repr

namespace TokenKind

/-- All kinds in the order in which they are listed for users. -/
def all : List TokenKind :=
  [number, identifier, plus, minus, star, slash, percent, caret, doubleStar, less, greater,
    lessEqual, greaterEqual, equal, notEqual, assign, leftParenthesis, rightParenthesis,
    leftBracket, rightBracket, leftBrace, rightBrace, comma, colon, semicolon, dot, newline,
    endOfText]

def name : TokenKind → String
  | number => "NUMBER"
  | identifier => "IDENTIFIER"
  | plus => "PLUS"
  | minus => "MINUS"
  | star => "STAR"
  | slash => "SLASH"
  | percent => "PERCENT"
  | caret => "CARET"
  | doubleStar => "DOUBLE_STAR"
  | less => "LT"
  | greater => "GT"
  | lessEqual => "LE"
  | greaterEqual => "GE"
  | equal => "EQ"
  | notEqual => "NE"
  | assign => "ASSIGN"
  | leftParenthesis => "LPAREN"
  | rightParenthesis => "RPAREN"
  | leftBracket => "LBRACKET"
  | rightBracket => "RBRACKET"
  | leftBrace => "LBRACE"
  | rightBrace => "RBRACE"
  | comma => "COMMA"
  | colon => "COLON"
  | semicolon => "SEMICOLON"
  | dot => "DOT"
  | newline => "NEWLINE"
  | endOfText => "EOF"

def ofName? (name : String) : Option TokenKind := all.find? fun kind => kind.name = name

/-- The sign of an operator; other kinds are shown by their name. -/
def sign : TokenKind → String
  | plus => "+"
  | minus => "-"
  | star => "*"
  | slash => "/"
  | percent => "%"
  | caret => "^"
  | doubleStar => "^"
  | less => "<"
  | greater => ">"
  | lessEqual => "<="
  | greaterEqual => ">="
  | equal => "=="
  | notEqual => "!="
  | kind => kind.name

def isArithmetic (kind : TokenKind) : Bool :=
  [plus, minus, star, slash, percent, caret].contains kind

def isSign (kind : TokenKind) : Bool := kind == minus || kind == plus

def isPower (kind : TokenKind) : Bool := kind == caret || kind == doubleStar

def isSeparator (kind : TokenKind) : Bool := kind == semicolon || kind == newline

def opens (kind : TokenKind) : Bool :=
  kind == leftParenthesis || kind == leftBracket || kind == leftBrace

def closes (kind : TokenKind) : Bool :=
  kind == rightParenthesis || kind == rightBracket || kind == rightBrace

def ofPair? : Char → Char → Option TokenKind
  | '*', '*' => some doubleStar
  | '=', '=' => some equal
  | '!', '=' => some notEqual
  | '<', '=' => some lessEqual
  | '>', '=' => some greaterEqual
  | _, _ => none

def ofCharacter? : Char → Option TokenKind
  | '+' => some plus
  | '-' => some minus
  | '*' => some star
  | '/' => some slash
  | '%' => some percent
  | '^' => some caret
  | '<' => some less
  | '>' => some greater
  | '=' => some assign
  | '(' => some leftParenthesis
  | ')' => some rightParenthesis
  | '[' => some leftBracket
  | ']' => some rightBracket
  | '{' => some leftBrace
  | '}' => some rightBrace
  | ',' => some comma
  | ':' => some colon
  | ';' => some semicolon
  | '.' => some dot
  | _ => none

end TokenKind

structure Token where
  kind : TokenKind
  lexeme : String
  span : Span
  deriving DecidableEq, Repr

end FormulaPlot
