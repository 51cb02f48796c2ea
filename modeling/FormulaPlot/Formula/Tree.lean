import FormulaPlot.Formula.Token

/-!
Formulas as trees. Every node is labelled; a formula that was read from a text is labelled by the
spans of its nodes, and `bare` forgets the labels.
-/

namespace FormulaPlot

set_option autoImplicit false

inductive Formula (label : Type) where
  | constant (place : label) (value : Float) (lexeme : String)
  | symbol (place : label) (name : String)
  | group (place : label) (inner : Formula label)
  | unary (place : label) (operator : TokenKind) (operand : Formula label)
  | binary (place : label) (operator : TokenKind) (left right : Formula label)
  | call (place : label) (name : String) (arguments : List (Formula label))
  | assignment (place : label) (target value : Formula label)
  | definition (place : label) (name : String) (parameters : List String) (body : Formula label)
  | index (place : label) (target : Formula label) (indices : List (Formula label))
  | member (place : label) (target : Formula label) (name : String)
  | range (place : label) (first last : Formula label)
  | steppedRange (place : label) (first last step : Formula label)
  | array (place : label) (elements : List (Formula label))
  | object (place : label) (entries : List (String × Formula label))
  | block (place : label) (statements : List (Formula label))
  deriving Inhabited

namespace Formula

variable {label : Type}

def place : Formula label → label
  | constant place _ _ => place
  | symbol place _ => place
  | group place _ => place
  | unary place _ _ => place
  | binary place _ _ _ => place
  | call place _ _ => place
  | assignment place _ _ => place
  | definition place _ _ _ => place
  | index place _ _ => place
  | member place _ _ => place
  | range place _ _ => place
  | steppedRange place _ _ _ => place
  | array place _ => place
  | object place _ => place
  | block place _ => place

/-- The name by which a construct is refused. -/
def kind : Formula label → String
  | constant .. => "Constant"
  | symbol .. => "Symbol"
  | group .. => "Group"
  | unary .. => "UnaryOp"
  | binary .. => "BinaryOp"
  | call .. => "Call"
  | assignment .. => "Assignment"
  | definition .. => "FunctionDef"
  | index .. => "IndexAccess"
  | member .. => "MemberAccess"
  | range .. => "RangeExpr"
  | steppedRange .. => "RangeExpr"
  | array .. => "ArrayLiteral"
  | object .. => "ObjectLiteral"
  | block .. => "Block"

/-- The direct parts of a node. The step of a range comes after its ends. -/
def children : Formula label → List (Formula label)
  | constant .. => []
  | symbol .. => []
  | group _ inner => [inner]
  | unary _ _ operand => [operand]
  | binary _ _ left right => [left, right]
  | call _ _ arguments => arguments
  | assignment _ target value => [target, value]
  | definition _ _ _ body => [body]
  | index _ target indices => target :: indices
  | member _ target _ => [target]
  | range _ first last => [first, last]
  | steppedRange _ first last step => [first, last, step]
  | array _ elements => elements
  | object _ entries => entries.map Prod.snd
  | block _ statements => statements

def withoutGroups : Formula label → Formula label
  | group _ inner => withoutGroups inner
  | formula => formula

def isSymbol : Formula label → Bool
  | symbol .. => true
  | _ => false

def symbolName? : Formula label → Option String
  | symbol _ name => some name
  | _ => none

mutual

def relabel {other : Type} (change : label → other) : Formula label → Formula other
  | constant place value lexeme => constant (change place) value lexeme
  | symbol place name => symbol (change place) name
  | group place inner => group (change place) (inner.relabel change)
  | unary place operator operand => unary (change place) operator (operand.relabel change)
  | binary place operator left right =>
      binary (change place) operator (left.relabel change) (right.relabel change)
  | call place name arguments => call (change place) name (relabelAll change arguments)
  | assignment place target value =>
      assignment (change place) (target.relabel change) (value.relabel change)
  | definition place name parameters body =>
      definition (change place) name parameters (body.relabel change)
  | index place target indices =>
      index (change place) (target.relabel change) (relabelAll change indices)
  | member place target name => member (change place) (target.relabel change) name
  | range place first last => range (change place) (first.relabel change) (last.relabel change)
  | steppedRange place first last step =>
      steppedRange (change place) (first.relabel change) (last.relabel change)
        (step.relabel change)
  | array place elements => array (change place) (relabelAll change elements)
  | object place entries => object (change place) (relabelEntries change entries)
  | block place statements => block (change place) (relabelAll change statements)

def relabelAll {other : Type} (change : label → other) :
    List (Formula label) → List (Formula other)
  | [] => []
  | formula :: rest => formula.relabel change :: relabelAll change rest

def relabelEntries {other : Type} (change : label → other) :
    List (String × Formula label) → List (String × Formula other)
  | [] => []
  | (key, formula) :: rest => (key, formula.relabel change) :: relabelEntries change rest

end

def bare (formula : Formula label) : Formula Unit := formula.relabel fun _ => ()

end Formula

end FormulaPlot
