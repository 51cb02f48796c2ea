import FormulaPlot.Formula.Diagnostic

/-!
Formulas in TeX's mathematics mode. Parentheses are dropped where a fraction bar, a raised exponent
or the brackets of a call show the grouping.
-/

namespace FormulaPlot

set_option autoImplicit false

inductive TypesettingFault (label : Type) where
  | feature (kind : String) (place : label)
  | operator (kind : TokenKind)

namespace Typesetting

def braced (text : String) : String := "\x7b" ++ text ++ "\x7d"

def parenthesized (text : String) : String := "\\left(" ++ text ++ "\\right)"

def upright (name : String) : String := "\\mathrm" ++ braced name

def symbol (name : String) : String :=
  if name = "pi" then "\\pi" else if name.length = 1 then name else upright name

def functionName : String → String
  | "sin" => "\\sin"
  | "cos" => "\\cos"
  | "tan" => "\\tan"
  | "asin" => "\\arcsin"
  | "acos" => "\\arccos"
  | "atan" => "\\arctan"
  | "exp" => "\\exp"
  | name => upright name

/-- Signs of the operators that stand between their operands. -/
def infixSign? : TokenKind → Option String
  | .plus => some "+"
  | .minus => some "-"
  | .star => some "\\cdot "
  | .percent => some "\\bmod "
  | .less => some "<"
  | .greater => some ">"
  | .lessEqual => some "\\leq "
  | .greaterEqual => some "\\geq "
  | .equal => some "="
  | .notEqual => some "\\neq "
  | _ => none

def call (name : String) (arguments : List String) : String :=
  match name, arguments with
  | "sqrt", [argument] => "\\sqrt" ++ braced argument
  | "abs", [argument] => "\\left|" ++ argument ++ "\\right|"
  | "log", [argument] => "\\ln" ++ parenthesized argument
  | "log", [argument, base] => "\\log_" ++ braced base ++ parenthesized argument
  | "log10", [argument] => "\\log_" ++ braced "10" ++ parenthesized argument
  | _, _ => functionName name ++ parenthesized (String.intercalate "," arguments)

end Typesetting

namespace Formula

open FormulaPlot.Typesetting

variable {label : Type}

mutual

/-- With `bared`, the parentheses around the whole formula are left out. -/
def typesetWith (bared : Bool) : Formula label → Except (TypesettingFault label) String
  | constant _ _ lexeme => .ok lexeme
  | symbol _ name => .ok (Typesetting.symbol name)
  | group _ inner =>
      if bared then inner.typesetWith true
      else (inner.typesetWith false).map parenthesized
  | unary _ operator operand =>
      (operand.typesetWith false).map fun text =>
        (if operator = .minus then "-" else "+") ++ text
  | binary _ operator left right =>
      if operator = .slash then
        match left.typesetWith true with
        | .error fault => .error fault
        | .ok numerator =>
            (right.typesetWith true).map fun denominator =>
              "\\frac" ++ braced numerator ++ braced denominator
      else if operator = .caret then
        match left.typesetWith false with
        | .error fault => .error fault
        | .ok base =>
            (right.typesetWith true).map fun exponent => braced base ++ "^" ++ braced exponent
      else
        match left.typesetWith false with
        | .error fault => .error fault
        | .ok first =>
            match infixSign? operator with
            | none => .error (.operator operator)
            | some sign => (right.typesetWith false).map fun second => first ++ sign ++ second
  | call _ name arguments => (typesetAll arguments).map (Typesetting.call name)
  | formula => .error (.feature formula.kind formula.place)

def typesetAll : List (Formula label) → Except (TypesettingFault label) (List String)
  | [] => .ok []
  | formula :: rest =>
      match formula.typesetWith true with
      | .error fault => .error fault
      | .ok text => (typesetAll rest).map (text :: ·)

end

def typeset (formula : Formula label) : Except (TypesettingFault label) String :=
  formula.typesetWith false

end Formula

end FormulaPlot
