import FormulaPlot.Proofs.Formula.Coincidence

/-!
The safe language by its rules. Nothing is said against the formulas that are built by them, and
what is said against any other formula is said about the first of its nodes, in preorder, that
breaks a rule. With more symbols allowed no formula is refused that was not refused before.
-/

namespace FormulaPlot

set_option autoImplicit false

namespace Formula

variable {label : Type} {allowed : List String}

/-- The functions that may be called. -/
def functionNames : List String :=
  ["sin", "cos", "tan", "asin", "acos", "atan", "sqrt", "abs", "log", "log10", "exp"]

def signOperators : List TokenKind := [.minus, .plus]

def arithmeticOperators : List TokenKind := [.plus, .minus, .star, .slash, .caret, .percent]

/-- Constructs that can be read and never be evaluated. -/
def structuralKinds : List String :=
  ["Assignment", "FunctionDef", "IndexAccess", "MemberAccess", "RangeExpr", "ArrayLiteral",
    "ObjectLiteral", "Block"]

/-- Arithmetic over the allowed symbols and the functions that may be called. -/
inductive IsSafe (allowed : List String) : Formula label → Prop
  | constant (place : label) (value : Float) (lexeme : String) :
      IsSafe allowed (constant place value lexeme)
  | symbol (place : label) {name : String} : name ∈ allowed → IsSafe allowed (symbol place name)
  | group (place : label) {inner : Formula label} :
      IsSafe allowed inner → IsSafe allowed (group place inner)
  | unary (place : label) {operator : TokenKind} {operand : Formula label} :
      operator ∈ signOperators → IsSafe allowed operand →
      IsSafe allowed (unary place operator operand)
  | binary (place : label) {operator : TokenKind} {left right : Formula label} :
      operator ∈ arithmeticOperators → IsSafe allowed left → IsSafe allowed right →
      IsSafe allowed (binary place operator left right)
  | call (place : label) {name : String} {arguments : List (Formula label)} :
      name ∈ functionNames → (∀ argument ∈ arguments, IsSafe allowed argument) →
      IsSafe allowed (call place name arguments)

/-- The rule that a node breaks by itself, whatever its parts are. -/
inductive Breaks (allowed : List String) : Formula label → Violation → Prop
  | symbol {place : label} {name : String} :
      name ∉ allowed → Breaks allowed (symbol place name) (.symbol name allowed)
  | unary {place : label} {operator : TokenKind} {operand : Formula label} :
      operator ∉ signOperators →
      Breaks allowed (unary place operator operand) (.operator operator.sign)
  | binary {place : label} {operator : TokenKind} {left right : Formula label} :
      operator ∉ arithmeticOperators →
      Breaks allowed (binary place operator left right) (.operator operator.sign)
  | call {place : label} {name : String} {arguments : List (Formula label)} :
      name ∉ functionNames → Breaks allowed (call place name arguments) (.function name)
  | structural {formula : Formula label} :
      formula.kind ∈ structuralKinds → Breaks allowed formula (.feature formula.kind)

theorem is_sign_iff (operator : TokenKind) : operator.isSign = true ↔ operator ∈ signOperators := by
  cases operator <;> decide

theorem is_arithmetic_iff (operator : TokenKind) :
    operator.isArithmetic = true ↔ operator ∈ arithmeticOperators := by
  cases operator <;> decide

theorem is_function_iff (name : String) :
    (ElementaryFunction.ofName? name).isSome = true ↔ name ∈ functionNames := by
  constructor
  · intro known
    obtain ⟨function, rfl⟩ := ElementaryFunction.exists_of_name known
    cases function <;> decide
  · intro listed
    have named : name ∈ ElementaryFunction.all.map ElementaryFunction.name := listed
    obtain ⟨function, _, rfl⟩ := List.mem_map.mp named
    cases function <;> decide

theorem violation_eq_some_iff (formula : Formula label) (violation : Violation) :
    formula.violation? allowed = some violation ↔ formula.Breaks allowed violation := by
  constructor
  · intro found
    cases formula with
    | constant place value lexeme => contradiction
    | symbol place name =>
        obtain ⟨unknown, ⟨⟩⟩ := Option.ite_none_left_eq_some.mp found
        exact .symbol (by simpa using unknown)
    | group place inner => contradiction
    | unary place operator operand =>
        obtain ⟨other, ⟨⟩⟩ := Option.ite_none_left_eq_some.mp found
        exact .unary (mt (is_sign_iff operator).mpr other)
    | binary place operator left right =>
        obtain ⟨other, ⟨⟩⟩ := Option.ite_none_left_eq_some.mp found
        exact .binary (mt (is_arithmetic_iff operator).mpr other)
    | call place name arguments =>
        obtain ⟨unknown, ⟨⟩⟩ := Option.ite_none_left_eq_some.mp found
        exact .call (mt (is_function_iff name).mpr unknown)
    | _ =>
        cases found
        exact .structural (by simp [kind, structuralKinds])
  · intro breaks
    cases breaks with
    | symbol unknown => exact if_neg (by simpa using unknown)
    | unary other => exact if_neg (mt (is_sign_iff _).mp other)
    | binary other => exact if_neg (mt (is_arithmetic_iff _).mp other)
    | call unknown => exact if_neg (mt (is_function_iff _).mp unknown)
    | structural refused =>
        cases formula <;> first | rfl | simp [kind, structuralKinds] at refused

theorem violation_eq_none_iff (formula : Formula label) :
    formula.violation? allowed = none ↔ ∀ violation, ¬formula.Breaks allowed violation := by
  rw [Option.eq_none_iff_forall_ne_some]
  exact forall_congr' fun violation => not_congr (violation_eq_some_iff formula violation)

theorem accepted_iff_safe (formula : Formula label) :
    formula.firstViolation allowed = none ↔ formula.IsSafe allowed := by
  induction formula using parts_induction with
  | step formula induction =>
      rw [accepted_iff]
      constructor
      · rintro ⟨root, parts⟩
        have safe := fun child member => (induction child member).mp (parts child member)
        cases formula with
        | constant place value lexeme => exact .constant place value lexeme
        | symbol place name =>
            have known : name ∈ allowed := by simpa [violation?] using root
            exact .symbol place known
        | group place inner => exact .group place (safe inner List.mem_cons_self)
        | unary place operator operand =>
            have isSign : operator.isSign = true := by simpa [violation?] using root
            exact .unary place ((is_sign_iff operator).mp isSign)
              (safe operand List.mem_cons_self)
        | binary place operator left right =>
            have isArithmetic : operator.isArithmetic = true := by
              simpa [violation?] using root
            exact .binary place ((is_arithmetic_iff operator).mp isArithmetic)
              (safe left (by simp [children])) (safe right (by simp [children]))
        | call place name arguments =>
            have known : (ElementaryFunction.ofName? name).isSome = true := by
              simpa [violation?, Option.isSome_iff_ne_none] using root
            exact .call place ((is_function_iff name).mp known) safe
        | _ => simp [violation?] at root
      · intro safe
        cases safe with
        | constant place value lexeme =>
            exact ⟨rfl, fun child member => absurd member List.not_mem_nil⟩
        | symbol place known =>
            exact ⟨if_pos (by simpa using known),
              fun child member => absurd member List.not_mem_nil⟩
        | group place inner =>
            refine ⟨rfl, ?_⟩
            rw [children, List.forall_mem_singleton]
            exact (induction _ List.mem_cons_self).mpr inner
        | unary place isSign operand =>
            refine ⟨if_pos ((is_sign_iff _).mpr isSign), ?_⟩
            rw [children, List.forall_mem_singleton]
            exact (induction _ List.mem_cons_self).mpr operand
        | binary place isArithmetic left right =>
            refine ⟨if_pos ((is_arithmetic_iff _).mpr isArithmetic), ?_⟩
            rw [children, List.forall_mem_cons, List.forall_mem_singleton]
            exact ⟨(induction _ (by simp [children])).mpr left,
              (induction _ (by simp [children])).mpr right⟩
        | call place known arguments =>
            refine ⟨if_pos ((is_function_iff _).mpr known), fun argument member => ?_⟩
            exact (induction argument member).mpr (arguments argument member)

/-- A formula is refused for the first of its nodes that breaks a rule. -/
theorem first_violation_eq_some_iff (formula : Formula label) (violation : Violation)
    (place : label) :
    formula.firstViolation allowed = some (violation, place) ↔
      ∃ before node behind, formula.preorder = before ++ node :: behind ∧
        (∀ other ∈ before, ∀ broken, ¬other.Breaks allowed broken) ∧
        node.Breaks allowed violation ∧ node.place = place := by
  rw [firstViolation, walk_eq_preorder, List.findSome?_eq_some_iff]
  simp only [Option.map_eq_none_iff, Option.map_eq_some_iff, violation_eq_none_iff,
    violation_eq_some_iff, Prod.mk.injEq]
  constructor
  · rintro ⟨before, node, behind, parted, ⟨found, breaks, rfl, placed⟩, clear⟩
    exact ⟨before, node, behind, parted, clear, breaks, placed⟩
  · rintro ⟨before, node, behind, parted, clear, breaks, placed⟩
    exact ⟨before, node, behind, parted, ⟨violation, breaks, rfl, placed⟩, clear⟩

/-- A formula is not refused exactly if it is safe, otherwise the sentence is about the first node
in preorder that breaks a rule, and whatever is safe stays so when more symbols are allowed. -/
theorem refused_for_first_offender (formula : Formula label) (allowed : List String) :
    (formula.refusal? allowed = none ↔ formula.IsSafe allowed) ∧
    (∀ message, formula.refusal? allowed = some message ↔
      ∃ before node behind violation, formula.preorder = before ++ node :: behind ∧
        (∀ other ∈ before, ∀ broken, ¬other.Breaks allowed broken) ∧
        node.Breaks allowed violation ∧ violation.message = message) ∧
    ∀ wider, allowed ⊆ wider → formula.refusal? allowed = none →
      formula.refusal? wider = none := by
  have accepted (symbols : List String) :
      formula.refusal? symbols = none ↔ formula.firstViolation symbols = none :=
    Option.map_eq_none_iff
  refine ⟨(accepted allowed).trans (accepted_iff_safe formula), ?_, ?_⟩
  · intro message
    rw [refusal?, Option.map_eq_some_iff]
    constructor
    · rintro ⟨⟨violation, place⟩, found, told⟩
      obtain ⟨before, node, behind, parted, clear, breaks, _⟩ :=
        (first_violation_eq_some_iff formula violation place).mp found
      exact ⟨before, node, behind, violation, parted, clear, breaks, told⟩
    · rintro ⟨before, node, behind, violation, parted, clear, breaks, told⟩
      exact ⟨(violation, node.place), (first_violation_eq_some_iff formula violation _).mpr
        ⟨before, node, behind, parted, clear, breaks, rfl⟩, told⟩
  · intro wider covered safe
    exact (accepted wider).mpr (accepted_of_wider covered ((accepted allowed).mp safe))

/-- A sine of an opposite, doubled. -/
def doubledSine : Formula Unit :=
  binary () .star (constant () 2 "2") (call () "sin" [group () (unary () .minus (symbol () "x"))])

/-- An unknown symbol on the left of a comparison. -/
def comparedUnknown : Formula Unit :=
  unary () .plus (binary () .less (symbol () "t") (symbol () "x"))

/-- The comparison is refused before the symbol in it. -/
theorem comparison_refused_first :
    ["x"] ⊆ ["y", "x"] ∧ doubledSine.refusal? ["x"] = none ∧
      doubledSine.IsSafe ["x"] ∧ doubledSine.refusal? ["y", "x"] = none ∧
      comparedUnknown.refusal? ["x"] = some "Unsupported operator \"<\"." := by
  have covered : ["x"] ⊆ ["y", "x"] := by decide
  have safe : doubledSine.refusal? ["x"] = none := by decide +kernel
  obtain ⟨safe_iff, _, wider_safe⟩ := refused_for_first_offender doubledSine ["x"]
  obtain ⟨_, told_iff, _⟩ := refused_for_first_offender comparedUnknown ["x"]
  refine ⟨covered, safe, safe_iff.mp safe, wider_safe ["y", "x"] covered safe, ?_⟩
  refine (told_iff _).mpr ⟨[comparedUnknown], binary () .less (symbol () "t") (symbol () "x"),
    [symbol () "t", symbol () "x"], .operator "<", rfl, ?_, .binary (by decide), rfl⟩
  intro other member broken breaks
  cases List.mem_singleton.mp member
  cases breaks with
  | unary other => exact other (by decide)
  | structural refused => exact absurd refused (by decide)

end Formula

end FormulaPlot
