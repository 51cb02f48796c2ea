import FormulaPlot.Formula.Pgfmath
import FormulaPlot.Proofs.Formula.Acceptance

/-!
Which accepted formulas can be written for pgfmath. A plus in front of an operand, a remainder and a
call of other than one argument keep a formula from being converted, and for a curve also the angle
functions and the decimal logarithm; nothing else does. The reason that is given never blames a name
or a construct, since acceptance has refused those that are unknown.
-/

namespace FormulaPlot

open FormulaPlot.Pgfmath

set_option autoImplicit false

/-- The text of the reason differs from all that blame a name or a construct. -/
def ConversionFault.SparesWords (fault : ConversionFault) : Prop :=
  (∀ name, fault.message ≠ (ConversionFault.symbol name).message) ∧
    ∀ kind, fault.message ≠ (ConversionFault.feature kind).message

namespace ConversionFault

/-- What reasons that blame a name or a construct start with. -/
def blamingHeads : List String := ["Unsupported symbol ", "Unsupported node type "]

/-- A reason that starts otherwise is another one. -/
theorem spares_of_head {fault : ConversionFault} (head rest : String)
    (text : fault.message = head ++ rest)
    (apart : ∀ other ∈ blamingHeads,
      ¬head.toList <+: other.toList ∧ ¬other.toList <+: head.toList) : fault.SparesWords := by
  have differs (other name : String) (listed : other ∈ blamingHeads) :
      fault.message ≠ other ++ name := by
    intro same
    have whole := congrArg String.toList (text.symm.trans same)
    rw [String.toList_append, String.toList_append] at whole
    have starts : other.toList <+: head.toList ++ rest.toList := ⟨name.toList, whole.symm⟩
    exact (List.prefix_or_prefix_of_prefix ⟨rest.toList, rfl⟩ starts).elim (apart other listed).1
      (apart other listed).2
  exact ⟨fun name => differs _ name (by decide), fun kind => differs _ kind (by decide)⟩

theorem unary_spares : unaryOperator.SparesWords :=
  spares_of_head "Only binary operators are supported." "" rfl (by decide)

theorem operator_spares (sign : String) : (operator sign).SparesWords :=
  spares_of_head "Unsupported operator " sign rfl (by decide)

theorem trigonometry_spares (name : String) : (trigonometry name).SparesWords :=
  spares_of_head "Trig/inverse trig export is emitted as coordinates for safety (" (name ++ ").")
    (String.append_assoc ..) (by decide)

theorem function_spares (name : String) : (ConversionFault.function name).SparesWords :=
  spares_of_head "Unsupported function " name rfl (by decide)

theorem argument_count_spares (function : ElementaryFunction) :
    (argumentCount function.name).SparesWords := by
  apply spares_of_head function.name " with multiple arguments is unsupported." rfl
  cases function <;> decide

end ConversionFault

namespace Pgfmath

open FormulaPlot.ConversionFault

/-- Calls that are kept out of curves: pgfmath takes angles in degrees, and has no decimal
logarithm for them. -/
def keptOutOfCurves : List String := ["sin", "cos", "tan", "asin", "acos", "atan", "log10"]

/-- A spelling that knows some names, and writes the calls of all functions but those kept out. -/
structure Supports (spelling : Spelling) (allowed keptOut : List String) : Prop where
  symbol : ∀ name ∈ allowed, ∃ text, Pgfmath.symbol spelling name = .ok text
  accept : ∀ function : ElementaryFunction, function.name ∉ keptOut →
    spelling.accept function.name 1 = .ok ()
  refuse : ∀ (function : ElementaryFunction) (count : Nat),
    function.name ∈ keptOut ∨ count ≠ 1 →
    ∃ fault, spelling.accept function.name count = .error fault ∧ fault.SparesWords
  write : ∀ (function : ElementaryFunction) (argument : String), function.name ∉ keptOut →
    ∃ text, spelling.write function.name argument = .ok text

theorem curve_supports : Supports curve explicitSymbols keptOutOfCurves where
  symbol := by
    intro name member
    simp only [explicitSymbols, List.mem_cons, List.not_mem_nil, or_false] at member
    rcases member with rfl | rfl | rfl <;> exact ⟨_, rfl⟩
  accept := by
    intro function written
    cases function with
    | sqrt | abs | log | exp => rfl
    | _ => exact absurd (by decide) written
  refuse := by
    intro function count reason
    cases function with
    | sin | cos | tan | asin | acos | atan => exact ⟨_, rfl, trigonometry_spares _⟩
    | log10 => exact ⟨_, rfl, function_spares _⟩
    | sqrt | abs | log | exp =>
        have several := reason.resolve_left (by decide)
        exact ⟨_, if_pos several, argument_count_spares _⟩
  write _ _ _ := ⟨_, rfl⟩

theorem surface_supports : Supports surface surfaceSymbols [] where
  symbol := by
    intro name member
    simp only [surfaceSymbols, implicitSymbols, List.mem_cons, List.not_mem_nil, or_false] at member
    rcases member with rfl | rfl | rfl | rfl <;> exact ⟨_, rfl⟩
  accept _ _ := rfl
  refuse := by
    intro function count reason
    have several := reason.resolve_left List.not_mem_nil
    exact ⟨_, if_pos several, argument_count_spares function⟩
  write := by
    intro function argument _
    cases function <;> exact ⟨_, rfl⟩

end Pgfmath

namespace Formula

variable {label : Type} {spelling : Spelling} {allowed keptOut : List String}

/-- What cannot be written: a plus in front, a remainder, a call of other than one argument or of a
function that is kept out. -/
def isObstacle (keptOut : List String) : Formula label → Bool
  | unary _ operator _ => operator == .plus
  | binary _ operator _ _ => operator == .percent
  | call _ name arguments => arguments.length != 1 || keptOut.contains name
  | _ => false

/-- Nothing in the formula keeps it from being written. -/
def IsClear (keptOut : List String) (formula : Formula label) : Prop :=
  ∀ node ∈ formula.walk, node.isObstacle keptOut = false

theorem is_clear_iff (keptOut : List String) (formula : Formula label) :
    formula.IsClear keptOut ↔
      formula.isObstacle keptOut = false ∧ ∀ child ∈ formula.children, child.IsClear keptOut := by
  unfold IsClear
  rw [walk_eq, List.forall_mem_cons, List.forall_mem_flatMap]

/-- A formula that is clear is written, and one that is not is refused for one of its obstacles. -/
def ConvertsIfClear (spelling : Spelling) (keptOut : List String) (formula : Formula label) :
    Prop :=
  (∃ text, formula.convert spelling = .ok text ∧ formula.IsClear keptOut) ∨
    ∃ fault, formula.convert spelling = .error fault ∧ fault.SparesWords ∧
      ¬formula.IsClear keptOut

theorem unary_converts (place : label) {operator : TokenKind} {operand : Formula label}
    (isSign : operator.isSign = true) (converts : ConvertsIfClear spelling keptOut operand) :
    ConvertsIfClear spelling keptOut (.unary place operator operand) := by
  have parts := is_clear_iff keptOut (.unary place operator operand)
  rw [children, List.forall_mem_singleton] at parts
  simp only [TokenKind.isSign, Bool.or_eq_true, beq_iff_eq] at isSign
  rcases isSign with rfl | rfl
  · rcases converts with ⟨text, converted, clear⟩ | ⟨fault, refused, spares, unclear⟩
    · refine .inl ⟨"-" ++ parenthesized text, ?_, parts.mpr ⟨rfl, clear⟩⟩
      rw [convert, if_pos rfl, converted]
      rfl
    · refine .inr ⟨fault, ?_, spares, fun whole => unclear (parts.mp whole).2⟩
      rw [convert, if_pos rfl, refused]
      rfl
  · refine .inr ⟨_, if_neg (by decide), ConversionFault.unary_spares, fun whole => ?_⟩
    exact absurd (parts.mp whole).1 Bool.noConfusion

theorem binary_converts (place : label) {operator : TokenKind} {left right : Formula label}
    (isArithmetic : operator.isArithmetic = true) (first : ConvertsIfClear spelling keptOut left)
    (second : ConvertsIfClear spelling keptOut right) :
    ConvertsIfClear spelling keptOut (.binary place operator left right) := by
  have parts := is_clear_iff keptOut (.binary place operator left right)
  rw [children, List.forall_mem_cons, List.forall_mem_singleton] at parts
  rcases first with ⟨head, leftConverted, leftClear⟩ | ⟨fault, refused, spares, unclear⟩
  · rcases second with ⟨tail, rightConverted, rightClear⟩ | ⟨fault, refused, spares, unclear⟩
    · have whole : (binary place operator left right).convert spelling =
          combined operator head tail := by
        simp only [convert, leftConverted, rightConverted]
      have clear (plain : (binary place operator left right).isObstacle keptOut = false) :=
        parts.mpr ⟨plain, leftClear, rightClear⟩
      cases operator <;> simp [TokenKind.isArithmetic] at isArithmetic
      case percent =>
        refine .inr ⟨_, whole, ConversionFault.operator_spares _, fun all => ?_⟩
        exact absurd (parts.mp all).1 Bool.noConfusion
      all_goals exact .inl ⟨_, whole, clear rfl⟩
    · refine .inr ⟨fault, ?_, spares, fun whole => unclear (parts.mp whole).2.2⟩
      simp only [convert, leftConverted, refused]
  · refine .inr ⟨fault, ?_, spares, fun whole => unclear (parts.mp whole).2.1⟩
    simp only [convert, refused]

theorem call_converts (supports : Supports spelling allowed keptOut) (place : label)
    (function : ElementaryFunction) {arguments : List (Formula label)}
    (converts : ∀ argument ∈ arguments, ConvertsIfClear spelling keptOut argument) :
    ConvertsIfClear spelling keptOut (.call place function.name arguments) := by
  have parts := is_clear_iff keptOut (.call place function.name arguments)
  by_cases written : arguments.length = 1 ∧ function.name ∉ keptOut
  · obtain ⟨single, kept⟩ := written
    obtain ⟨argument, rfl⟩ := List.length_eq_one_iff.mp single
    have accepted := supports.accept function kept
    rw [children, List.forall_mem_singleton] at parts
    rcases converts argument List.mem_cons_self with
      ⟨text, converted, clear⟩ | ⟨fault, refused, spares, unclear⟩
    · obtain ⟨result, spelled⟩ := supports.write function text kept
      refine .inl ⟨result, ?_, parts.mpr ⟨?_, clear⟩⟩
      · simp only [convert, List.length_singleton, accepted, convertCall, converted, spelled]
      · simp [isObstacle, kept]
    · refine .inr ⟨fault, ?_, spares, fun whole => unclear (parts.mp whole).2⟩
      simp only [convert, List.length_singleton, accepted, convertCall, refused]
  · have reason : function.name ∈ keptOut ∨ arguments.length ≠ 1 := by
      by_cases kept : function.name ∈ keptOut
      · exact .inl kept
      · exact .inr fun single => written ⟨single, kept⟩
    obtain ⟨fault, refused, spares⟩ := supports.refuse function arguments.length reason
    refine .inr ⟨fault, ?_, spares, fun whole => ?_⟩
    · simp only [convert, refused]
    · have plain := (parts.mp whole).1
      simp only [isObstacle, Bool.or_eq_false_iff, bne_eq_false_iff_eq] at plain
      rcases reason with kept | several
      · have contained : keptOut.contains function.name = true := by simpa using kept
        rw [plain.2] at contained
        contradiction
      · exact several plain.1

theorem converts_if_clear (supports : Supports spelling allowed keptOut) (formula : Formula label)
    (accepted : formula.firstViolation allowed = none) :
    ConvertsIfClear spelling keptOut formula := by
  induction formula using parts_induction with
  | step formula induction =>
      rw [accepted_iff] at accepted
      obtain ⟨root, parts⟩ := accepted
      have converts := fun child member => induction child member (parts child member)
      cases formula with
      | constant place value lexeme =>
          refine .inl ⟨lexeme, rfl, ?_⟩
          rw [is_clear_iff]
          exact ⟨rfl, fun child member => absurd member List.not_mem_nil⟩
      | symbol place name =>
          have known : name ∈ allowed := by
            simpa [violation?] using root
          obtain ⟨text, spelled⟩ := supports.symbol name known
          refine .inl ⟨text, spelled, ?_⟩
          rw [is_clear_iff]
          exact ⟨rfl, fun child member => absurd member List.not_mem_nil⟩
      | group place inner =>
          have clear := is_clear_iff keptOut (.group place inner)
          rw [children, List.forall_mem_singleton] at clear
          rcases converts inner List.mem_cons_self with
            ⟨text, converted, innerClear⟩ | ⟨fault, refused, spares, unclear⟩
          · exact .inl ⟨text, converted, clear.mpr ⟨rfl, innerClear⟩⟩
          · exact .inr ⟨fault, refused, spares, fun whole => unclear (clear.mp whole).2⟩
      | unary place operator operand =>
          have isSign : operator.isSign = true := by
            simpa [violation?] using root
          exact unary_converts place isSign (converts operand List.mem_cons_self)
      | binary place operator left right =>
          have isArithmetic : operator.isArithmetic = true := by
            simpa [violation?] using root
          exact binary_converts place isArithmetic (converts left (by simp [children]))
            (converts right (by simp [children]))
      | call place name arguments =>
          have known : (ElementaryFunction.ofName? name).isSome = true := by
            simpa [violation?, Option.isSome_iff_ne_none] using root
          obtain ⟨function, rfl⟩ := ElementaryFunction.exists_of_name known
          exact call_converts supports place function converts
      | _ => simp [violation?] at root

/-- Of an accepted formula exactly the clear ones are converted. -/
theorem convert_iff (supports : Supports spelling allowed keptOut) (formula : Formula label)
    (safe : formula.refusal? allowed = none) :
    ((∃ text, convert? spelling (some formula) = .ok text) ↔ formula.IsClear keptOut) ∧
      ∀ fault, convert? spelling (some formula) = .error fault → fault.SparesWords := by
  have accepted : formula.firstViolation allowed = none := by
    simpa [refusal?] using safe
  rcases converts_if_clear supports formula accepted with
    ⟨text, converted, clear⟩ | ⟨fault, refused, spares, unclear⟩
  · refine ⟨⟨fun _ => clear, fun _ => ⟨text, converted⟩⟩, fun fault refused => ?_⟩
    rw [convert?, converted] at refused
    contradiction
  · refine ⟨⟨?_, fun clear => absurd clear unclear⟩, ?_⟩
    · rintro ⟨text, converted⟩
      rw [convert?, refused] at converted
      contradiction
    · intro other found
      rw [convert?, refused] at found
      exact Except.error.inj found ▸ spares

/-- An accepted curve is written unless it has a plus in front, a remainder, a call of other than
one argument, an angle function or a decimal logarithm; an accepted surface unless it has one of the
first three. The reasons that are given otherwise do not blame a name or a construct. -/
theorem written_unless_obstructed (formula : Formula label) :
    (formula.refusal? explicitSymbols = none →
      ((∃ text, convert? curve (some formula) = .ok text) ↔
        ∀ node ∈ formula.walk, node.isObstacle keptOutOfCurves = false) ∧
      ∀ fault, convert? curve (some formula) = .error fault → fault.SparesWords) ∧
    (formula.refusal? surfaceSymbols = none →
      ((∃ text, convert? surface (some formula) = .ok text) ↔
        ∀ node ∈ formula.walk, node.isObstacle [] = false) ∧
      ∀ fault, convert? surface (some formula) = .error fault → fault.SparesWords) :=
  ⟨convert_iff curve_supports formula, convert_iff surface_supports formula⟩

/-- The sine of a root, taken from one. -/
def sineOfRoot : Formula Unit :=
  binary () .minus (constant () 1 "1") (call () "sin" [call () "sqrt" [symbol () "x"]])

/-- An angle function is kept out of curves and written on surfaces. -/
theorem sine_written_on_surfaces :
    sineOfRoot.refusal? explicitSymbols = none ∧ sineOfRoot.refusal? surfaceSymbols = none ∧
      (¬∃ text, convert? curve (some sineOfRoot) = .ok text) ∧
      ∃ text, convert? surface (some sineOfRoot) = .ok text := by
  have narrow : sineOfRoot.refusal? explicitSymbols = none := by decide +kernel
  have wide : sineOfRoot.refusal? surfaceSymbols = none := by decide +kernel
  obtain ⟨onCurves, onSurfaces⟩ := written_unless_obstructed sineOfRoot
  refine ⟨narrow, wide, ?_, (onSurfaces wide).1.mpr (by decide +kernel)⟩
  rw [(onCurves narrow).1]
  decide +kernel

end Formula

end FormulaPlot
