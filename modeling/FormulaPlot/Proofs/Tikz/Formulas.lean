import FormulaPlot.Proofs.Equation.Expressions
import FormulaPlot.Proofs.Formula.Conversion
import FormulaPlot.Proofs.Tikz.Lines

/-!
Formulas in documents. What is written of a formula with plain names is one line, and so is the
reason for which a formula cannot be written.
-/

namespace FormulaPlot

open FormulaPlot.Equation FormulaPlot.Formula FormulaPlot.Pgfmath FormulaPlot.Scanning

set_option autoImplicit false

namespace Pgfmath

/-- What is written of a formula is one line, and so is the reason for which nothing is. -/
def Plain : Converted → Prop
  | .ok text => OneLine text
  | .error fault => OneLine fault.message

/-- How variables and calls are spelled adds no line end. -/
structure PlainSpelling (spelling : Spelling) : Prop where
  input : ∀ {name spelled}, spelling.inputs.lookup name = some spelled → OneLine spelled
  refused : ∀ {name count fault}, OneLine name → spelling.accept name count = .error fault →
    OneLine fault.message
  write : ∀ {name argument}, OneLine name → OneLine argument → Plain (spelling.write name argument)

theorem one_line_parenthesized {text : String} (plain : OneLine text) :
    OneLine (parenthesized text) := by
  unfold parenthesized
  simp only [one_line_append, plain, and_true]
  and_intros <;> exact one_line_of_characters (by decide)

theorem one_line_applied {name argument : String} (named : OneLine name)
    (plain : OneLine argument) : OneLine (applied name argument) :=
  one_line_append.mpr ⟨named, one_line_parenthesized plain⟩

/-- What a reason is about. -/
def subject : ConversionFault → String
  | .symbol name | .operator name | .trigonometry name | .function name | .argumentCount name
  | .feature name => name
  | .noFormula | .unaryOperator => ""

theorem one_line_message {fault : ConversionFault} (plain : OneLine (subject fault)) :
    OneLine fault.message := by
  have behind : ∀ {start : String}, OneLine start → OneLine (start ++ subject fault) :=
    fun starts => one_line_append.mpr ⟨starts, plain⟩
  cases fault with
  | noFormula => exact (one_line_of_characters (by decide) : OneLine "No parsed expression.")
  | unaryOperator =>
      exact (one_line_of_characters (by decide) : OneLine "Only binary operators are supported.")
  | symbol name => exact behind (one_line_of_characters (by decide))
  | operator sign => exact behind (one_line_of_characters (by decide))
  | trigonometry name =>
      exact one_line_append.mpr
        ⟨behind (one_line_of_characters (by decide)), one_line_of_characters (by decide)⟩
  | function name => exact behind (one_line_of_characters (by decide))
  | argumentCount name => exact one_line_append.mpr ⟨plain, one_line_of_characters (by decide)⟩
  | feature kind => exact behind (one_line_of_characters (by decide))

theorem curve_plain : PlainSpelling curve where
  input := by
    intro name spelled found
    simp only [curve, List.lookup_cons, List.lookup_nil] at found
    split at found
    · rw [← Option.some.inj found]
      exact one_line_of_characters (by decide)
    · contradiction
  refused := by
    intro name count fault named refused
    simp only [curve] at refused
    split at refused
    · injection refused with same
      rw [← same]
      exact one_line_message named
    · split at refused
      · injection refused with same
        rw [← same]
        exact one_line_message named
      · split at refused
        · injection refused with same
          rw [← same]
          exact one_line_message named
        · contradiction
  write := by
    intro name argument named plain
    apply one_line_applied _ plain
    split
    · exact one_line_of_characters (by decide)
    · exact named

theorem surface_plain : PlainSpelling surface where
  input := by
    intro name spelled found
    simp only [surface, List.lookup_cons, List.lookup_nil] at found
    split at found
    · rw [← Option.some.inj found]
      exact one_line_of_characters (by decide)
    · split at found
      · rw [← Option.some.inj found]
        exact one_line_of_characters (by decide)
      · contradiction
  refused := by
    intro name count fault named refused
    simp only [surface] at refused
    split at refused
    · injection refused with same
      rw [← same]
      exact one_line_message named
    · contradiction
  write := by
    intro name argument named plain
    have logarithm := one_line_applied (one_line_of_characters (by decide) : OneLine "ln") plain
    simp only [surface]
    split
    · exact one_line_applied named (one_line_applied (one_line_of_characters (by decide)) plain)
    · split
      · exact one_line_append.mpr
          ⟨one_line_parenthesized (one_line_applied named plain),
            one_line_of_characters (by decide)⟩
      · split
        · exact one_line_applied named plain
        · split
          · exact logarithm
          · split
            · exact one_line_parenthesized
                (one_line_append.mpr ⟨logarithm, one_line_of_characters (by decide)⟩)
            · exact one_line_message named

section Plain

variable {spelling : Spelling}

theorem PlainSpelling.symbol (plain : PlainSpelling spelling) {name : String}
    (named : OneLine name) : Plain (Pgfmath.symbol spelling name) := by
  unfold Pgfmath.symbol namedConstant?
  split
  · next found => exact plain.input found
  · split
    · next found =>
        split at found
        · rw [← Option.some.inj found]
          exact (one_line_of_characters (by decide) : OneLine "pi")
        · split at found
          · rw [← Option.some.inj found]
            exact (one_line_of_characters (by decide) : OneLine "exp(1)")
          · contradiction
    · exact one_line_message named

theorem one_line_sign (kind : TokenKind) : OneLine kind.sign := by
  cases kind <;> exact one_line_of_characters (by decide)

theorem plain_combined (operator : TokenKind) {left right : String} (plainLeft : OneLine left)
    (plainRight : OneLine right) : Plain (combined operator left right) := by
  have between : OneLine (parenthesized left ++ operator.sign ++ parenthesized right) := by
    simp only [one_line_append, one_line_sign, one_line_parenthesized, plainLeft, plainRight,
      and_true]
  have power : OneLine (applied "pow" (left ++ "," ++ right)) := by
    apply one_line_applied (one_line_of_characters (by decide))
    simp only [one_line_append, plainLeft, plainRight, and_true, true_and]
    exact one_line_of_characters (by decide)
  unfold combined
  split
  · exact between
  · exact between
  · exact between
  · exact between
  · exact power
  · exact one_line_message (one_line_sign operator)

variable {label : Type}

theorem one_line_kind (formula : Formula label) : OneLine formula.kind := by
  cases formula <;> exact one_line_of_characters (by decide)

/-- A formula with plain numbers and names is written in one line. -/
theorem PlainSpelling.convert (plain : PlainSpelling spelling) {formula : Formula label}
    (layered : formula.Layered) (named : ∀ name ∈ formula.names, OneLine name) :
    Plain (formula.convert spelling) := by
  induction formula using parts_induction with
  | step formula induction =>
      have ⟨root, parts⟩ := (layered_iff formula).mp layered
      have each : ∀ child ∈ formula.children, Plain (child.convert spelling) := by
        intro child member
        apply induction child member (parts child member)
        intro name inside
        exact named name (mem_names_of_child member inside)
      have unsupported : Plain (.error (.feature formula.kind)) :=
        one_line_message (one_line_kind formula)
      cases formula with
      | constant place value lexeme =>
          intro newline
          exact absurd (root.1.numeric _ newline) (by decide)
      | symbol place name => exact plain.symbol (named name List.mem_cons_self)
      | group place inner => exact each inner List.mem_cons_self
      | unary place operator operand =>
          have inner := each operand List.mem_cons_self
          rw [Formula.convert]
          split
          · cases converted : operand.convert spelling with
            | error fault =>
                rw [converted] at inner
                exact inner
            | ok text =>
                rw [converted] at inner
                exact one_line_append.mpr
                  ⟨(one_line_of_characters (by decide) : OneLine "-"), one_line_parenthesized inner⟩
          · exact one_line_message (one_line_of_characters (by decide))
      | binary place operator left right =>
          have first := each left (by simp [children])
          have second := each right (by simp [children])
          rw [Formula.convert]
          split
          · next converted =>
              rw [converted] at first
              exact first
          · next convertedLeft =>
              rw [convertedLeft] at first
              split
              · next converted =>
                  rw [converted] at second
                  exact second
              · next converted =>
                  rw [converted] at second
                  exact plain_combined operator first second
      | call place name arguments =>
          have isName : OneLine name := named name (by simp [names])
          rw [Formula.convert]
          split
          · next refused => exact plain.refused isName refused
          · cases arguments with
            | nil => exact one_line_message isName
            | cons argument rest =>
                have inner := each argument (by simp [children])
                rw [convertCall]
                split
                · next converted =>
                    rw [converted] at inner
                    exact inner
                · next converted =>
                    rw [converted] at inner
                    exact plain.write isName inner
      | _ => exact unsupported

end Plain

end Pgfmath

/-- Formulas that are written in one line, and refused in one. -/
def Formula.IsPlain (formula : Formula Span) : Prop :=
  Plain (formula.convert curve) ∧ Plain (formula.convert surface)

theorem plain_of_evaluator {mode : Mode} {text : String} {made : Evaluator Span}
    (accepted : evaluator mode text = .ok made) : made.formula.IsPlain := by
  obtain ⟨formula, spelled, safe, evaluated⟩ := (evaluator_eq_ok_iff _ _ _).mp accepted
  obtain ⟨program, _, rfl⟩ := evaluator_of_formula_iff.mp evaluated
  have known : ∀ name ∈ Formula.vocabulary, OneLine name := by decide
  have named : ∀ name ∈ formula.names, OneLine name := fun name inside =>
    known name (names_known safe name inside)
  have layered := Formula.layered_of_read spelled
  exact ⟨curve_plain.convert layered named, surface_plain.convert layered named⟩

end FormulaPlot
