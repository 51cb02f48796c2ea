import Mathlib.Logic.Basic
import FormulaPlot.Formula.Value

/-!
The faults of arithmetic. Each operator and each elementary function has a short list of faults, and
fails for no other reason, be its arguments real or complex; only a modulo fails also on numbers that
are not real.
-/

namespace FormulaPlot

set_option autoImplicit false

/-- A result that is missing for one of some reasons only. -/
def FailsFor {α : Type} (reasons : List Fault) (result : Except Fault α) : Prop :=
  ∀ fault, result = .error fault → fault ∈ reasons

section FailsFor

variable {α β : Type} {reasons others : List Fault} {result : Except Fault α}

@[simp] theorem fails_for_ok (value : α) : FailsFor reasons (.ok value : Except Fault α) := nofun

@[simp] theorem fails_for_error_iff {fault : Fault} :
    FailsFor reasons (.error fault : Except Fault α) ↔ fault ∈ reasons := by
  constructor
  · intro fails
    exact fails fault rfl
  · intro listed found same
    injection same with same
    rwa [← same]

theorem fails_for_ite {condition : Prop} [Decidable condition] {other : Except Fault α}
    (first : FailsFor reasons result) (second : FailsFor reasons other) :
    FailsFor reasons (if condition then result else other) := by
  split
  · exact first
  · exact second

theorem FailsFor.mono (fails : FailsFor reasons result) (more : ∀ fault ∈ reasons, fault ∈ others) :
    FailsFor others result := fun fault failed => more fault (fails fault failed)

theorem FailsFor.map (fails : FailsFor reasons result) (change : α → β) :
    FailsFor reasons (result.map change) := by
  intro fault failed
  cases result with
  | ok value => contradiction
  | error found =>
      injection failed with same
      exact same ▸ fails found rfl

theorem FailsFor.bind (fails : FailsFor reasons result) {next : α → Except Fault β}
    (behind : ∀ value, FailsFor reasons (next value)) :
    FailsFor reasons (result.bind next) := by
  intro fault failed
  cases result with
  | ok value => exact behind value fault failed
  | error found =>
      injection failed with same
      exact same ▸ fails found rfl

end FailsFor

namespace Complex

theorem div_fails_for (left right : Complex) :
    FailsFor [.complexDivisionByZero] (div left right) := by
  unfold div
  repeat' apply fails_for_ite
  all_goals simp

theorem abs_fails_for (value : Complex) : FailsFor [.absoluteValueTooLarge] value.abs := by
  unfold abs
  apply fails_for_ite <;> simp

theorem log_size_fails_for (reSize imSize : Float) :
    FailsFor [.outsideDomain] (logSize reSize imSize) := by
  unfold logSize
  repeat' apply fails_for_ite
  all_goals simp

theorem log_fails_for (value : Complex) : FailsFor [.outsideDomain] value.log := by
  unfold log
  refine fails_for_ite (fails_for_ok _) (fails_for_ite (fails_for_ok _) ?_)
  exact (log_size_fails_for _ _).map _

theorem log10_fails_for (value : Complex) : FailsFor [.outsideDomain] value.log10 :=
  (log_fails_for value).map _

theorem in_range_fails_for (value : Complex) :
    FailsFor [.outsideDomain, .outOfRange] value.inRange := by
  unfold inRange
  apply fails_for_ite <;> simp

theorem exp_at_limits_fails_for (value : Complex) :
    FailsFor [.outsideDomain, .outOfRange] value.expAtLimits := by
  unfold expAtLimits
  repeat' apply fails_for_ite
  all_goals simp

theorem exp_fails_for (value : Complex) : FailsFor [.outsideDomain, .outOfRange] value.exp :=
  fails_for_ite (exp_at_limits_fails_for value)
    (fails_for_ite (in_range_fails_for _) (in_range_fails_for _))

theorem sinh_at_limits_fails_for (value : Complex) :
    FailsFor [.outsideDomain, .outOfRange] value.sinhAtLimits := by
  unfold sinhAtLimits
  repeat' apply fails_for_ite
  all_goals simp

theorem sinh_fails_for (value : Complex) : FailsFor [.outsideDomain, .outOfRange] value.sinh :=
  fails_for_ite (sinh_at_limits_fails_for value)
    (fails_for_ite (in_range_fails_for _) (in_range_fails_for _))

theorem cosh_at_limits_fails_for (value : Complex) :
    FailsFor [.outsideDomain, .outOfRange] value.coshAtLimits := by
  unfold coshAtLimits
  repeat' apply fails_for_ite
  all_goals simp

theorem cosh_fails_for (value : Complex) : FailsFor [.outsideDomain, .outOfRange] value.cosh :=
  fails_for_ite (cosh_at_limits_fails_for value)
    (fails_for_ite (in_range_fails_for _) (in_range_fails_for _))

theorem tanh_at_limits_fails_for (value : Complex) :
    FailsFor [.outsideDomain] value.tanhAtLimits := by
  unfold tanhAtLimits
  repeat' apply fails_for_ite
  all_goals simp

theorem tanh_fails_for (value : Complex) : FailsFor [.outsideDomain] value.tanh :=
  fails_for_ite (tanh_at_limits_fails_for value) (fails_for_ite (fails_for_ok _) (fails_for_ok _))

theorem atanh_right_fails_for (value : Complex) : FailsFor [.outsideDomain] value.atanhRight := by
  unfold atanhRight
  repeat' apply fails_for_ite
  all_goals simp

theorem atanh_fails_for (value : Complex) : FailsFor [.outsideDomain] value.atanh := by
  unfold atanh
  refine fails_for_ite (fails_for_ok _) (fails_for_ite (fails_for_ok _) (fails_for_ite ?_ ?_))
  · exact (atanh_right_fails_for _).map _
  · exact atanh_right_fails_for _

theorem pow_whole_fails_for (base : Complex) (exponent : Int) :
    FailsFor [.zeroToComplexPower] (base.powWhole exponent) := by
  unfold powWhole
  refine fails_for_ite (fails_for_ok _) ?_
  split <;> simp

theorem pow_polar_fails_for (base exponent : Complex) :
    FailsFor [.zeroToComplexPower] (base.powPolar exponent) := by
  unfold powPolar
  repeat' apply fails_for_ite
  all_goals simp

theorem pow_fails_for (base exponent : Complex) :
    FailsFor [.zeroToComplexPower, .complexPowerOutOfRange] (base.pow exponent) := by
  have tooLarge (result : Complex) :
      FailsFor [.zeroToComplexPower, .complexPowerOutOfRange]
        (if result.hasInfinity then .error .complexPowerOutOfRange else .ok result) :=
    fails_for_ite (by simp) (fails_for_ok _)
  have whole : FailsFor [.zeroToComplexPower, .complexPowerOutOfRange]
      (base.powWhole exponent.re.toInt64.toInt) := (pow_whole_fails_for _ _).mono (by decide)
  have polar : FailsFor [.zeroToComplexPower, .complexPowerOutOfRange]
      (base.powPolar exponent) := (pow_polar_fails_for _ _).mono (by decide)
  unfold pow
  exact fails_for_ite (whole.bind tooLarge) (polar.bind tooLarge)

end Complex

theorem modulo_fails_for (left right : Float) : FailsFor [.moduloByZero] (modulo left right) := by
  unfold modulo
  repeat' apply fails_for_ite
  all_goals simp

theorem pow_zero_base_failed {base exponent : Float} {fault : Fault}
    (failed : powZeroBase base exponent = .failed fault) : fault = .zeroToNegativePower := by
  unfold powZeroBase at failed
  split at failed
  · injection failed with same
    exact same.symm
  · contradiction

theorem pow_finite_failed {base exponent : Float} {fault : Fault}
    (failed : powFinite base exponent = .failed fault) : fault = .powerOutOfRange := by
  unfold powFinite at failed
  rcases ite_eq_iff.mp failed with ⟨_, failed⟩ | ⟨_, failed⟩
  · contradiction
  · rcases ite_eq_iff.mp failed with ⟨_, failed⟩ | ⟨_, failed⟩
    · injection failed with same
      exact same.symm
    · contradiction

theorem real_power_failed {base exponent : Float} {fault : Fault}
    (failed : realPower base exponent = .failed fault) :
    fault = .zeroToNegativePower ∨ fault = .powerOutOfRange := by
  unfold realPower at failed
  -- only the last two of seven cases fail
  iterate 5
    rcases ite_eq_iff.mp failed with ⟨_, failed⟩ | ⟨_, failed⟩
    · contradiction
  rcases ite_eq_iff.mp failed with ⟨_, failed⟩ | ⟨_, failed⟩
  · exact .inl (pow_zero_base_failed failed)
  · exact .inr (pow_finite_failed failed)

namespace BinaryOperator

/-- The arithmetic faults of an operator. -/
def faults : BinaryOperator → List Fault
  | add => []
  | subtract => []
  | multiply => []
  | divide => [.divisionByZero, .complexDivisionByZero]
  | modulo => [.moduloByZero]
  | power =>
      [.zeroToNegativePower, .powerOutOfRange, .zeroToComplexPower, .complexPowerOutOfRange]

theorem divide_real_fails_for (left right : Float) :
    FailsFor divide.faults (divideReal left right) := by
  unfold divideReal
  apply fails_for_ite <;> simp [faults]

end BinaryOperator

namespace ElementaryFunction

/-- The faults of an elementary function. -/
def faults : ElementaryFunction → List Fault
  | sin => [.outsideDomain, .outOfRange]
  | cos => [.outsideDomain, .outOfRange]
  | tan => [.outsideDomain]
  | asin => []
  | acos => []
  | atan => [.outsideDomain]
  | sqrt => []
  | abs => [.absoluteValueTooLarge]
  | log => [.outsideDomain]
  | log10 => [.outsideDomain]
  | exp => [.outsideDomain, .outOfRange]

theorem inside_domain_fails_for (argument result : Float) :
    FailsFor [.outsideDomain] (insideDomain argument result) := by
  unfold insideDomain
  repeat' apply fails_for_ite
  all_goals simp

theorem logarithm_real_fails_for (function : Float → Float) (argument : Float) :
    FailsFor [.outsideDomain] (logarithmReal function argument) := by
  unfold logarithmReal
  repeat' apply fails_for_ite
  all_goals simp

theorem exp_real_fails_for (argument : Float) : FailsFor [.outOfRange] (expReal argument) := by
  unfold expReal
  apply fails_for_ite <;> simp

/-- Outside its domain on the real line a function is taken to the complex plane. -/
theorem on_real_fails_for (function : ElementaryFunction) (argument : Float) :
    FailsFor (.outsideDomain :: function.faults) (function.onReal argument) := by
  have head : ∀ fault ∈ [Fault.outsideDomain], fault ∈ Fault.outsideDomain :: function.faults :=
    List.forall_mem_singleton.mpr List.mem_cons_self
  cases function with
  | abs => exact fails_for_ok _
  | log => exact (logarithm_real_fails_for _ _).mono head
  | log10 => exact (logarithm_real_fails_for _ _).mono head
  | exp => exact (exp_real_fails_for _).mono (by decide)
  | _ => exact (inside_domain_fails_for _ _).mono head

theorem on_complex_fails_for (function : ElementaryFunction) (argument : Complex) :
    FailsFor function.faults (function.onComplex argument) := by
  cases function with
  | sin => exact ((Complex.sinh_fails_for _).map _).map _
  | cos => exact (Complex.cosh_fails_for _).map _
  | tan => exact ((Complex.tanh_fails_for _).map _).map _
  | asin => exact fails_for_ok _
  | acos => exact fails_for_ok _
  | atan => exact ((Complex.atanh_fails_for _).map _).map _
  | sqrt => exact fails_for_ok _
  | abs => exact (Complex.abs_fails_for _).map _
  | log => exact (Complex.log_fails_for _).map _
  | log10 => exact (Complex.log10_fails_for _).map _
  | exp => exact (Complex.exp_fails_for _).map _

end ElementaryFunction

/-! Operators and functions on values -/

def Value.isReal : Value → Bool
  | real _ => true
  | complex _ => false

/-- A computation that fails for one of some faults of arithmetic only. -/
def FailsWith {α : Type} (reasons : List Fault) (result : Computed α) : Prop :=
  ∀ fault, result = .error fault → ∃ reason ∈ reasons, fault = .arithmetic reason

theorem fails_with_ok {α : Type} {reasons : List Fault} (value : α) :
    FailsWith reasons (.ok value : Computed α) := nofun

theorem fails_with_error {α : Type} {reasons : List Fault} {reason : Fault}
    (listed : reason ∈ reasons) :
    FailsWith reasons (.error (.arithmetic reason) : Computed α) := by
  intro fault same
  injection same with same
  exact ⟨reason, listed, same.symm⟩

theorem fails_with_arithmetic {α : Type} {reasons : List Fault} {result : Except Fault α}
    (fails : FailsFor reasons result) : FailsWith reasons (ofArithmetic result) := by
  cases result with
  | ok value => exact fails_with_ok value
  | error reason => exact fails_with_error (fails reason rfl)

theorem real_of_arithmetic {result : Except Fault Float} {value : Value}
    (made : ofArithmetic (result.map Value.real) = .ok value) : value.isReal = true := by
  cases result with
  | ok number =>
      injection made with same
      rw [← same]
      rfl
  | error fault => contradiction

theorem FailsWith.mono {α : Type} {reasons others : List Fault} {result : Computed α}
    (fails : FailsWith reasons result) (more : reasons ⊆ others) : FailsWith others result := by
  intro fault failed
  obtain ⟨reason, listed, same⟩ := fails fault failed
  exact ⟨reason, more listed, same⟩

theorem FailsWith.bind {α β : Type} {reasons : List Fault} {result : Computed α}
    (fails : FailsWith reasons result) {next : α → Computed β}
    (behind : ∀ value, FailsWith reasons (next value)) :
    FailsWith reasons (result.bind next) := by
  intro fault failed
  cases result with
  | ok value => exact behind value fault failed
  | error found =>
      injection failed with same
      exact same ▸ fails found rfl

namespace BinaryOperator

theorem exists_of_arithmetic {sign : TokenKind} (arithmetic : sign.isArithmetic = true) :
    ∃ operator, ofKind? sign = some operator := by
  have known : (ofKind? sign).isSome = true := by
    revert arithmetic
    cases sign <;> decide
  exact Option.isSome_iff_exists.mp known

theorem percent_of_modulo {sign : TokenKind} (found : ofKind? sign = some modulo) :
    sign = .percent := by
  revert found
  cases sign <;> decide

theorem caret_of_power {sign : TokenKind} (found : ofKind? sign = some power) :
    sign = .caret := by
  revert found
  cases sign <;> decide

theorem divide_fails_with (left right : Value) :
    FailsWith divide.faults (divideValues left right) := by
  have complex (dividend divisor : Complex) :
      FailsFor divide.faults ((Complex.div dividend divisor).map Value.complex) :=
    ((Complex.div_fails_for _ _).mono (by decide)).map _
  unfold divideValues
  split
  · exact fails_with_arithmetic ((divide_real_fails_for _ _).map _)
  · exact fails_with_arithmetic (complex _ _)

theorem power_fails_with (base exponent : Value) :
    FailsWith power.faults (powerValues base exponent) := by
  have complex (first second : Complex) : FailsWith power.faults (powerComplex first second) :=
    fails_with_arithmetic (((Complex.pow_fails_for _ _).mono (by decide)).map _)
  unfold powerValues
  split
  · split
    · exact fails_with_ok _
    · next failed =>
        rcases real_power_failed failed with rfl | rfl
        · exact fails_with_error (by decide)
        · exact fails_with_error (by decide)
    · exact complex _ _
  · exact complex _ _

/-- An operator fails for its faults; a modulo fails also on a number that is not real. -/
theorem apply_fails {operator : BinaryOperator} {left right : Value} {fault : EvaluationFault}
    (failed : operator.apply left right = .error fault) :
    (∃ reason ∈ operator.faults, fault = .arithmetic reason) ∨
      operator = .modulo ∧ fault = .complexModulo ∧
        (left.isReal = false ∨ right.isReal = false) := by
  cases operator with
  | divide => exact .inl (divide_fails_with left right fault failed)
  | power => exact .inl (power_fails_with left right fault failed)
  | modulo =>
      cases left with
      | complex left =>
          injection failed with same
          exact .inr ⟨rfl, same.symm, .inl rfl⟩
      | real left =>
          cases right with
          | complex right =>
              injection failed with same
              exact .inr ⟨rfl, same.symm, .inr rfl⟩
          | real right =>
              exact .inl (fails_with_arithmetic ((modulo_fails_for left right).map Value.real)
                fault failed)
  | _ => cases left <;> cases right <;> contradiction

/-- Of real numbers only a power need not be real. -/
theorem apply_not_real {operator : BinaryOperator} {left right value : Value}
    (applied : operator.apply left right = .ok value) (complex : value.isReal = false) :
    operator = .power ∨ left.isReal = false ∨ right.isReal = false := by
  cases left with
  | complex left => exact .inr (.inl rfl)
  | real left =>
      cases right with
      | complex right => exact .inr (.inr rfl)
      | real right =>
          refine .inl ?_
          cases operator with
          | power => rfl
          | divide => exact absurd (real_of_arithmetic applied) (by simp [complex])
          | modulo => exact absurd (real_of_arithmetic applied) (by simp [complex])
          | _ =>
              injection applied with same
              rw [← same] at complex
              contradiction

end BinaryOperator

theorem ElementaryFunction.exists_of_name {name : String}
    (known : (ofName? name).isSome = true) :
    ∃ function : ElementaryFunction, function.name = name := by
  have ⟨function, found⟩ := Option.isSome_iff_exists.mp known
  unfold ofName? at found
  have named := List.find?_some found
  exact ⟨function, of_decide_eq_true named⟩

theorem ElementaryFunction.apply_fails_with (function : ElementaryFunction) (argument : Value) :
    FailsWith function.faults (function.apply argument) := by
  unfold apply
  split
  · exact fails_with_arithmetic (function.on_complex_fails_for _)
  · next argument =>
      have fails := function.on_real_fails_for argument
      split
      · exact fails_with_ok _
      · exact fails_with_arithmetic (function.on_complex_fails_for _)
      · next reason inside failed =>
          rcases List.mem_cons.mp (fails _ failed) with outside | listed
          · exact absurd outside inside
          · exact fails_with_error listed

/-- Only a logarithm takes two arguments. -/
theorem ElementaryFunction.takes_cases {item : Type} {function : ElementaryFunction}
    {arguments : List item} (taken : function.takes arguments.length = true) :
    (∃ argument, arguments = [argument]) ∨
      ∃ argument base, arguments = [argument, base] ∧ function = .log := by
  match arguments with
  | [] => simp [takes] at taken
  | [argument] => exact .inl ⟨argument, rfl⟩
  | [argument, base] => exact .inr ⟨argument, base, rfl, by simpa [takes] using taken⟩
  | _ :: _ :: _ :: _ => simp [takes] at taken

end FormulaPlot
