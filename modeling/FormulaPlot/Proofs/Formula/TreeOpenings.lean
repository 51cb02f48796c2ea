import FormulaPlot.Proofs.Formula.Openings

/-!
The openings in a formula. As many of them are nested in each other in the tree of a text as there
are around some token of it.
-/

namespace FormulaPlot

set_option autoImplicit false

namespace Formula

variable {label : Type}

mutual

/-- How many openings are nested in each other at most: operands of signs, exponents, groups,
arguments, indices, elements, properties and assigned values. -/
def openings : Formula label → Nat
  | constant .. => 0
  | symbol .. => 0
  | group _ inner => inner.openings + 1
  | unary _ _ operand => operand.openings + 1
  | binary _ operator left right =>
      max left.openings (if operator.isPower then right.openings + 1 else right.openings)
  | call _ _ arguments => openingsInBrackets arguments
  | assignment _ target value => max target.openings (value.openings + 1)
  | definition _ _ _ body => body.openings + 1
  | index _ target indices => max target.openings (openingsInBrackets indices)
  | member _ target _ => target.openings
  | range _ first last => max first.openings last.openings
  | steppedRange _ first last step => max first.openings (max step.openings last.openings)
  | array _ elements => openingsInBrackets elements
  | object _ entries => openingsInBraces entries
  | block _ statements => openingsInStatements statements

def openingsInBrackets : List (Formula label) → Nat
  | [] => 0
  | formula :: rest => max (formula.openings + 1) (openingsInBrackets rest)

def openingsInBraces : List (String × Formula label) → Nat
  | [] => 0
  | (_, formula) :: rest => max (formula.openings + 1) (openingsInBraces rest)

def openingsInStatements : List (Formula label) → Nat
  | [] => 0
  | formula :: rest => max formula.openings (openingsInStatements rest)

end

theorem openings_power (place : label) (base exponent : Formula label) :
    (binary place .caret base exponent).openings =
      max base.openings (exponent.openings + 1) := by
  rw [openings]
  rfl

theorem openings_operation (place : label) {operator : TokenKind} (left right : Formula label)
    (plain : operator.isPower = false) :
    (binary place operator left right).openings = max left.openings right.openings := by
  rw [openings, plain]
  rfl

theorem not_power_of_precedence {kind : TokenKind} {precedence : Nat}
    (found : precedence? kind = some precedence) : kind.isPower = false := by
  cases kind <;> first | rfl | contradiction

theorem openings_in_braces_eq (entries : List (String × Formula label)) :
    openingsInBraces entries = openingsInBrackets (entries.map Prod.snd) := by
  induction entries with
  | nil => rfl
  | cons entry rest induction =>
      rw [openingsInBraces, List.map_cons, openingsInBrackets, induction]

/-- Parameters are a bracket with nothing in it but names. -/
theorem openings_of_parameters {arguments : List (Formula label)} {parameters : List String}
    (symbols : arguments.map symbolName? = parameters.map some) :
    openingsInBrackets arguments ≤ 1 := by
  induction arguments generalizing parameters with
  | nil => exact Nat.zero_le _
  | cons argument rest induction =>
      cases parameters with
      | nil => contradiction
      | cons name names =>
          have ⟨first, others⟩ := List.cons.inj symbols
          cases argument with
          | symbol place name => exact Nat.max_le.mpr ⟨Nat.le_refl _, induction others⟩
          | _ => contradiction

end Formula

namespace Grammar

open FormulaPlot.Formula Cursor

/-- The openings around a token, as a measure. -/
def Enclosure.count (enclosure : Enclosure) : Int := enclosure.openings

open Enclosure (count)

namespace Cursor

variable {cursor : Cursor} {bound : Int}

theorem count_inside (cursor : Cursor) : cursor.inside.operand.count = cursor.operand.count + 1 :=
  rfl

theorem count_deeper (cursor : Cursor) : cursor.deeper.operand.count = cursor.operand.count + 1 :=
  rfl

theorem Fresh.count_assigned (fresh : cursor.Fresh) :
    cursor.assigned.operand.count = cursor.operand.count + 1 := by
  rw [fresh.level]
  rfl

theorem Fresh.count_factor (fresh : cursor.Fresh) :
    cursor.factor.operand.count = cursor.operand.count := by
  rw [fresh.level]
  rfl

/-- Some tokens are enclosed in as many openings as are nested in a formula, and in those around
all of them. -/
def Counts (cursor : Cursor) (tokens : List Token) (openings : Nat) : Prop :=
  ∀ bound, cursor.Within count bound tokens ↔ cursor.operand.count + openings ≤ bound

def CountsAll (cursor : Cursor) (tokens : List Token) (formulas : List (Formula Span)) : Prop :=
  ∀ bound, cursor.Within count bound tokens ↔
    ∀ formula ∈ formulas, cursor.operand.count + formula.openings ≤ bound

/-- A bracket adds an opening to all that is in it. -/
theorem count_in_brackets (cursor : Cursor) (bound : Int) (formulas : List (Formula Span)) :
    (cursor.operand.count ≤ bound ∧
      ∀ formula ∈ formulas, cursor.inside.operand.count + formula.openings ≤ bound) ↔
        cursor.operand.count + openingsInBrackets formulas ≤ bound := by
  induction formulas with
  | nil => simp [openingsInBrackets]
  | cons formula rest induction =>
      rw [List.forall_mem_cons, and_left_comm, induction, count_inside, openingsInBrackets]
      omega

end Cursor

mutual

theorem Statement.counts {room : Nat} {tokens : List Token} {formula : Formula Span}
    {cursor : Cursor} (fresh : cursor.Fresh) :
    Statement room tokens formula → cursor.Counts tokens formula.openings
  | .range derived => derived.counts fresh
  | .assignment target isTarget isAssign value => fun bound => by
      rw [within_assigned fresh target.starts (target.past fresh) isAssign, target.counts fresh,
        value.counts cursor.fresh_assigned, fresh.count_assigned, openings]
      omega
  | .definition head symbols isAssign body => fun bound => by
      have parameters := openings_of_parameters symbols
      rw [within_assigned fresh head.starts (head.past fresh) isAssign, head.counts fresh,
        body.counts cursor.fresh_assigned, fresh.count_assigned, openings, openings]
      omega

theorem Range.counts {room : Nat} {tokens : List Token} {formula : Formula Span}
    {cursor : Cursor} (fresh : cursor.Fresh) :
    Range room tokens formula → cursor.Counts tokens formula.openings
  | .single derived => derived.counts fresh
  | .range first isColon last => fun bound => by
      rw [within_joined fresh first.starts (first.past fresh).beside (step_colon isColon),
        first.counts fresh, last.counts fresh, openings]
      omega
  | .stepped first isColon step isSecond last => fun bound => by
      rw [within_joined fresh first.starts (first.past fresh).beside (step_colon isColon),
        within_joined fresh step.starts (step.past fresh).beside (step_colon isSecond),
        first.counts fresh, step.counts fresh, last.counts fresh, openings]
      omega

theorem Level.counts {room level : Nat} {tokens : List Token} {formula : Formula Span}
    {cursor : Cursor} (fresh : cursor.Fresh) :
    Level room level tokens formula → cursor.Counts tokens formula.openings
  | .operand _ derived => derived.counts fresh.spot
  | .tighter derived => derived.counts fresh
  | .operation left found right => fun bound => by
      have behind := left.past fresh
      rw [within_joined fresh left.starts behind.beside (step_operator behind.spot found),
        left.counts fresh, right.counts fresh,
        openings_operation _ _ _ (not_power_of_precedence found)]
      omega
  | .product left right isFactor apart => fun bound => by
      have factor : cursor.factor.Counts _ _ := right.counts rfl
      rw [within_factor (left.past fresh) isFactor apart, left.counts fresh, factor,
        fresh.count_factor, openings_operation _ _ _ rfl]
      omega

theorem Operand.counts {room : Nat} {tokens : List Token} {formula : Formula Span}
    {cursor : Cursor} (starts : cursor.spot = .start) :
    Operand room tokens formula → cursor.Counts tokens formula.openings
  | .power derived => derived.counts starts
  | .signed isSign operand => fun bound => by
      have inner : cursor.deeper.Counts _ _ := operand.counts rfl
      rw [within_sign starts isSign, inner, count_deeper, openings]
      omega

theorem Power.counts {room : Nat} {tokens : List Token} {formula : Formula Span}
    {cursor : Cursor} (starts : cursor.spot = .start) :
    Power room tokens formula → cursor.Counts tokens formula.openings
  | .base derived => derived.counts starts
  | .raised base isPower exponent => fun bound => by
      have inner : cursor.deeper.Counts _ _ := exponent.counts rfl
      rw [within_power starts base isPower, base.counts starts, inner, count_deeper,
        openings_power]
      omega

theorem Postfix.counts {room : Nat} {tokens : List Token} {formula : Formula Span}
    {cursor : Cursor} (starts : cursor.spot = .start) :
    Postfix room tokens formula → cursor.Counts tokens formula.openings
  | .primary derived => derived.counts starts
  | .call head opens items closes => fun bound => by
      have pair := Brackets.of_kinds opens closes ⟨rfl, rfl⟩
      rw [within_suffix starts head (by rw [opens]; rfl) pair items, head.counts starts,
        items.counts cursor.fresh_inside, openings, openings, ← count_in_brackets]
      rw [Int.natCast_zero, Int.add_zero]
  | @Postfix.index _ _ _ _ _ _ indices target opens items closes => fun bound => by
      have brackets := count_in_brackets cursor bound indices
      have pair := Brackets.of_kinds opens closes ⟨rfl, rfl⟩
      rw [within_suffix starts target (by rw [opens]; rfl) pair items, target.counts starts,
        items.counts cursor.fresh_inside, openings]
      constructor
      · rintro ⟨first, inner⟩
        have enclosed := brackets.mp ⟨by omega, inner⟩
        omega
      · intro whole
        have ⟨_, inner⟩ := brackets.mpr (by omega)
        exact ⟨by omega, inner⟩
  | .member target isDot isName => fun bound => by
      rw [within_member starts target isDot isName, target.counts starts, openings]

theorem Primary.counts {room : Nat} {tokens : List Token} {formula : Formula Span}
    {cursor : Cursor} (starts : cursor.spot = .start) :
    Primary room tokens formula → cursor.Counts tokens formula.openings
  | .number isNumber => fun bound => by
      rw [within_cons, step_number starts isNumber, openings, Int.natCast_zero, Int.add_zero]
      exact and_iff_left (within_nil _ _ _)
  | .name isName => fun bound => by
      rw [within_cons, step_name starts isName, openings, Int.natCast_zero, Int.add_zero]
      exact and_iff_left (within_nil _ _ _)
  | .group opens inner closes => fun bound => by
      have pair := Brackets.of_kinds opens closes ⟨rfl, rfl⟩
      rw [within_bracketed (meets_factor_of_start starts _) pair (inner.past cursor.fresh_inside),
        inner.counts cursor.fresh_inside, count_inside, openings]
      omega
  | .array opens items closes => fun bound => by
      have pair := Brackets.of_kinds opens closes ⟨rfl, rfl⟩
      rw [within_bracketed (meets_factor_of_start starts _) pair (items.past cursor.fresh_inside),
        items.counts cursor.fresh_inside, openings, count_in_brackets]
  | .emptyObject opens closes => fun bound => by
      have pair := Brackets.of_kinds opens closes ⟨rfl, rfl⟩
      rw [← List.nil_append [_], within_bracketed (meets_factor_of_start starts _) pair rfl,
        openings, openingsInBraces, Int.natCast_zero, Int.add_zero]
      exact and_iff_left (within_nil _ _ _)
  | .object opens entries closes => fun bound => by
      have pair := Brackets.of_kinds opens closes ⟨rfl, rfl⟩
      rw [within_bracketed (meets_factor_of_start starts _) pair (entries.past cursor.fresh_inside),
        entries.counts cursor.fresh_inside, openings, openings_in_braces_eq, count_in_brackets]

theorem Items.counts {room : Nat} {tokens : List Token} {formulas : List (Formula Span)}
    {cursor : Cursor} (fresh : cursor.Fresh) :
    Items room tokens formulas → cursor.CountsAll tokens formulas
  | .none => fun bound => by simp
  | .some derived => derived.counts fresh

theorem Sequence.counts {room : Nat} {tokens : List Token} {formulas : List (Formula Span)}
    {cursor : Cursor} (fresh : cursor.Fresh) :
    Sequence room tokens formulas → cursor.CountsAll tokens formulas
  | .last derived => fun bound => by
      rw [derived.counts fresh, List.forall_mem_singleton]
  | .more derived isComma others => fun bound => by
      rw [within_joined fresh derived.starts (derived.past fresh) (step_comma isComma),
        derived.counts fresh, others.counts fresh, List.forall_mem_cons]

theorem Entries.counts {room : Nat} {tokens : List Token}
    {entries : List (String × Formula Span)} {cursor : Cursor} (fresh : cursor.Fresh) :
    Entries room tokens entries → cursor.CountsAll tokens (entries.map Prod.snd)
  | .last isName isColon value => fun bound => by
      rw [within_property fresh isName isColon value.starts, value.counts fresh, List.map_singleton,
        List.forall_mem_singleton]
  | .more isName isColon value isComma others => fun bound => by
      rw [within_property fresh isName isColon (StartsOperand.append value.starts _),
        within_joined fresh value.starts (value.past fresh).beside (step_comma isComma),
        value.counts fresh, others.counts fresh, List.map_cons, List.forall_mem_cons]

end

theorem Statement.counts_start {room : Nat} {tokens : List Token} {formula : Formula Span}
    (derived : Statement room tokens formula) (bound : Int) :
    Cursor.start.Within count bound tokens ↔ (formula.openings : Int) ≤ bound := by
  rw [derived.counts fresh_start, Cursor.start, count, Enclosure.nothing, Int.natCast_zero,
    Int.zero_add]

theorem Following.counts {room : Nat} {tokens : List Token} {statements : List (Formula Span)}
    {cursor : Cursor} {bound : Int} (positive : 0 ≤ bound)
    (derived : Following room tokens statements) :
    cursor.Within count bound tokens ↔ (openingsInStatements statements : Int) ≤ bound := by
  induction derived generalizing cursor with
  | none separators => exact iff_of_true (separators.within positive) positive
  | @more separators head tail statement statements all present first others induction =>
      rw [all.within_append_iff (all.past present) (StartsOperand.append first.starts tail),
        within_append, first.counts_start, induction, openingsInStatements]
      omega

/-- The openings around the tokens of a text are those in its tree: no token lies inside more of
them than are nested in each other there. -/
theorem Body.openings_iff {room : Nat} {tokens : List Token} {formula : Formula Span}
    (derived : Body room tokens formula) (bound : Nat) :
    (∀ enclosure ∈ nesting tokens, enclosure.openings ≤ bound) ↔ formula.openings ≤ bound := by
  have counted : Cursor.start.Within count bound tokens ↔
      ∀ enclosure ∈ nesting tokens, enclosure.openings ≤ bound :=
    forall₂_congr fun enclosure _ => Int.ofNat_le
  rw [← counted]
  cases derived with
  | @statement separators tokens _ all first =>
      rw [all.within_append_iff all.past_start first.starts, first.counts_start, Int.ofNat_le]
  | @block separators head tail start last statement statements all first others present
      isFirst isLast =>
      rw [all.within_append_iff all.past_start (StartsOperand.append first.starts tail),
        within_append, first.counts_start, others.counts (Int.natCast_nonneg _), openings,
        openingsInStatements]
      omega

end Grammar

end FormulaPlot
