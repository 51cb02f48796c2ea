import FormulaPlot.Proofs.Formula.Grammar

/-!
Room for nesting only bounds a derivation: what is derived with some room is derived with more.
-/

namespace FormulaPlot.Grammar

open FormulaPlot.Formula

set_option autoImplicit false

theorem room_above {room wide : Nat} (within : room + 1 ≤ wide) :
    ∃ above, wide = above + 1 ∧ room ≤ above := by
  exact ⟨wide - 1, by omega, by omega⟩

mutual

theorem Statement.widen {room wide : Nat} {tokens : List Token} {formula : Formula Span}
    (within : room ≤ wide) : Statement room tokens formula → Statement wide tokens formula
  | .range derived => .range (derived.widen within)
  | .assignment target isTarget isAssign value => by
      obtain ⟨above, rfl, below⟩ := room_above within
      exact .assignment (target.widen within) isTarget isAssign (value.widen below)
  | .definition head symbols isAssign body => by
      obtain ⟨above, rfl, below⟩ := room_above within
      exact .definition (head.widen within) symbols isAssign (body.widen below)

theorem Range.widen {room wide : Nat} {tokens : List Token} {formula : Formula Span}
    (within : room ≤ wide) : Range room tokens formula → Range wide tokens formula
  | .single derived => .single (derived.widen within)
  | .range first isColon last => .range (first.widen within) isColon (last.widen within)
  | .stepped first isColon step isSecond last =>
      .stepped (first.widen within) isColon (step.widen within) isSecond (last.widen within)

theorem Level.widen {room wide level : Nat} {tokens : List Token} {formula : Formula Span}
    (within : room ≤ wide) : Level room level tokens formula → Level wide level tokens formula
  | .operand above derived => .operand above (derived.widen within)
  | .tighter derived => .tighter (derived.widen within)
  | .operation left found right => .operation (left.widen within) found (right.widen within)
  | .product left right factor apart =>
      .product (left.widen within) (right.widen within) factor apart

theorem Operand.widen {room wide : Nat} {tokens : List Token} {formula : Formula Span}
    (within : room ≤ wide) : Operand room tokens formula → Operand wide tokens formula
  | .power derived => by
      obtain ⟨above, rfl, below⟩ := room_above within
      exact .power (derived.widen below)
  | .signed isSign operand => by
      obtain ⟨above, rfl, below⟩ := room_above within
      exact .signed isSign (operand.widen below)

theorem Power.widen {room wide : Nat} {tokens : List Token} {formula : Formula Span}
    (within : room ≤ wide) : Power room tokens formula → Power wide tokens formula
  | .base derived => .base (derived.widen within)
  | .raised base isPower exponent =>
      .raised (base.widen within) isPower (exponent.widen within)

theorem Postfix.widen {room wide : Nat} {tokens : List Token} {formula : Formula Span}
    (within : room ≤ wide) : Postfix room tokens formula → Postfix wide tokens formula
  | .primary derived => .primary (derived.widen within)
  | .call head opens items closes =>
      .call (head.widen within) opens (items.widen within) closes
  | .index target opens items closes =>
      .index (target.widen within) opens (items.widen within) closes
  | .member target isDot isName => .member (target.widen within) isDot isName

theorem Primary.widen {room wide : Nat} {tokens : List Token} {formula : Formula Span}
    (within : room ≤ wide) : Primary room tokens formula → Primary wide tokens formula
  | .number isNumber => .number isNumber
  | .name isName => .name isName
  | .group opens inner closes => .group opens (inner.widen within) closes
  | .array opens items closes => .array opens (items.widen within) closes
  | .emptyObject opens closes => .emptyObject opens closes
  | .object opens entries closes => .object opens (entries.widen within) closes

theorem Items.widen {room wide : Nat} {tokens : List Token} {formulas : List (Formula Span)}
    (within : room ≤ wide) : Items room tokens formulas → Items wide tokens formulas
  | .none => .none
  | .some derived => .some (derived.widen within)

theorem Sequence.widen {room wide : Nat} {tokens : List Token} {formulas : List (Formula Span)}
    (within : room ≤ wide) : Sequence room tokens formulas → Sequence wide tokens formulas
  | .last derived => .last (derived.widen within)
  | .more derived isComma others =>
      .more (derived.widen within) isComma (others.widen within)

theorem Entries.widen {room wide : Nat} {tokens : List Token}
    {entries : List (String × Formula Span)} (within : room ≤ wide) :
    Entries room tokens entries → Entries wide tokens entries
  | .last isName isColon value => .last isName isColon (value.widen within)
  | .more isName isColon value isComma others =>
      .more isName isColon (value.widen within) isComma (others.widen within)

end

theorem Following.widen {room wide : Nat} {tokens : List Token} {statements : List (Formula Span)}
    (within : room ≤ wide) (derived : Following room tokens statements) :
    Following wide tokens statements := by
  induction derived with
  | none separators => exact .none separators
  | more separators present statement others induction =>
      exact .more separators present (statement.widen within) induction

theorem Body.widen {room wide : Nat} {tokens : List Token} {formula : Formula Span}
    (within : room ≤ wide) (derived : Body room tokens formula) : Body wide tokens formula := by
  cases derived with
  | statement separators statement => exact .statement separators (statement.widen within)
  | block separators statement others present first last =>
      exact .block separators (statement.widen within) (others.widen within) present first last

end FormulaPlot.Grammar
