import FormulaPlot.Proofs.Formula.Alike

/-!
Spans of formulas. A formula reaches from its first token to its last one, and when tokens are moved
their formula moves with them.
-/

namespace FormulaPlot

set_option autoImplicit false

def Span.moved (change : Location → Location) (span : Span) : Span :=
  ⟨change span.start, change span.stop⟩

def Token.moved (change : Location → Location) (token : Token) : Token :=
  { token with span := token.span.moved change }

namespace Formula

def moved (change : Location → Location) (formula : Formula Span) : Formula Span :=
  formula.relabel (Span.moved change)

section Moved

variable {label other : Type} (change : label → other)

theorem place_relabel (formula : Formula label) :
    (formula.relabel change).place = change formula.place := by
  cases formula <;> rfl

theorem is_target_relabel (formula : Formula label) :
    (formula.relabel change).isTarget = formula.isTarget := by
  cases formula <;> rfl

theorem symbol_name_relabel (formula : Formula label) :
    (formula.relabel change).symbolName? = formula.symbolName? := by
  cases formula <;> rfl

theorem ends_in_name_relabel (formula : Formula label) :
    (formula.relabel change).endsInName = formula.endsInName := by
  induction formula using parts_induction with
  | step formula induction =>
      cases formula with
      | unary place operator operand => exact induction operand (by simp [children])
      | binary place operator left right => exact induction right (by simp [children])
      | _ => rfl

end Moved

end Formula

namespace Grammar

open FormulaPlot.Formula

/-- From the first of some tokens to the last one. -/
def Spans (tokens : List Token) (span : Span) : Prop :=
  ∃ first last, tokens.head? = some first ∧ tokens.getLast? = some last ∧
    span = first.span.through last.span

theorem spans_token (token : Token) : Spans [token] token.span := ⟨token, token, rfl, rfl, rfl⟩

theorem Spans.around {head tail : List Token} {first last : Span} (starts : Spans head first)
    (middle : List Token) (ends : Spans tail last) :
    Spans (head ++ (middle ++ tail)) (first.through last) := by
  rcases starts with ⟨start, _, isStart, _, rfl⟩
  rcases ends with ⟨_, stop, _, isStop, rfl⟩
  refine ⟨start, stop, ?_, ?_, rfl⟩
  · rw [List.head?_append, isStart]
    rfl
  · rw [List.getLast?_append, List.getLast?_append, isStop]
    rfl

mutual

theorem Statement.spans {room : Nat} {tokens : List Token} {formula : Formula Span} :
    Statement room tokens formula → Spans tokens formula.place
  | .range derived => derived.spans
  | .assignment target _ _ value => target.spans.around [_] value.spans
  | .definition head _ _ body => head.spans.around [_] body.spans

theorem Range.spans {room : Nat} {tokens : List Token} {formula : Formula Span} :
    Range room tokens formula → Spans tokens formula.place
  | .single derived => derived.spans
  | .range first _ last => first.spans.around [_] last.spans
  | @Range.stepped _ _ _ _ colon second _ _ _ first _ step _ last => by
      have whole := first.spans.around [colon] (step.spans.around [second] last.spans)
      exact whole

theorem Level.spans {room level : Nat} {tokens : List Token} {formula : Formula Span} :
    Level room level tokens formula → Spans tokens formula.place
  | .operand _ derived => derived.spans
  | .tighter derived => derived.spans
  | .operation left _ right => left.spans.around [_] right.spans
  | .product left right _ _ => left.spans.around [] right.spans

theorem Operand.spans {room : Nat} {tokens : List Token} {formula : Formula Span} :
    Operand room tokens formula → Spans tokens formula.place
  | .power derived => derived.spans
  | .signed _ operand => (spans_token _).around [] operand.spans

theorem Power.spans {room : Nat} {tokens : List Token} {formula : Formula Span} :
    Power room tokens formula → Spans tokens formula.place
  | .base derived => derived.spans
  | .raised base _ exponent => base.spans.around [_] exponent.spans

theorem Postfix.spans {room : Nat} {tokens : List Token} {formula : Formula Span} :
    Postfix room tokens formula → Spans tokens formula.place
  | .primary derived => derived.spans
  | .call head _ _ _ => head.spans.around (_ :: _) (spans_token _)
  | .index target _ _ _ => target.spans.around (_ :: _) (spans_token _)
  | .member target _ _ => target.spans.around [_] (spans_token _)

theorem Primary.spans {room : Nat} {tokens : List Token} {formula : Formula Span} :
    Primary room tokens formula → Spans tokens formula.place
  | .number _ => spans_token _
  | .name _ => spans_token _
  | .group _ _ _ => (spans_token _).around _ (spans_token _)
  | .array _ _ _ => (spans_token _).around _ (spans_token _)
  | .emptyObject _ _ => (spans_token _).around [] (spans_token _)
  | .object _ _ _ => (spans_token _).around _ (spans_token _)

end

section Moving

variable {change : Location → Location}

theorem moved_through (first last : Span) :
    (first.through last).moved change = (first.moved change).through (last.moved change) := rfl

theorem moved_place (formula : Formula Span) :
    formula.place.moved change = (formula.moved change).place := (place_relabel _ formula).symm

theorem moved_span (token : Token) : token.span.moved change = (token.moved change).span := rfl

theorem is_target_moved {formula : Formula Span} (isTarget : formula.isTarget = true) :
    (formula.moved change).isTarget = true := (is_target_relabel _ formula).trans isTarget

theorem symbol_names_moved {formulas : List (Formula Span)} {names : List (Option String)}
    (symbols : formulas.map symbolName? = names) :
    (formulas.map (relabel (Span.moved change))).map symbolName? = names := by
  rw [← symbols, List.map_map]
  exact List.map_congr_left fun formula _ => symbol_name_relabel _ formula

theorem product_moved {left : Formula Span} {kind : TokenKind}
    (apart : ¬(kind = .leftParenthesis ∧ left.endsInName = true)) :
    ¬(kind = .leftParenthesis ∧ (left.moved change).endsInName = true) := by
  rw [Formula.moved, ends_in_name_relabel]
  exact apart

mutual

theorem Statement.moved {room : Nat} {tokens : List Token} {formula : Formula Span} :
    Statement room tokens formula →
      Statement room (tokens.map (Token.moved change)) (formula.moved change)
  | .range derived => .range derived.moved
  | .assignment target isTarget isAssign value => by
      rw [List.map_append, List.map_cons, Formula.moved, relabel, moved_through, moved_place,
        moved_place]
      exact .assignment target.moved (is_target_moved isTarget) isAssign value.moved
  | .definition head symbols isAssign body => by
      have call := head.moved
      rw [Formula.moved, relabel, relabel_all_eq] at call
      rw [List.map_append, List.map_cons, Formula.moved, relabel, moved_through, moved_place]
      exact .definition call (symbol_names_moved symbols) isAssign body.moved

theorem Range.moved {room : Nat} {tokens : List Token} {formula : Formula Span} :
    Range room tokens formula →
      Range room (tokens.map (Token.moved change)) (formula.moved change)
  | .single derived => .single derived.moved
  | .range first isColon last => by
      rw [List.map_append, List.map_cons, Formula.moved, relabel, moved_through, moved_place,
        moved_place]
      exact .range first.moved isColon last.moved
  | .stepped first isColon step isSecond last => by
      rw [List.map_append, List.map_cons, List.map_append, List.map_cons, Formula.moved, relabel,
        moved_through, moved_place, moved_place]
      exact .stepped first.moved isColon step.moved isSecond last.moved

theorem Level.moved {room level : Nat} {tokens : List Token} {formula : Formula Span} :
    Level room level tokens formula →
      Level room level (tokens.map (Token.moved change)) (formula.moved change)
  | .operand above derived => .operand above derived.moved
  | .tighter derived => .tighter derived.moved
  | .operation left found right => by
      rw [List.map_append, List.map_cons, Formula.moved, relabel, moved_through, moved_place,
        moved_place]
      exact .operation left.moved found right.moved
  | .product left right factor apart => by
      have power := right.moved
      rw [List.map_cons] at power
      rw [List.map_append, List.map_cons, Formula.moved, relabel, moved_through, moved_place,
        moved_place]
      exact .product left.moved power factor (product_moved apart)

theorem Operand.moved {room : Nat} {tokens : List Token} {formula : Formula Span} :
    Operand room tokens formula →
      Operand room (tokens.map (Token.moved change)) (formula.moved change)
  | .power derived => .power derived.moved
  | .signed isSign operand => by
      rw [List.map_cons, Formula.moved, relabel, moved_through, moved_place, moved_span]
      exact .signed isSign operand.moved

theorem Power.moved {room : Nat} {tokens : List Token} {formula : Formula Span} :
    Power room tokens formula →
      Power room (tokens.map (Token.moved change)) (formula.moved change)
  | .base derived => .base derived.moved
  | .raised base isPower exponent => by
      rw [List.map_append, List.map_cons, Formula.moved, relabel, moved_through, moved_place,
        moved_place]
      exact .raised base.moved isPower exponent.moved

theorem Postfix.moved {room : Nat} {tokens : List Token} {formula : Formula Span} :
    Postfix room tokens formula →
      Postfix room (tokens.map (Token.moved change)) (formula.moved change)
  | .primary derived => .primary derived.moved
  | .call head opens items closes => by
      rw [List.map_append, List.map_cons, List.map_append, List.map_singleton, Formula.moved,
        relabel, relabel_all_eq, moved_through, moved_span]
      exact .call head.moved opens items.moved closes
  | .index target opens items closes => by
      rw [List.map_append, List.map_cons, List.map_append, List.map_singleton, Formula.moved,
        relabel, relabel_all_eq, moved_through, moved_place, moved_span]
      exact .index target.moved opens items.moved closes
  | .member target isDot isName => by
      rw [List.map_append, List.map_cons, List.map_singleton, Formula.moved, relabel,
        moved_through, moved_place, moved_span]
      exact .member target.moved isDot isName

theorem Primary.moved {room : Nat} {tokens : List Token} {formula : Formula Span} :
    Primary room tokens formula →
      Primary room (tokens.map (Token.moved change)) (formula.moved change)
  | .number isNumber => .number isNumber
  | .name isName => .name isName
  | .group opens inner closes => by
      rw [List.map_cons, List.map_append, List.map_singleton, Formula.moved, relabel,
        moved_through, moved_span, moved_span]
      exact .group opens inner.moved closes
  | .array opens items closes => by
      rw [List.map_cons, List.map_append, List.map_singleton, Formula.moved, relabel,
        relabel_all_eq, moved_through, moved_span, moved_span]
      exact .array opens items.moved closes
  | .emptyObject opens closes => .emptyObject opens closes
  | .object opens entries closes => by
      rw [List.map_cons, List.map_append, List.map_singleton, Formula.moved, relabel,
        relabel_entries_eq, moved_through, moved_span, moved_span]
      exact .object opens entries.moved closes

theorem Items.moved {room : Nat} {tokens : List Token} {formulas : List (Formula Span)} :
    Items room tokens formulas →
      Items room (tokens.map (Token.moved change)) (formulas.map (Formula.moved change))
  | .none => .none
  | .some derived => .some derived.moved

theorem Sequence.moved {room : Nat} {tokens : List Token} {formulas : List (Formula Span)} :
    Sequence room tokens formulas →
      Sequence room (tokens.map (Token.moved change)) (formulas.map (Formula.moved change))
  | .last derived => .last derived.moved
  | .more derived isComma others => by
      rw [List.map_append, List.map_cons, List.map_cons]
      exact .more derived.moved isComma others.moved

theorem Entries.moved {room : Nat} {tokens : List Token}
    {entries : List (String × Formula Span)} :
    Entries room tokens entries →
      Entries room (tokens.map (Token.moved change))
        (entries.map fun entry => (entry.1, entry.2.moved change))
  | .last isName isColon value => .last isName isColon value.moved
  | .more isName isColon value isComma others => by
      rw [List.map_cons, List.map_cons, List.map_append, List.map_cons, List.map_cons]
      exact .more isName isColon value.moved isComma others.moved

end

theorem separators_moved {tokens : List Token} (separators : Separators tokens) :
    Separators (tokens.map (Token.moved change)) := List.forall_mem_map.mpr separators

theorem Following.moved {room : Nat} {tokens : List Token} {statements : List (Formula Span)}
    (derived : Following room tokens statements) :
    Following room (tokens.map (Token.moved change)) (statements.map (Formula.moved change)) := by
  induction derived with
  | none separators => exact .none (separators_moved separators)
  | more separators present statement others induction =>
      rw [List.map_append, List.map_append, List.map_cons]
      exact .more (separators_moved separators) (mt List.map_eq_nil_iff.mp present)
        statement.moved induction

theorem Body.moved {room : Nat} {tokens : List Token} {formula : Formula Span}
    (derived : Body room tokens formula) :
    Body room (tokens.map (Token.moved change)) (formula.moved change) := by
  cases derived with
  | statement separators statement =>
      rw [List.map_append]
      exact .statement (separators_moved separators) statement.moved
  | block separators statement others present first last =>
      have starts := congrArg (Option.map (Token.moved change)) first
      have ends := congrArg (Option.map (Token.moved change)) last
      rw [← List.head?_map, List.map_append, List.map_append, Option.map_some] at starts
      rw [← List.getLast?_map, List.map_append, List.map_append, Option.map_some] at ends
      rw [List.map_append, List.map_append, Formula.moved, relabel, relabel_all_eq, List.map_cons,
        moved_through, moved_span, moved_span]
      exact .block (separators_moved separators) statement.moved others.moved
        (mt List.map_eq_nil_iff.mp present) starts ends

end Moving

end Grammar

end FormulaPlot
