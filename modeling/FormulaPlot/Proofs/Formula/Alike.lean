import FormulaPlot.Proofs.Formula.Bare
import FormulaPlot.Proofs.Formula.Grammar
import FormulaPlot.Proofs.Formula.Lexemes

/-!
Tokens that mean the same spell the same formulas, places aside.
-/

namespace FormulaPlot

set_option autoImplicit false

theorem kind_of_sense {first second : Token} (same : first.sense = second.sense)
    (plain : first.kind.isPower = false) :
    second.kind = first.kind ∧ second.lexeme = first.lexeme := by
  unfold Token.sense senseOf at same
  rw [if_neg (by simp [plain])] at same
  split at same
  · simp only [Prod.mk.injEq] at same
    rw [same.1] at plain
    simp [TokenKind.isPower] at plain
  · simp only [Prod.mk.injEq] at same
    exact ⟨same.1.symm, same.2.symm⟩

theorem power_of_sense {first second : Token} (same : first.sense = second.sense)
    (isPower : first.kind.isPower = true) : second.kind.isPower = true := by
  cases plain : second.kind.isPower with
  | true => rfl
  | false =>
      have kinds := (kind_of_sense same.symm plain).1
      rw [kinds] at isPower
      simp [plain] at isPower

theorem kind_of_exact_sense {token : Token} {kind : TokenKind} {lexeme : String}
    (same : token.sense = (kind, lexeme)) (plain : kind.isPower = false) : token.kind = kind := by
  unfold Token.sense senseOf at same
  split at same
  · simp only [Prod.mk.injEq] at same
    rw [← same.1] at plain
    simp [TokenKind.isPower] at plain
  · exact congrArg Prod.fst same

/-- A kind that is no power is kept. -/
theorem kind_kept {first second : Token} {kind : TokenKind} (same : first.sense = second.sense)
    (isKind : first.kind = kind) (plain : kind.isPower = false) : second.kind = kind := by
  rw [← isKind] at plain ⊢
  exact (kind_of_sense same plain).1

namespace Formula

variable {label : Type}

theorem ends_in_name_bare (formula : Formula label) :
    formula.bare.endsInName = formula.endsInName := by
  induction formula using parts_induction with
  | step formula induction =>
      cases formula with
      | unary place operator operand => exact induction operand (by simp [children])
      | binary place operator left right => exact induction right (by simp [children])
      | _ => rfl

theorem ends_in_name_of_bare {first second : Formula label} (same : first.bare = second.bare) :
    first.endsInName = second.endsInName := by
  rw [← ends_in_name_bare, same, ends_in_name_bare]

theorem is_target_bare (formula : Formula label) : formula.bare.isTarget = formula.isTarget := by
  cases formula <;> rfl

theorem symbol_name_bare (formula : Formula label) :
    formula.bare.symbolName? = formula.symbolName? := by
  cases formula <;> rfl

theorem symbol_of_bare {formula : Formula label} {place : label} {name : String}
    (same : formula.bare = (symbol place name).bare) : ∃ other, formula = symbol other name := by
  cases formula <;> simp [bare, relabel] at same
  rw [same]
  exact ⟨_, rfl⟩

theorem constant_of_bare {formula : Formula label} {place : label} {value : Float}
    {lexeme : String} (same : formula.bare = (constant place value lexeme).bare) :
    ∃ other, formula = constant other value lexeme := by
  cases formula with
  | constant other value lexeme =>
      rw [constant_bare, constant_bare, constant.injEq] at same
      rw [same.2.1, same.2.2]
      exact ⟨other, rfl⟩
  | _ => simp [bare, relabel] at same

theorem call_of_bare {formula : Formula label} {place : label} {name : String}
    {arguments : List (Formula label)} (same : formula.bare = (call place name arguments).bare) :
    ∃ other parts, formula = call other name parts ∧ parts.map bare = arguments.map bare := by
  cases formula <;> simp [bare, relabel, relabel_all_eq] at same
  rw [same.1]
  exact ⟨_, _, rfl, same.2⟩

theorem symbol_names_of_bare {first second : List (Formula label)}
    (same : first.map bare = second.map bare) : first.map symbolName? = second.map symbolName? := by
  have names := congrArg (List.map symbolName?) same
  simpa [symbol_name_bare, Function.comp_def] using names

end Formula

namespace Grammar

open FormulaPlot.Formula

def Alike (tokens others : List Token) : Prop :=
  tokens.map Token.sense = others.map Token.sense

theorem alike_append {head tail others : List Token} (same : Alike (head ++ tail) others) :
    ∃ start rest, others = start ++ rest ∧ Alike head start ∧ Alike tail rest := by
  unfold Alike at same
  rw [List.map_append] at same
  obtain ⟨start, rest, rfl, heads, tails⟩ := List.map_eq_append_iff.mp same.symm
  exact ⟨start, rest, rfl, heads.symm, tails.symm⟩

theorem alike_cons {first : Token} {rest others : List Token}
    (same : Alike (first :: rest) others) :
    ∃ next more, others = next :: more ∧ first.sense = next.sense ∧ Alike rest more := by
  unfold Alike at same
  rw [List.map_cons] at same
  obtain ⟨next, more, rfl, heads, tails⟩ := List.map_eq_cons_iff.mp same.symm
  exact ⟨next, more, rfl, heads.symm, tails.symm⟩

theorem map_eq_around {tokens : List Token} {head tail : List Sense} {sense : Sense}
    (same : tokens.map Token.sense = head ++ sense :: tail) :
    ∃ start mark rest, tokens = start ++ mark :: rest ∧ start.map Token.sense = head ∧
      mark.sense = sense ∧ rest.map Token.sense = tail := by
  obtain ⟨start, behind, rfl, heads, behinds⟩ := List.map_eq_append_iff.mp same
  obtain ⟨mark, rest, rfl, marks, tails⟩ := List.map_eq_cons_iff.mp behinds
  exact ⟨start, mark, rest, rfl, heads, marks, tails⟩

/-- Tokens with a sign between them. -/
theorem alike_around {head tail others : List Token} {sign : Token}
    (same : Alike (head ++ sign :: tail) others) :
    ∃ start mark rest, others = start ++ mark :: rest ∧ Alike head start ∧
      sign.sense = mark.sense ∧ Alike tail rest := by
  unfold Alike at same
  rw [List.map_append, List.map_cons] at same
  obtain ⟨start, mark, rest, parted, heads, marks, tails⟩ := map_eq_around same.symm
  exact ⟨start, mark, rest, parted, heads.symm, marks.symm, tails.symm⟩

/-- Tokens between brackets. -/
theorem alike_within {opening closing : Token} {tokens others : List Token}
    (same : Alike (opening :: (tokens ++ [closing])) others) :
    ∃ first inner last, others = first :: (inner ++ [last]) ∧ opening.sense = first.sense ∧
      Alike tokens inner ∧ closing.sense = last.sense := by
  obtain ⟨first, behind, rfl, opens, behindSame⟩ := alike_cons same
  obtain ⟨inner, last, rest, rfl, inners, closes, nothing⟩ := alike_around behindSame
  have empty : rest = [] := List.map_eq_nil_iff.mp nothing.symm
  rw [empty]
  exact ⟨first, inner, last, rfl, opens, inners, closes⟩

theorem starts_factor_kept {first second : Token} (same : first.sense = second.sense)
    (factor : startsFactor first.kind = true) : second.kind = first.kind := by
  have plain : first.kind.isPower = false := by
    cases kind : first.kind <;> simp [kind, startsFactor] at factor <;> rfl
  exact (kind_of_sense same plain).1

theorem sign_kept {first second : Token} (same : first.sense = second.sense)
    (isSign : first.kind.isSign = true) : second.kind = first.kind := by
  have plain : first.kind.isPower = false := by
    cases kind : first.kind <;> simp [kind, TokenKind.isSign] at isSign <;> rfl
  exact (kind_of_sense same plain).1

theorem operator_kept {first second : Token} {precedence : Nat} (same : first.sense = second.sense)
    (found : precedence? first.kind = some precedence) : second.kind = first.kind := by
  have plain : first.kind.isPower = false := by
    cases kind : first.kind <;> simp [kind, precedence?] at found <;> rfl
  exact (kind_of_sense same plain).1

theorem lexeme_kept {first second : Token} {kind : TokenKind} (same : first.sense = second.sense)
    (isKind : first.kind = kind) (plain : kind.isPower = false) :
    second.lexeme = first.lexeme := by
  rw [← isKind] at plain
  exact (kind_of_sense same plain).2

mutual

theorem Statement.alike {room : Nat} {tokens others : List Token} {formula : Formula Span} :
    Statement room tokens formula → Alike tokens others →
      ∃ another, Statement room others another ∧ another.bare = formula.bare
  | .range derived, same => by
      obtain ⟨another, again, equal⟩ := derived.alike same
      exact ⟨another, .range again, equal⟩
  | .assignment target isTarget isAssign value, same => by
      obtain ⟨start, mark, rest, rfl, heads, marks, tails⟩ := alike_around same
      obtain ⟨newTarget, targetAgain, targets⟩ := target.alike heads
      obtain ⟨newValue, valueAgain, values⟩ := value.alike tails
      have isTarget : newTarget.isTarget = true := by
        rw [← is_target_bare, targets, is_target_bare, isTarget]
      exact ⟨_, .assignment targetAgain isTarget (kind_kept marks isAssign rfl) valueAgain,
        by simp [targets, values]⟩
  | .definition head symbols isAssign body, same => by
      obtain ⟨start, mark, rest, rfl, heads, marks, tails⟩ := alike_around same
      obtain ⟨newHead, headAgain, calls⟩ := head.alike heads
      obtain ⟨newBody, bodyAgain, bodies⟩ := body.alike tails
      obtain ⟨place, arguments, rfl, sameArguments⟩ := call_of_bare calls
      have names := (symbol_names_of_bare sameArguments).trans symbols
      exact ⟨_, .definition headAgain names (kind_kept marks isAssign rfl) bodyAgain,
        by simp [bodies]⟩

theorem Range.alike {room : Nat} {tokens others : List Token} {formula : Formula Span} :
    Range room tokens formula → Alike tokens others →
      ∃ another, Range room others another ∧ another.bare = formula.bare
  | .single derived, same => by
      obtain ⟨another, again, equal⟩ := derived.alike same
      exact ⟨another, .single again, equal⟩
  | .range first isColon last, same => by
      obtain ⟨start, mark, rest, rfl, heads, marks, tails⟩ := alike_around same
      obtain ⟨newFirst, firstAgain, firsts⟩ := first.alike heads
      obtain ⟨newLast, lastAgain, lasts⟩ := last.alike tails
      exact ⟨_, .range firstAgain (kind_kept marks isColon rfl) lastAgain,
        by simp [firsts, lasts]⟩
  | .stepped first isColon step isSecond last, same => by
      obtain ⟨start, mark, rest, rfl, heads, marks, behind⟩ := alike_around same
      obtain ⟨middle, second, tail, rfl, middles, seconds, tails⟩ := alike_around behind
      obtain ⟨newFirst, firstAgain, firsts⟩ := first.alike heads
      obtain ⟨newStep, stepAgain, steps⟩ := step.alike middles
      obtain ⟨newLast, lastAgain, lasts⟩ := last.alike tails
      exact ⟨_, .stepped firstAgain (kind_kept marks isColon rfl) stepAgain
        (kind_kept seconds isSecond rfl) lastAgain, by simp [firsts, lasts, steps]⟩

theorem Level.alike {room level : Nat} {tokens others : List Token} {formula : Formula Span} :
    Level room level tokens formula → Alike tokens others →
      ∃ another, Level room level others another ∧ another.bare = formula.bare
  | .operand above derived, same => by
      obtain ⟨another, again, equal⟩ := derived.alike same
      exact ⟨another, .operand above again, equal⟩
  | .tighter derived, same => by
      obtain ⟨another, again, equal⟩ := derived.alike same
      exact ⟨another, .tighter again, equal⟩
  | .operation left found right, same => by
      obtain ⟨start, mark, rest, rfl, heads, marks, tails⟩ := alike_around same
      obtain ⟨newLeft, leftAgain, lefts⟩ := left.alike heads
      obtain ⟨newRight, rightAgain, rights⟩ := right.alike tails
      have kinds := operator_kept marks found
      rw [← kinds] at found ⊢
      exact ⟨_, .operation leftAgain found rightAgain,
        by simp [lefts, rights]⟩
  | .product left right factor apart, same => by
      obtain ⟨start, behind, rfl, heads, behindSame⟩ := alike_append same
      obtain ⟨newLeft, leftAgain, lefts⟩ := left.alike heads
      obtain ⟨newRight, rightAgain, rights⟩ := right.alike behindSame
      obtain ⟨next, more, rfl, firsts, _⟩ := alike_cons behindSame
      have kinds := starts_factor_kept firsts factor
      rw [← kinds] at factor apart
      rw [← ends_in_name_of_bare lefts] at apart
      exact ⟨_, .product leftAgain rightAgain factor apart,
        by simp [lefts, rights]⟩

theorem Operand.alike {room : Nat} {tokens others : List Token} {formula : Formula Span} :
    Operand room tokens formula → Alike tokens others →
      ∃ another, Operand room others another ∧ another.bare = formula.bare
  | .power derived, same => by
      obtain ⟨another, again, equal⟩ := derived.alike same
      exact ⟨another, .power again, equal⟩
  | .signed isSign operand, same => by
      obtain ⟨next, more, rfl, signs, rests⟩ := alike_cons same
      obtain ⟨newOperand, operandAgain, operands⟩ := operand.alike rests
      have kinds := sign_kept signs isSign
      rw [← kinds] at isSign ⊢
      exact ⟨_, .signed isSign operandAgain, by simp [operands]⟩

theorem Power.alike {room : Nat} {tokens others : List Token} {formula : Formula Span} :
    Power room tokens formula → Alike tokens others →
      ∃ another, Power room others another ∧ another.bare = formula.bare
  | .base derived, same => by
      obtain ⟨another, again, equal⟩ := derived.alike same
      exact ⟨another, .base again, equal⟩
  | .raised base isPower exponent, same => by
      obtain ⟨start, mark, rest, rfl, heads, marks, tails⟩ := alike_around same
      obtain ⟨newBase, baseAgain, bases⟩ := base.alike heads
      obtain ⟨newExponent, exponentAgain, exponents⟩ := exponent.alike tails
      exact ⟨_, .raised baseAgain (power_of_sense marks isPower) exponentAgain,
        by simp [bases, exponents]⟩

theorem Postfix.alike {room : Nat} {tokens others : List Token} {formula : Formula Span} :
    Postfix room tokens formula → Alike tokens others →
      ∃ another, Postfix room others another ∧ another.bare = formula.bare
  | .primary derived, same => by
      obtain ⟨another, again, equal⟩ := derived.alike same
      exact ⟨another, .primary again, equal⟩
  | .call head opens items closes, same => by
      obtain ⟨start, behind, rfl, heads, behindSame⟩ := alike_append same
      obtain ⟨first, inner, last, rfl, openings, inners, closings⟩ := alike_within behindSame
      obtain ⟨newHead, headAgain, symbols⟩ := head.alike heads
      obtain ⟨arguments, itemsAgain, parts⟩ := items.alike inners
      obtain ⟨place, rfl⟩ := symbol_of_bare symbols
      refine ⟨_, .call headAgain (kind_kept openings opens rfl) itemsAgain
        (kind_kept closings closes rfl), ?_⟩
      simp [parts]
  | .index target opens items closes, same => by
      obtain ⟨start, behind, rfl, heads, behindSame⟩ := alike_append same
      obtain ⟨first, inner, last, rfl, openings, inners, closings⟩ := alike_within behindSame
      obtain ⟨newTarget, targetAgain, targets⟩ := target.alike heads
      obtain ⟨indices, itemsAgain, parts⟩ := items.alike inners
      refine ⟨_, .index targetAgain (kind_kept openings opens rfl) itemsAgain
        (kind_kept closings closes rfl), ?_⟩
      simp [targets, parts]
  | .member target isDot isName, same => by
      obtain ⟨start, mark, rest, rfl, heads, marks, tails⟩ := alike_around same
      obtain ⟨name, nothing, rfl, names, empty⟩ := alike_cons tails
      obtain ⟨newTarget, targetAgain, targets⟩ := target.alike heads
      rw [List.map_eq_nil_iff.mp empty.symm]
      refine ⟨_, .member targetAgain (kind_kept marks isDot rfl) (kind_kept names isName rfl), ?_⟩
      rw [lexeme_kept names isName rfl]
      simp [targets]

theorem Primary.alike {room : Nat} {tokens others : List Token} {formula : Formula Span} :
    Primary room tokens formula → Alike tokens others →
      ∃ another, Primary room others another ∧ another.bare = formula.bare
  | .number isNumber, same => by
      obtain ⟨next, nothing, rfl, tokens, empty⟩ := alike_cons same
      rw [List.map_eq_nil_iff.mp empty.symm]
      have lexemes := lexeme_kept tokens isNumber rfl
      refine ⟨_, .number (kind_kept tokens isNumber rfl), ?_⟩
      simp [Token.number, lexemes]
  | .name isName, same => by
      obtain ⟨next, nothing, rfl, tokens, empty⟩ := alike_cons same
      rw [List.map_eq_nil_iff.mp empty.symm]
      have lexemes := lexeme_kept tokens isName rfl
      refine ⟨_, .name (kind_kept tokens isName rfl), ?_⟩
      simp [lexemes]
  | .group opens inner closes, same => by
      obtain ⟨first, middle, last, rfl, openings, inners, closings⟩ := alike_within same
      obtain ⟨another, again, equal⟩ := inner.alike inners
      exact ⟨_, .group (kind_kept openings opens rfl) again (kind_kept closings closes rfl),
        by simp [equal]⟩
  | .array opens items closes, same => by
      obtain ⟨first, middle, last, rfl, openings, inners, closings⟩ := alike_within same
      obtain ⟨elements, again, parts⟩ := items.alike inners
      refine ⟨_, .array (kind_kept openings opens rfl) again (kind_kept closings closes rfl), ?_⟩
      simp [parts]
  | .emptyObject opens closes, same => by
      obtain ⟨first, behind, rfl, openings, behindSame⟩ := alike_cons same
      obtain ⟨last, nothing, rfl, closings, empty⟩ := alike_cons behindSame
      rw [List.map_eq_nil_iff.mp empty.symm]
      exact ⟨_, .emptyObject (kind_kept openings opens rfl) (kind_kept closings closes rfl), rfl⟩
  | .object opens entries closes, same => by
      obtain ⟨first, middle, last, rfl, openings, inners, closings⟩ := alike_within same
      obtain ⟨properties, again, parts⟩ := entries.alike inners
      refine ⟨_, .object (kind_kept openings opens rfl) again (kind_kept closings closes rfl), ?_⟩
      simp [parts]

theorem Items.alike {room : Nat} {tokens others : List Token} {formulas : List (Formula Span)} :
    Items room tokens formulas → Alike tokens others →
      ∃ list, Items room others list ∧ list.map bare = formulas.map bare
  | .none, same => by
      rw [List.map_eq_nil_iff.mp (same.symm : others.map Token.sense = [])]
      exact ⟨[], .none, rfl⟩
  | .some derived, same => by
      obtain ⟨list, again, equal⟩ := derived.alike same
      exact ⟨list, .some again, equal⟩

theorem Sequence.alike {room : Nat} {tokens others : List Token}
    {formulas : List (Formula Span)} :
    Sequence room tokens formulas → Alike tokens others →
      ∃ list, Sequence room others list ∧ list.map bare = formulas.map bare
  | .last derived, same => by
      obtain ⟨another, again, equal⟩ := derived.alike same
      exact ⟨[another], .last again, by simp [equal]⟩
  | .more derived isComma rest, same => by
      obtain ⟨start, mark, behind, rfl, heads, marks, tails⟩ := alike_around same
      obtain ⟨another, again, equal⟩ := derived.alike heads
      obtain ⟨list, restAgain, equals⟩ := rest.alike tails
      exact ⟨another :: list, .more again (kind_kept marks isComma rfl) restAgain,
        by simp [equal, equals]⟩

theorem Entries.alike {room : Nat} {tokens others : List Token}
    {entries : List (String × Formula Span)} :
    Entries room tokens entries → Alike tokens others →
      ∃ list, Entries room others list ∧
        list.map (fun entry => (entry.1, entry.2.bare)) =
          entries.map fun entry => (entry.1, entry.2.bare)
  | .last isName isColon value, same => by
      obtain ⟨key, behind, rfl, keys, behindSame⟩ := alike_cons same
      obtain ⟨colon, rest, rfl, colons, tails⟩ := alike_cons behindSame
      obtain ⟨another, again, equal⟩ := value.alike tails
      refine ⟨_, .last (kind_kept keys isName rfl) (kind_kept colons isColon rfl) again, ?_⟩
      simp [equal, lexeme_kept keys isName rfl]
  | .more isName isColon value isComma rest, same => by
      obtain ⟨key, behind, rfl, keys, behindSame⟩ := alike_cons same
      obtain ⟨colon, valueAndRest, rfl, colons, tails⟩ := alike_cons behindSame
      obtain ⟨start, mark, last, rfl, heads, marks, lasts⟩ := alike_around tails
      obtain ⟨another, again, equal⟩ := value.alike heads
      obtain ⟨list, restAgain, equals⟩ := rest.alike lasts
      refine ⟨_, .more (kind_kept keys isName rfl) (kind_kept colons isColon rfl) again
        (kind_kept marks isComma rfl) restAgain, ?_⟩
      simp [equal, equals, lexeme_kept keys isName rfl]

end

theorem separators_alike {tokens others : List Token} (separators : Separators tokens)
    (same : Alike tokens others) : Separators others := by
  induction tokens generalizing others with
  | nil =>
      rw [List.map_eq_nil_iff.mp (same.symm : others.map Token.sense = [])]
      exact separators
  | cons first rest induction =>
      obtain ⟨next, more, rfl, firsts, rests⟩ := alike_cons same
      have separates := separators first List.mem_cons_self
      have plain : first.kind.isPower = false := by
        cases kind : first.kind <;> simp [kind, TokenKind.isSeparator] at separates <;> rfl
      have others := induction (fun token member => separators token (.tail _ member)) rests
      intro token member
      rcases List.mem_cons.mp member with rfl | behind
      · rw [(kind_of_sense firsts plain).1]
        exact separates
      · exact others token behind

theorem nonempty_alike {tokens others : List Token} (present : tokens ≠ [])
    (same : Alike tokens others) : others ≠ [] := by
  rintro rfl
  exact present (List.map_eq_nil_iff.mp same)

theorem Following.alike {room : Nat} {tokens others : List Token}
    {statements : List (Formula Span)} (derived : Following room tokens statements)
    (same : Alike tokens others) :
    ∃ list, Following room others list ∧ list.map bare = statements.map bare := by
  induction derived generalizing others with
  | none separators => exact ⟨[], .none (separators_alike separators same), rfl⟩
  | more separators present first behind induction =>
      obtain ⟨gap, rest, rfl, gaps, rests⟩ := alike_append same
      obtain ⟨start, tail, rfl, heads, tails⟩ := alike_append rests
      obtain ⟨another, again, equal⟩ := first.alike heads
      obtain ⟨list, restAgain, equals⟩ := induction tails
      exact ⟨another :: list, .more (separators_alike separators gaps)
        (nonempty_alike present gaps) again restAgain, by simp [equal, equals]⟩

theorem Body.alike {room : Nat} {tokens others : List Token} {formula : Formula Span}
    (derived : Body room tokens formula) (same : Alike tokens others) :
    ∃ another, Body room others another ∧ another.bare = formula.bare := by
  cases derived with
  | statement separators first =>
      obtain ⟨gap, rest, rfl, gaps, rests⟩ := alike_append same
      obtain ⟨another, again, equal⟩ := first.alike rests
      exact ⟨another, .statement (separators_alike separators gaps) again, equal⟩
  | block separators first behind present isFirst isLast =>
      obtain ⟨gap, rest, rfl, gaps, rests⟩ := alike_append same
      obtain ⟨start, tail, rfl, heads, tails⟩ := alike_append rests
      obtain ⟨another, again, equal⟩ := first.alike heads
      obtain ⟨list, restAgain, equals⟩ := behind.alike tails
      have given := nonempty_alike present tails
      have nonempty : gap ++ (start ++ tail) ≠ [] := by simp [given]
      exact ⟨_, .block (separators_alike separators gaps) again restAgain given
        (List.head?_eq_some_head nonempty) (List.getLast?_eq_some_getLast nonempty),
        by simp [equal, equals]⟩

end Grammar

end FormulaPlot
