import FormulaPlot.Proofs.Formula.Marks
import Mathlib.Data.List.Forall2

/-!
What a typeset formula shows is the formula itself: its marks are the senses of one tree only, and
that is the formula without its groups. Parentheses that a fraction bar, an exponent or the brackets
of a call replace are not missed.
-/

namespace FormulaPlot.Typesetting

open FormulaPlot.Formula FormulaPlot.Grammar FormulaPlot.Scanning

set_option autoImplicit false

/-- A node in brackets is put back as what the brackets mean, its parts being put back already. -/
def decodeNode : Formula Unit → Formula Unit
  | .array _ [inner] => inner
  | .index _ (.symbol _ name) arguments => .call () name arguments
  | .index _ (.call _ name [first]) [second] =>
      if name = "frac" then .binary () .slash first second else .call () "log" [second, first]
  | node => node

/-- Decimal logarithms are logarithms with the base 10. -/
def normalNode : Formula Unit → Formula Unit
  | .call _ name [argument] =>
      if name = "log10" then .call () "log" [argument, .constant () 10.0 "10"]
      else .call () name [argument]
  | node => node

/-- The text shows senses that yield the tree. -/
def Previews (layer : Nat) (text : String) (tree : Formula Unit) : Prop :=
  ∃ senses, Shows text senses ∧ Yields decodeNode layer senses tree

def PreviewsAll (text : String) (trees : List (Formula Unit)) : Prop :=
  ∃ senses, Shows text senses ∧ YieldsAll decodeNode senses trees

variable {first second text name mark : String} {tree another : Formula Unit}
  {senses : List Sense} {trees : List (Formula Unit)}

theorem Previews.looser {layer higher : Nat} (previews : Previews higher text tree)
    (within : layer ≤ higher) (most : higher ≤ primaryLayer) : Previews layer text tree := by
  have ⟨senses, shows, yields⟩ := previews
  exact ⟨senses, shows, yields.looser within most⟩

theorem Previews.one (previews : Previews 0 text tree) : PreviewsAll text [tree] := by
  have ⟨senses, shows, yields⟩ := previews
  exact ⟨senses, shows, yields.one⟩

theorem previews_number {lexeme : String} (numeral : IsNumeral lexeme) :
    Previews primaryLayer lexeme (.constant () (numeralValue lexeme) lexeme) :=
  ⟨_, shows_number numeral, yields_number lexeme⟩

theorem previews_symbol (allowed : name ∈ implicitSymbols) :
    Previews primaryLayer (symbol name) (.symbol () name) := by
  have known : ∀ name ∈ implicitSymbols, (symbol name, [identifier name]) ∈ marks := by
    decide +kernel
  exact ⟨_, shows_mark (known name allowed), yields_name name⟩

/-- A text in brackets of some kind. -/
structure Bracketed (text : String) (trees : List (Formula Unit)) : Prop where
  stops : Stops text
  shows : ∃ senses, Shows text (bracketSense :: (senses ++ [endBracketSense])) ∧
    YieldsAll decodeNode senses trees

theorem Previews.braced (previews : Previews 0 text tree) : Bracketed (braced text) [tree] := by
  have ⟨senses, shows, yields⟩ := previews
  have opens : ("\x7b", [bracketSense]) ∈ marks := by simp [marks]
  have closes : ("\x7d", [endBracketSense]) ∈ marks := by simp [marks]
  have stops := (mark_stops _ opens (by decide)).append text
  exact ⟨stops.append _, senses, shows.within opens closes (by decide), yields.one⟩

theorem PreviewsAll.parenthesized (previews : PreviewsAll text trees) :
    Bracketed (parenthesized text) trees := by
  have ⟨senses, shows, yields⟩ := previews
  have opens : ("\\left(", [bracketSense]) ∈ marks := by simp [marks]
  have closes : ("\\right)", [endBracketSense]) ∈ marks := by simp [marks]
  have stops := (mark_stops _ opens (by decide)).append text
  exact ⟨stops.append _, senses, shows.within opens closes (by decide), yields⟩

/-- Brackets that only keep a formula together. -/
theorem Bracketed.alone (bracketed : Bracketed text [tree]) : Previews primaryLayer text tree := by
  have ⟨senses, shows, items⟩ := bracketed.shows
  exact ⟨_, shows, items.array⟩

theorem Bracketed.call (bracketed : Bracketed text trees)
    (known : (mark, [identifier name]) ∈ marks) :
    Previews primaryLayer (mark ++ text) (.call () name trees) := by
  have ⟨senses, shows, items⟩ := bracketed.shows
  have head : Yields decodeNode primaryLayer [identifier name] (.symbol () name) :=
    yields_name name
  exact ⟨_, shows.behind known, head.index items⟩

theorem Bracketed.both (opening : Bracketed first [tree]) (behind : Bracketed second [another])
    (known : (mark, [identifier name]) ∈ marks) :
    Previews primaryLayer (mark ++ first ++ second)
      (decodeNode (.index () (.call () name [tree]) [another])) := by
  have ⟨_, shows, yields⟩ := opening.call known
  have ⟨senses, showsBehind, items⟩ := behind.shows
  exact ⟨_, shows.append showsBehind behind.stops, yields.index items⟩

theorem absolute_previews (previews : Previews 0 text tree) :
    Previews primaryLayer ("\\left|" ++ text ++ "\\right|") (.call () "abs" [tree]) := by
  have ⟨senses, shows, yields⟩ := previews
  have opens : ("\\left|", [identifier "abs", bracketSense]) ∈ marks := by simp [marks]
  have closes : ("\\right|", [endBracketSense]) ∈ marks := by simp [marks]
  have head : Yields decodeNode primaryLayer [identifier "abs"] (.symbol () "abs") :=
    yields_name "abs"
  exact ⟨_, shows.within opens closes (by decide), head.index yields.one⟩

theorem function_mark {function : ElementaryFunction} :
    (functionName function.name, [identifier function.name]) ∈ marks := by
  apply List.mem_append_right
  have member : function ∈ ElementaryFunction.all := by cases function <;> decide
  exact List.mem_map_of_mem member

/-- Arguments between commas. -/
theorem previews_all {texts : List String} (each : List.Forall₂ (Previews 0) texts trees) :
    PreviewsAll (String.intercalate "," texts) trees := by
  have comma : (",", [commaSense]) ∈ marks := by simp [marks]
  induction each with
  | nil =>
      rw [String.intercalate_nil]
      exact ⟨[], shows_nothing, yields_none⟩
  | @cons text tree texts trees previews rest induction =>
      cases rest with
      | nil =>
          rw [String.intercalate_singleton]
          exact previews.one
      | cons =>
          have ⟨senses, shows, yields⟩ := previews
          have ⟨others, showsBehind, items⟩ := induction
          rw [String.intercalate_cons_cons, String.append_assoc]
          have stops := (mark_stops _ comma (by decide)).append
          exact ⟨_, shows.append (showsBehind.behind comma) (stops _), yields.cons items⟩

theorem call_previews {texts : List String} (each : List.Forall₂ (Previews 0) texts trees)
    (known : (ElementaryFunction.ofName? name).isSome = true) :
    Previews primaryLayer (call name texts) (normalNode (.call () name trees)) := by
  have based : ("\\log_", [identifier "log_"]) ∈ marks := by simp [marks]
  unfold call
  split
  next argument =>
    have .cons previews .nil := each
    have root : ("\\sqrt", [identifier "sqrt"]) ∈ marks := by simp [marks]
    exact previews.braced.call root
  next argument =>
    have .cons previews .nil := each
    exact absolute_previews previews
  next argument =>
    have .cons previews .nil := each
    have natural : ("\\ln", [identifier "log"]) ∈ marks := by simp [marks]
    exact previews.one.parenthesized.call natural
  next argument base =>
    have .cons previews (.cons previewsBase .nil) := each
    exact previewsBase.braced.both previews.one.parenthesized based
  next argument =>
    have .cons previews .nil := each
    have ten : Previews 0 "10" (.constant () 10.0 "10") :=
      (previews_number (show IsNumeral "10" from ⟨_, _, rfl, rfl⟩)).looser (Nat.zero_le _)
        (Nat.le_refl _)
    exact ten.braced.both previews.one.parenthesized based
  next noRoot noAbsolute noNatural noBased noDecimal =>
    have ⟨function, named⟩ := ElementaryFunction.exists_of_name known
    have whole := (previews_all each).parenthesized.call (@function_mark function)
    have kept : normalNode (.call () name trees) = .call () name trees := by
      cases each with
      | nil => rfl
      | cons previews rest =>
          cases rest with
          | nil => exact if_neg fun decimal => noDecimal _ decimal rfl
          | cons => rfl
    rw [named] at whole
    rw [kept]
    exact whole

/-- Shown where the place of a formula asks for it, or anywhere between brackets. -/
def placed (bared : Bool) (layer : Nat) : Nat := if bared then 0 else layer

theorem Previews.placed {layer : Nat} (previews : Previews layer text tree)
    (most : layer ≤ primaryLayer) (bared : Bool) :
    Previews (placed bared layer) text tree := by
  cases bared with
  | true => exact previews.looser (Nat.zero_le _) most
  | false => exact previews

theorem fraction_previews (above : Previews 0 first tree) (below : Previews 0 second another) :
    Previews primaryLayer ("\\frac" ++ Typesetting.braced first ++ Typesetting.braced second)
      (.binary () .slash tree another) := by
  have fraction : ("\\frac", [identifier "frac"]) ∈ marks := by simp [marks]
  exact above.braced.both below.braced fraction

theorem power_previews {layer : Nat} (base : Previews layer first tree)
    (most : layer ≤ primaryLayer) (exponent : Previews 0 second another) :
    Previews powerLayer (Typesetting.braced first ++ "^" ++ Typesetting.braced second)
      (.binary () .caret tree another) := by
  have raises : ("^", [powerSense]) ∈ marks := by simp [marks]
  have ⟨_, shows, yields⟩ := (base.looser (Nat.zero_le _) most).braced.alone
  have ⟨_, showsBehind, yieldsBehind⟩ :=
    exponent.braced.alone.looser (show signLayer ≤ primaryLayer by decide) (Nat.le_refl _)
  have stops := (mark_stops _ raises (by decide)).append (Typesetting.braced second)
  rw [String.append_assoc]
  exact ⟨_, shows.append (showsBehind.behind raises) stops, yields.power yieldsBehind⟩

theorem signed_previews {operator : TokenKind} {layer : Nat} (previews : Previews layer text tree)
    (tight : signLayer ≤ layer) (most : layer ≤ primaryLayer) (isSign : operator.isSign = true) :
    Previews signLayer ((if operator = .minus then "-" else "+") ++ text)
      (.unary () operator tree) := by
  have ⟨_, shows, yields⟩ := previews.looser tight most
  simp only [TokenKind.isSign, Bool.or_eq_true, beq_iff_eq] at isSign
  rcases isSign with rfl | rfl
  · have known : ("-", [minusSense]) ∈ marks := by simp [marks]
    exact ⟨_, shows.behind known, yields.signed _ rfl⟩
  · have known : ("+", [(.plus, "+")]) ∈ marks := by simp [marks]
    exact ⟨_, shows.behind known, yields.signed _ rfl⟩

theorem operation_previews {operator : TokenKind} {precedence : Nat} {sign : String}
    {left right : Nat} (before : Previews left first tree) (behind : Previews right second another)
    (most : left ≤ primaryLayer) (mostRight : right ≤ primaryLayer)
    (found : precedence? operator = some precedence) (within : precedence ≤ left)
    (above : precedence < right) (signed : infixSign? operator = some sign)
    (arithmetic : operator.isArithmetic = true) :
    Previews precedence (first ++ sign ++ second) (.binary () operator tree another) := by
  have ⟨mark, known, noName⟩ : ∃ lexeme, (sign, [(operator, lexeme)]) ∈ marks ∧ sign ≠ "e" := by
    cases operator with
    | plus =>
        rw [← Option.some.inj signed]
        exact ⟨"+", by simp [marks], by decide⟩
    | minus =>
        rw [← Option.some.inj signed]
        exact ⟨"-", by simp [marks, minusSense], by decide⟩
    | star =>
        rw [← Option.some.inj signed]
        exact ⟨"*", by simp [marks], by decide⟩
    | percent =>
        rw [← Option.some.inj signed]
        exact ⟨"%", by simp [marks], by decide⟩
    | _ => contradiction
  have ⟨senses, shows, yields⟩ := before.looser within most
  have ⟨others, showsBehind, yieldsBehind⟩ := behind.looser above mostRight
  have stops := (mark_stops _ known noName).append second
  rw [String.append_assoc]
  exact ⟨_, shows.append (showsBehind.behind known) stops, yields.operation mark found yieldsBehind⟩

/-- Shown by its typeset text, whether or not that leaves out the parentheses of a group. -/
def Previewed {label : Type} (formula : Formula label) : Prop :=
  ∀ bared text, formula.typesetWith bared = .ok text →
    Previews (placed bared formula.layer) text (formula.rebuild normalNode)

theorem previews_arguments {label : Type} {formulas : List (Formula label)} {texts : List String}
    (each : ∀ formula ∈ formulas, Previewed formula)
    (typeset : typesetAll formulas = .ok texts) :
    List.Forall₂ (Previews 0) texts (rebuildAll normalNode formulas) := by
  induction formulas generalizing texts with
  | nil =>
      rw [← Except.ok.inj typeset]
      exact .nil
  | cons formula rest induction =>
      rw [List.forall_mem_cons] at each
      rw [typesetAll] at typeset
      split at typeset
      next => contradiction
      next text typesetFirst =>
        obtain ⟨behind, typesetRest, whole⟩ := map_eq_ok_iff.mp typeset
        rw [← whole]
        exact .cons (each.1 true text typesetFirst) (induction each.2 typesetRest)

/-- A fraction and a power leave out parentheses around their parts, everything else keeps them. -/
theorem binary_previewed {label : Type} {place : label} {operator : TokenKind}
    {left right : Formula label} (atLeft : Previewed left) (atRight : Previewed right)
    (root : (Formula.binary place operator left right).WellPlaced)
    (arithmetic : operator.isArithmetic = true) :
    Previewed (.binary place operator left right) := by
  intro bared text typeset
  rw [typesetWith] at typeset
  split at typeset
  next isSlash =>
    split at typeset
    next => contradiction
    next numerator typesetLeft =>
      obtain ⟨denominator, typesetRight, whole⟩ := map_eq_ok_iff.mp typeset
      have previews := fraction_previews (atLeft true _ typesetLeft) (atRight true _ typesetRight)
      rw [← whole, isSlash]
      exact (previews.looser (layer_le _) (Nat.le_refl _)).placed (layer_le _) bared
  next =>
    split at typeset
    next isCaret =>
      split at typeset
      next => contradiction
      next base typesetLeft =>
        obtain ⟨exponent, typesetRight, whole⟩ := map_eq_ok_iff.mp typeset
        have previews := power_previews (atLeft false _ typesetLeft) (layer_le left)
          (atRight true _ typesetRight)
        rw [← whole, isCaret]
        exact previews.placed (by decide) bared
    next noCaret =>
      split at typeset
      next => contradiction
      next first typesetLeft =>
        split at typeset
        next => contradiction
        next sign signed =>
          obtain ⟨second, typesetRight, whole⟩ := map_eq_ok_iff.mp typeset
          rcases root with ⟨precedence, found, within, above⟩ | ⟨isCaret, _⟩
          · have previews := operation_previews (atLeft false _ typesetLeft)
              (atRight false _ typesetRight) (layer_le left) (layer_le right) found within above
              signed arithmetic
            rw [← whole, layer_of_precedence found]
            exact previews.placed (Nat.le_trans (precedence_le found) (by decide)) bared
          · exact absurd isCaret noCaret

/-- An accepted formula that was read is shown by its typeset text. -/
theorem previewed_of_accepted {label : Type} {formula : Formula label}
    (layered : formula.Layered) (safe : formula.firstViolation implicitSymbols = none) :
    Previewed formula := by
  induction formula using parts_induction with
  | step formula induction =>
      have ⟨root, parts⟩ := (layered_iff formula).mp layered
      have ⟨allowed, safeParts⟩ := (accepted_iff formula).mp safe
      have shown (child : Formula label) (member : child ∈ formula.children) : Previewed child :=
        induction child member (parts child member) (safeParts child member)
      intro bared text typeset
      cases formula with
      | constant place value lexeme =>
          rw [← Except.ok.inj typeset, rebuild, root.2]
          exact (previews_number root.1).placed (Nat.le_refl _) bared
      | symbol place name =>
          rw [← Except.ok.inj typeset]
          have isSymbol : name ∈ implicitSymbols := by simpa [violation?] using allowed
          exact (previews_symbol isSymbol).placed (Nat.le_refl _) bared
      | group place inner =>
          cases bared with
          | true => exact shown inner List.mem_cons_self true text typeset
          | false =>
              obtain ⟨inside, typesetInner, whole⟩ := map_eq_ok_iff.mp typeset
              have previews := shown inner List.mem_cons_self false inside typesetInner
              have loose := previews.looser (Nat.zero_le _) (layer_le inner)
              rw [← whole]
              exact loose.one.parenthesized.alone
      | unary place operator operand =>
          obtain ⟨inside, typesetOperand, whole⟩ := map_eq_ok_iff.mp typeset
          have previews := shown operand List.mem_cons_self false inside typesetOperand
          rw [← whole]
          exact (signed_previews previews root.2 (layer_le operand) root.1).placed (by decide) bared
      | binary place operator left right =>
          have arithmetic : operator.isArithmetic = true := by simpa [violation?] using allowed
          exact binary_previewed (shown left (by simp [children]))
            (shown right (by simp [children])) root arithmetic bared text typeset
      | call place name arguments =>
          obtain ⟨texts, typesetArguments, whole⟩ := map_eq_ok_iff.mp typeset
          have each := previews_arguments shown typesetArguments
          have known : (ElementaryFunction.ofName? name).isSome = true := by
            simpa [violation?, Option.isSome_iff_ne_none] using allowed
          rw [← whole]
          exact (call_previews each known).placed (Nat.le_refl _) bared
      | _ => contradiction

theorem tens_lexed : Lexed 0 "log10(x)".toList ([Token.ofSense (identifier "log10"),
    .ofSense openSense, .ofSense (identifier "x"), .ofSense closeSense].map Token.sense) :=
  .lexeme (by decide) (by decide)
    (show front 'l' ['o', 'g', '1', '0', '(', 'x', ')'] = .lexeme .identifier 4 from rfl)
    (.lexeme (by decide) (by decide)
      (show front '(' ['x', ')'] = .lexeme .leftParenthesis 0 from rfl)
      (.lexeme (by decide) (by decide) (show front 'x' [')'] = .lexeme .identifier 0 from rfl)
        (.lexeme (by decide) (by decide)
          (show front ')' [] = .lexeme .rightParenthesis 0 from rfl) .nothing)))

theorem read_tens : ∃ place inner,
    Formula.read "log10(x)" = .ok (.call place "log10" [.symbol inner "x"]) := by
  have x : Primary 46 [.ofSense (identifier "x")] _ := .name rfl
  have argument := x.level (Nat.zero_le _)
  have head : Primary 47 [.ofSense (identifier "log10")] _ := .name rfl
  have call := @Postfix.call _ _ _ (.ofSense openSense) (.ofSense closeSense) _ _ _
    (.primary head) rfl (.some (.last (.single argument))) rfl
  have level := Level.operand (Nat.lt_succ_self productPrecedence) (.power (.base call))
  have ⟨formula, spelled, same⟩ := read_of_derived tens_lexed level.body (by
    rw [depth_le_iff, children, List.forall_mem_singleton, depth_leaf rfl]
    decide)
  have ⟨place, parts, shape, inside⟩ := call_of_bare same
  have ⟨part, only, bared⟩ := List.map_eq_singleton_iff.mp inside
  have ⟨inner, equal⟩ := symbol_of_bare bared
  rw [shape, only, equal] at spelled
  exact ⟨place, inner, spelled⟩

theorem based_lexed : Lexed 0 "log(x,10)".toList ([Token.ofSense (identifier "log"),
    .ofSense openSense, .ofSense (identifier "x"), .ofSense commaSense, .ofSense (.number, "10"),
    .ofSense closeSense].map Token.sense) :=
  .lexeme (by decide) (by decide)
    (show front 'l' ['o', 'g', '(', 'x', ',', '1', '0', ')'] = .lexeme .identifier 2 from rfl)
    (.lexeme (by decide) (by decide)
      (show front '(' ['x', ',', '1', '0', ')'] = .lexeme .leftParenthesis 0 from rfl)
      (.lexeme (by decide) (by decide)
        (show front 'x' [',', '1', '0', ')'] = .lexeme .identifier 0 from rfl)
        (.lexeme (by decide) (by decide)
          (show front ',' ['1', '0', ')'] = .lexeme .comma 0 from rfl)
          (.lexeme (by decide) (by decide)
            (show front '1' ['0', ')'] = .lexeme .number 1 from rfl)
            (.lexeme (by decide) (by decide)
              (show front ')' [] = .lexeme .rightParenthesis 0 from rfl) .nothing)))))

theorem read_based : ∃ place inner last, Formula.read "log(x,10)" =
    .ok (.call place "log" [.symbol inner "x", .constant last 10.0 "10"]) := by
  have x : Primary 46 [.ofSense (identifier "x")] _ := .name rfl
  have ten : Primary 46 [.ofSense (.number, "10")] _ := .number rfl
  have items := @Sequence.more _ _ _ (.ofSense commaSense) _ _
    (.single (x.level (Nat.zero_le _))) rfl (.last (.single (ten.level (Nat.zero_le _))))
  have head : Primary 47 [.ofSense (identifier "log")] _ := .name rfl
  have call := @Postfix.call _ _ _ (.ofSense openSense) (.ofSense closeSense) _ _ _
    (.primary head) rfl (.some items) rfl
  have level := Level.operand (Nat.lt_succ_self productPrecedence) (.power (.base call))
  have ⟨formula, spelled, same⟩ := read_of_derived based_lexed level.body (by
    rw [depth_le_iff, children, List.forall_mem_cons, List.forall_mem_singleton, depth_leaf rfl,
      depth_leaf rfl]
    decide)
  have ⟨place, parts, shape, inside⟩ := call_of_bare same
  have ⟨part, rest, both, bared, behind⟩ := List.map_eq_cons_iff.mp inside
  have ⟨other, only, baredOther⟩ := List.map_eq_singleton_iff.mp behind
  have ⟨inner, equal⟩ := symbol_of_bare bared
  have ⟨last, equalOther⟩ := constant_of_bare baredOther
  rw [shape, both, only, equal, equalOther] at spelled
  exact ⟨place, inner, last, spelled⟩

/-- Formulas that look alike are alike: without groups and places, and with decimal logarithms as
logarithms with the base 10, the typeset text of an accepted formula determines it. -/
theorem typeset_determines_formula {text other : String} {first second : Formula Span}
    (spelled : Formula.read text = .ok first) (spelledOther : Formula.read other = .ok second)
    (safe : first.firstViolation implicitSymbols = none)
    (safeOther : second.firstViolation implicitSymbols = none)
    (same : first.typeset = second.typeset) :
    first.rebuild normalNode = second.rebuild normalNode := by
  have ⟨shown, typeset⟩ := typeset_of_accepted first safe false
  have typesetOther : second.typesetWith false = .ok shown := same.symm.trans typeset
  have previews := previewed_of_accepted (layered_of_read spelled) safe false shown typeset
  have previewsOther :=
    previewed_of_accepted (layered_of_read spelledOther) safeOther false shown typesetOther
  have ⟨senses, shows, yields⟩ := previews.looser (Nat.zero_le _) (layer_le first)
  have ⟨others, showsOther, yieldsOther⟩ := previewsOther.looser (Nat.zero_le _) (layer_le second)
  have read := shows [] [] trivial .nothing
  have again := showsOther [] [] trivial .nothing
  have equal := read.unique again rfl
  rw [List.append_nil, List.append_nil] at equal
  rw [equal] at yields
  exact yields.unique yieldsOther

theorem decimal_logarithms_look_alike :
    ∃ first second : Formula Span, Formula.read "log10(x)" = .ok first ∧
      Formula.read "log(x,10)" = .ok second ∧
      first.typeset = .ok "\\log_\x7b10\x7d\\left(x\\right)" ∧
      second.typeset = .ok "\\log_\x7b10\x7d\\left(x\\right)" ∧
      first.rebuild normalNode = second.rebuild normalNode := by
  have ⟨place, inner, spelled⟩ := read_tens
  have ⟨placeOther, innerOther, last, spelledOther⟩ := read_based
  have safe : (Formula.call place "log10" [.symbol inner "x"]).firstViolation implicitSymbols =
      none := by
    simp [first_violation_none_iff, walk_eq, children, violation?, implicitSymbols,
      ElementaryFunction.ofName?, ElementaryFunction.all, ElementaryFunction.name]
  have safeOther : (Formula.call placeOther "log" [.symbol innerOther "x",
      .constant last 10.0 "10"]).firstViolation implicitSymbols = none := by
    simp [first_violation_none_iff, walk_eq, children, violation?, implicitSymbols,
      ElementaryFunction.ofName?, ElementaryFunction.all, ElementaryFunction.name]
  exact ⟨_, _, spelled, spelledOther, rfl, rfl,
    typeset_determines_formula spelled spelledOther safe safeOther rfl⟩

end FormulaPlot.Typesetting
