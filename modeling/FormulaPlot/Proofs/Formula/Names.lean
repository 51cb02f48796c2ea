import FormulaPlot.Proofs.Formula.Acceptance
import FormulaPlot.Proofs.Formula.Grammar
import FormulaPlot.Proofs.Formula.Lexemes

/-!
Names in formulas. They are the identifiers of the tokens that spell the formula, and a formula of
the safe language stays safe over all symbols among its names.
-/

namespace FormulaPlot

set_option autoImplicit false

namespace Formula

variable {label : Type}

mutual

/-- The names in a formula in the order in which they are written. -/
def names : Formula label → List String
  | constant .. => []
  | symbol _ name => [name]
  | group _ inner => inner.names
  | unary _ _ operand => operand.names
  | binary _ _ left right => left.names ++ right.names
  | call _ name arguments => name :: namesAll arguments
  | assignment _ target value => target.names ++ value.names
  | definition _ name parameters body => name :: parameters ++ body.names
  | index _ target indices => target.names ++ namesAll indices
  | member _ target name => target.names ++ [name]
  | range _ first last => first.names ++ last.names
  | steppedRange _ first last step => first.names ++ (step.names ++ last.names)
  | array _ elements => namesAll elements
  | object _ entries => namesEntries entries
  | block _ statements => namesAll statements

def namesAll : List (Formula label) → List String
  | [] => []
  | formula :: rest => formula.names ++ namesAll rest

def namesEntries : List (String × Formula label) → List String
  | [] => []
  | (key, formula) :: rest => key :: (formula.names ++ namesEntries rest)

end

theorem mem_names_all_iff {name : String} {formulas : List (Formula label)} :
    name ∈ namesAll formulas ↔ ∃ formula ∈ formulas, name ∈ formula.names := by
  induction formulas with
  | nil => simp [namesAll]
  | cons formula rest induction => simp [namesAll, induction]

theorem mem_names_entries_iff {name : String} {entries : List (String × Formula label)} :
    name ∈ namesEntries entries ↔ ∃ entry ∈ entries, name = entry.1 ∨ name ∈ entry.2.names := by
  induction entries with
  | nil => simp [namesEntries]
  | cons entry rest induction => simp [namesEntries, induction, or_assoc]

theorem mem_names_of_child {name : String} {formula child : Formula label}
    (member : child ∈ formula.children) (inside : name ∈ child.names) : name ∈ formula.names := by
  cases formula with
  | call place found arguments =>
      rw [names, List.mem_cons, mem_names_all_iff]
      exact .inr ⟨child, member, inside⟩
  | index place target indices =>
      rw [names, List.mem_append, mem_names_all_iff]
      rcases List.mem_cons.mp member with same | behind
      · exact .inl (by rwa [← same])
      · exact .inr ⟨child, behind, inside⟩
  | array place elements => exact mem_names_all_iff.mpr ⟨child, member, inside⟩
  | block place statements => exact mem_names_all_iff.mpr ⟨child, member, inside⟩
  | object place entries =>
      obtain ⟨entry, found, rfl⟩ := List.mem_map.mp member
      exact mem_names_entries_iff.mpr ⟨entry, found, .inr inside⟩
  | constant place value lexeme => simp [children] at member
  | symbol place found => simp [children] at member
  | _ =>
      simp only [children, List.mem_cons, List.not_mem_nil, or_false] at member
      simp only [names, List.mem_append, List.mem_cons]
      rcases member with rfl | rfl | rfl <;> simp [inside]

theorem names_all_of_symbols {formulas : List (Formula label)} {symbols : List String}
    (named : formulas.map symbolName? = symbols.map some) : namesAll formulas = symbols := by
  induction formulas generalizing symbols with
  | nil =>
      have none : symbols = [] := by simpa using named.symm
      rw [none]
      rfl
  | cons formula rest induction =>
      cases symbols with
      | nil => simp at named
      | cons name others =>
          simp only [List.map_cons, List.cons.injEq] at named
          cases formula with
          | symbol place found =>
              simp only [symbolName?, Option.some.injEq] at named
              rw [namesAll, induction named.2, names, named.1]
              rfl
          | _ => simp [symbolName?] at named

end Formula

/-- The lexemes of the identifiers among some tokens. -/
def identifiers (tokens : List Token) : List String :=
  (tokens.filter fun token => token.kind == .identifier).map Token.lexeme

theorem identifiers_append (first second : List Token) :
    identifiers (first ++ second) = identifiers first ++ identifiers second := by
  simp [identifiers]

theorem identifiers_name {token : Token} (isName : token.kind = .identifier)
    (rest : List Token) : identifiers (token :: rest) = token.lexeme :: identifiers rest := by
  simp [identifiers, isName]

theorem identifiers_other {token : Token} {kind : TokenKind} (isKind : token.kind = kind)
    (other : kind ≠ .identifier) (rest : List Token) :
    identifiers (token :: rest) = identifiers rest := by
  simp [identifiers, isKind, other]

/-- Tokens around one that is no identifier. -/
theorem identifiers_around {token : Token} {kind : TokenKind} (isKind : token.kind = kind)
    (other : kind ≠ .identifier) (head tail : List Token) :
    identifiers (head ++ token :: tail) = identifiers head ++ identifiers tail := by
  rw [identifiers_append, identifiers_other isKind other]

theorem identifiers_within {opening closing : Token} {kind last : TokenKind}
    (opens : opening.kind = kind) (closes : closing.kind = last)
    (others : kind ≠ .identifier ∧ last ≠ .identifier) (tokens : List Token) :
    identifiers (opening :: (tokens ++ [closing])) = identifiers tokens := by
  rw [identifiers_other opens others.1, identifiers_around closes others.2]
  exact List.append_nil _

theorem no_identifier_of_precedence {kind : TokenKind} {precedence : Nat}
    (found : Formula.precedence? kind = some precedence) : kind ≠ .identifier := by
  rintro rfl
  simp [Formula.precedence?] at found

theorem no_identifier_of_sign {kind : TokenKind} (isSign : kind.isSign = true) :
    kind ≠ .identifier := by
  rintro rfl
  simp [TokenKind.isSign] at isSign

theorem no_identifier_of_power {kind : TokenKind} (isPower : kind.isPower = true) :
    kind ≠ .identifier := by
  rintro rfl
  simp [TokenKind.isPower] at isPower

theorem no_identifier_of_separator {kind : TokenKind} (separates : kind.isSeparator = true) :
    kind ≠ .identifier := by
  rintro rfl
  simp [TokenKind.isSeparator] at separates

theorem sense_identifier_iff (token : Token) (name : String) :
    token.sense = (.identifier, name) ↔ token.kind = .identifier ∧ token.lexeme = name := by
  obtain ⟨kind, lexeme, span⟩ := token
  cases kind <;> simp [Token.sense, senseOf, TokenKind.isPower]

theorem mem_identifiers_iff (name : String) (tokens : List Token) :
    name ∈ identifiers tokens ↔ (.identifier, name) ∈ tokens.map Token.sense := by
  simp [identifiers, sense_identifier_iff, and_assoc]

namespace Grammar

open FormulaPlot.Formula

mutual

theorem Statement.names {room : Nat} {tokens : List Token} {formula : Formula Span} :
    Statement room tokens formula → identifiers tokens = formula.names
  | .range derived => derived.names
  | .assignment target _ isAssign value => by
      rw [identifiers_around isAssign (by decide), target.names, value.names, Formula.names]
  | .definition head named isAssign body => by
      rw [identifiers_around isAssign (by decide), head.names, body.names, Formula.names,
        names_all_of_symbols named, Formula.names]

theorem Range.names {room : Nat} {tokens : List Token} {formula : Formula Span} :
    Range room tokens formula → identifiers tokens = formula.names
  | .single derived => derived.names
  | .range first isColon last => by
      rw [identifiers_around isColon (by decide), first.names, last.names, Formula.names]
  | .stepped first isColon step isSecond last => by
      rw [identifiers_around isColon (by decide), identifiers_around isSecond (by decide),
        first.names, step.names, last.names, Formula.names]

theorem Level.names {room level : Nat} {tokens : List Token} {formula : Formula Span} :
    Level room level tokens formula → identifiers tokens = formula.names
  | .operand _ derived => derived.names
  | .tighter derived => derived.names
  | .operation left found right => by
      rw [identifiers_around rfl (no_identifier_of_precedence found), left.names, right.names,
        Formula.names]
  | .product left right _ _ => by
      rw [identifiers_append, left.names, right.names, Formula.names]

theorem Operand.names {room : Nat} {tokens : List Token} {formula : Formula Span} :
    Operand room tokens formula → identifiers tokens = formula.names
  | .power derived => derived.names
  | .signed isSign operand => by
      rw [identifiers_other rfl (no_identifier_of_sign isSign), operand.names, Formula.names]

theorem Power.names {room : Nat} {tokens : List Token} {formula : Formula Span} :
    Power room tokens formula → identifiers tokens = formula.names
  | .base derived => derived.names
  | .raised base isPower exponent => by
      rw [identifiers_around rfl (no_identifier_of_power isPower), base.names, exponent.names,
        Formula.names]

theorem Postfix.names {room : Nat} {tokens : List Token} {formula : Formula Span} :
    Postfix room tokens formula → identifiers tokens = formula.names
  | .primary derived => derived.names
  | .call head opens items closes => by
      rw [identifiers_append, identifiers_within opens closes (by decide), head.names,
        items.names, Formula.names, Formula.names]
      rfl
  | .index target opens items closes => by
      rw [identifiers_append, identifiers_within opens closes (by decide), target.names,
        items.names, Formula.names]
  | .member target isDot isName => by
      rw [identifiers_around isDot (by decide), identifiers_name isName, target.names,
        Formula.names]
      rfl

theorem Primary.names {room : Nat} {tokens : List Token} {formula : Formula Span} :
    Primary room tokens formula → identifiers tokens = formula.names
  | .number isNumber => identifiers_other isNumber (by decide) []
  | .name isName => identifiers_name isName []
  | .group opens inner closes => by
      rw [identifiers_within opens closes (by decide), inner.names, Formula.names]
  | .array opens items closes => by
      rw [identifiers_within opens closes (by decide), items.names, Formula.names]
  | .emptyObject opens closes => by
      rw [identifiers_other opens (by decide), identifiers_other closes (by decide)]
      rfl
  | .object opens entries closes => by
      rw [identifiers_within opens closes (by decide), entries.names, Formula.names]

theorem Items.names {room : Nat} {tokens : List Token} {formulas : List (Formula Span)} :
    Items room tokens formulas → identifiers tokens = namesAll formulas
  | .none => rfl
  | .some derived => derived.names

theorem Sequence.names {room : Nat} {tokens : List Token} {formulas : List (Formula Span)} :
    Sequence room tokens formulas → identifiers tokens = namesAll formulas
  | .last derived => by
      rw [derived.names, namesAll, namesAll, List.append_nil]
  | .more derived isComma others => by
      rw [identifiers_around isComma (by decide), derived.names, others.names, namesAll]

theorem Entries.names {room : Nat} {tokens : List Token}
    {entries : List (String × Formula Span)} :
    Entries room tokens entries → identifiers tokens = namesEntries entries
  | .last isName isColon value => by
      rw [identifiers_name isName, identifiers_other isColon (by decide), value.names,
        namesEntries, namesEntries, List.append_nil]
  | .more isName isColon value isComma others => by
      rw [identifiers_name isName, identifiers_other isColon (by decide),
        identifiers_around isComma (by decide), value.names, others.names, namesEntries]

end

theorem Separators.names {tokens : List Token} (separators : Separators tokens) :
    identifiers tokens = [] := by
  induction tokens with
  | nil => rfl
  | cons token rest induction =>
      obtain ⟨separates, others⟩ := List.forall_mem_cons.mp separators
      rw [identifiers_other rfl (no_identifier_of_separator separates), induction others]

theorem Following.names {room : Nat} {tokens : List Token} {statements : List (Formula Span)}
    (derived : Following room tokens statements) : identifiers tokens = namesAll statements := by
  induction derived with
  | none separators => rw [separators.names, namesAll]
  | more separators present statement others induction =>
      rw [identifiers_append, identifiers_append, separators.names, statement.names, induction,
        namesAll, List.nil_append]

theorem Body.names {room : Nat} {tokens : List Token} {formula : Formula Span}
    (derived : Body room tokens formula) : identifiers tokens = formula.names := by
  cases derived with
  | statement separators statement =>
      rw [identifiers_append, separators.names, statement.names, List.nil_append]
  | block separators statement others =>
      rw [identifiers_append, identifiers_append, separators.names, statement.names, others.names,
        Formula.names, namesAll, List.nil_append]

end Grammar

namespace Formula

variable {label : Type} {allowed narrow : List String}

/-- All names of a safe formula are symbols or functions. -/
theorem known_of_accepted (formula : Formula label)
    (accepted : formula.firstViolation allowed = none) :
    ∀ name ∈ formula.names, name ∈ allowed ∨ (ElementaryFunction.ofName? name).isSome = true := by
  induction formula using parts_induction with
  | step formula induction =>
      rw [accepted_iff] at accepted
      obtain ⟨root, parts⟩ := accepted
      have known := fun child member => induction child member (parts child member)
      intro name inside
      cases formula with
      | constant place value lexeme => simp [names] at inside
      | symbol place found =>
          rw [names, List.mem_singleton] at inside
          rw [inside]
          exact .inl (by simpa [violation?] using root)
      | group place inner => exact known inner (by simp [children]) name inside
      | unary place operator operand => exact known operand (by simp [children]) name inside
      | binary place operator left right =>
          rw [names, List.mem_append] at inside
          rcases inside with first | second
          · exact known left (by simp [children]) name first
          · exact known right (by simp [children]) name second
      | call place found arguments =>
          rw [names, List.mem_cons, mem_names_all_iff] at inside
          rcases inside with same | ⟨argument, member, inside⟩
          · rw [same]
            exact .inr (by simpa [violation?, Option.isSome_iff_ne_none] using root)
          · exact known argument member name inside
      | _ => simp [violation?] at root

/-- The names that safe formulas are made of: variables, named constants and functions. -/
def vocabulary : List String :=
  implicitSymbols ++ ElementaryFunction.all.map ElementaryFunction.name

theorem names_in_vocabulary (covered : ∀ name ∈ allowed, name ∈ implicitSymbols)
    (formula : Formula label) (accepted : formula.firstViolation allowed = none) :
    ∀ name ∈ formula.names, name ∈ vocabulary := by
  intro name inside
  rcases known_of_accepted formula accepted name inside with isAllowed | isFunction
  · exact List.mem_append_left _ (covered name isAllowed)
  · obtain ⟨function, found⟩ := Option.isSome_iff_exists.mp isFunction
    unfold ElementaryFunction.ofName? at found
    have same := List.find?_some found
    rw [← of_decide_eq_true same]
    exact List.mem_append_right _ (List.mem_map_of_mem (List.mem_of_find?_eq_some found))

/-- A safe formula is safe over fewer symbols when its names need no others. -/
theorem accepted_narrow_iff
    (apart : ∀ name ∈ allowed, ElementaryFunction.ofName? name = none) (formula : Formula label)
    (accepted : formula.firstViolation allowed = none) :
    formula.firstViolation narrow = none ↔
      ∀ name ∈ formula.names, name ∈ allowed → name ∈ narrow := by
  constructor
  · intro narrowed name inside isAllowed
    rcases known_of_accepted formula narrowed name inside with isNarrow | isFunction
    · exact isNarrow
    · simp [apart name isAllowed] at isFunction
  · induction formula using parts_induction with
    | step formula induction =>
        rw [accepted_iff] at accepted
        obtain ⟨root, parts⟩ := accepted
        intro permitted
        rw [accepted_iff]
        constructor
        · cases formula with
          | symbol place name =>
              have isAllowed : name ∈ allowed := by simpa [violation?] using root
              have isNarrow := permitted name (by simp [names]) isAllowed
              simpa [violation?] using isNarrow
          | _ => exact root
        · intro child member
          apply induction child member (parts child member)
          intro name inside
          exact permitted name (mem_names_of_child member inside)

end Formula

end FormulaPlot
