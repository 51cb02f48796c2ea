import FormulaPlot.Formula.Reading
import Mathlib.Data.List.Forall2

/-!
What the reading functions return, the bounds of their results aside: one equation for each
function, in terms of the outcomes of the functions that it calls.
-/

namespace FormulaPlot

set_option autoImplicit false

theorem bind_eq_ok_iff {ε α β : Type} {first : Except ε α} {next : α → Except ε β} {result : β} :
    first.bind next = .ok result ↔ ∃ value, first = .ok value ∧ next value = .ok result := by
  cases first with
  | error fault => simp [Except.bind]
  | ok value => simp [Except.bind]

theorem map_eq_ok_iff {ε α β : Type} {first : Except ε α} {change : α → β} {result : β} :
    first.map change = .ok result ↔ ∃ value, first = .ok value ∧ change value = result := by
  cases first with
  | error fault => simp [Except.map]
  | ok value => simp [Except.map]

theorem ok_of_some {ε result : Type} {computed : Except ε result} {value : result}
    (found : computed.toOption = some value) : computed = .ok value := by
  cases computed with
  | error fault => contradiction
  | ok other =>
      injection found with same
      rw [same]

/-- Where every item of a list has a result, so has the list. -/
theorem each_made {ε α β : Type} {compute : α → Except ε β} {relation : α → β → Prop}
    {items : List α}
    (each : ∀ item ∈ items, ∃ value, compute item = .ok value ∧ relation item value) :
    ∃ values, items.mapM compute = .ok values ∧ List.Forall₂ relation items values := by
  induction items with
  | nil => exact ⟨[], rfl, .nil⟩
  | cons item rest induction =>
      obtain ⟨⟨value, made, holds⟩, others⟩ := List.forall_mem_cons.mp each
      obtain ⟨values, behind, hold⟩ := induction others
      refine ⟨value :: values, ?_, .cons holds hold⟩
      rw [List.mapM_cons, made, behind]
      rfl

namespace Formula

def outcome {α : Type} {bound : Nat} (reading : Except SyntaxFault (Taken α bound)) :
    Except SyntaxFault (α × List Token) :=
  reading.map fun taken => (taken.value, taken.rest)

theorem outcome_shorter {α : Type} {bound : Nat} {reading : Except SyntaxFault (Taken α bound)}
    {value : α} {rest : List Token} (read : outcome reading = .ok (value, rest)) :
    rest.length < bound := by
  cases reading with
  | error fault => simp [outcome, Except.map] at read
  | ok taken =>
      simp only [outcome, Except.map, Except.ok.injEq, Prod.mk.injEq] at read
      rw [← read.2]
      exact taken.within

/-- Whether a token behind a primary belongs to it: a bracket, a dot, or the parenthesis of a
call. -/
def continuesPostfix {label : Type} (formula : Formula label) (kind : TokenKind) : Bool :=
  kind == .leftBracket || kind == .dot || (kind == .leftParenthesis && formula.isSymbol)

variable (finish : Span) (room : Nat)

theorem outcome_expect_cons (kind : TokenKind) (what : String) (token : Token)
    (rest : List Token) :
    outcome (expect finish kind what (token :: rest)) =
      if token.kind = kind then .ok (token, rest) else expected finish what (token :: rest) := by
  simp only [expect]
  by_cases same : token.kind = kind
  · rw [if_pos same, if_pos same]
    rfl
  · rw [if_neg same, if_neg same]
    rfl

theorem outcome_expect_eq_ok {kind : TokenKind} {what : String} {tokens rest : List Token}
    {token : Token} (read : outcome (expect finish kind what tokens) = .ok (token, rest)) :
    tokens = token :: rest ∧ token.kind = kind := by
  cases tokens with
  | nil => simp [expect, expected, outcome, Except.map] at read
  | cons first behind =>
      rw [outcome_expect_cons] at read
      split at read
      · simp only [Except.ok.injEq, Prod.mk.injEq] at read
        obtain ⟨rfl, rfl⟩ := read
        exact ⟨rfl, by assumption⟩
      · simp [expected] at read

theorem outcome_read_assignment (tokens : List Token) :
    outcome (readAssignment finish room tokens) =
      (outcome (readRange finish room tokens)).bind fun
        | (target, []) => .ok (target, [])
        | (target, sign :: rest) =>
            if sign.kind = .assign then
              match room with
              | 0 => .error (.tooDeep (spanAt finish rest))
              | room + 1 =>
                  (outcome (readAssignment finish room rest)).bind fun value =>
                    (assign target value.1).map fun formula => (formula, value.2)
            else .ok (target, sign :: rest) := by
  rw [readAssignment]
  cases readRange finish room tokens with
  | error fault => rfl
  | ok taken =>
      obtain ⟨target, rest, within⟩ := taken
      cases rest with
      | nil => rfl
      | cons sign rest =>
          by_cases isAssign : sign.kind = .assign
          · cases room with
            | zero => simp [outcome, isAssign, Except.map, Except.bind]
            | succ room =>
                cases read : readAssignment finish room rest with
                | error fault => simp [outcome, isAssign, Except.map, Except.bind, read]
                | ok value =>
                    cases made : assign target value.value <;>
                      simp [outcome, isAssign, Except.map, Except.bind, read, made]
          · simp [outcome, isAssign, Except.map, Except.bind]

theorem outcome_read_range (tokens : List Token) :
    outcome (readRange finish room tokens) =
      (outcome (readBinary finish room 0 tokens)).bind fun
        | (first, []) => .ok (first, [])
        | (first, colon :: rest) =>
            if colon.kind = .colon then
              (outcome (readBinary finish room 0 rest)).bind fun
                | (second, []) => .ok (.range (first.place.through second.place) first second, [])
                | (second, next :: behind) =>
                    if next.kind = .colon then
                      (outcome (readBinary finish room 0 behind)).map fun third =>
                        (.steppedRange (first.place.through third.1.place) first third.1 second,
                          third.2)
                    else
                      .ok (.range (first.place.through second.place) first second, next :: behind)
            else .ok (first, colon :: rest) := by
  rw [readRange]
  cases readBinary finish room 0 tokens with
  | error fault => rfl
  | ok taken =>
      obtain ⟨first, rest, within⟩ := taken
      cases rest with
      | nil => rfl
      | cons colon rest =>
          by_cases isColon : colon.kind = .colon
          · cases read : readBinary finish room 0 rest with
            | error fault => simp [outcome, isColon, Except.map, Except.bind, read]
            | ok taken =>
                obtain ⟨second, behind, fewer⟩ := taken
                cases behind with
                | nil => simp [outcome, isColon, Except.map, Except.bind, read]
                | cons next behind =>
                    by_cases isSecond : next.kind = .colon
                    · cases last : readBinary finish room 0 behind <;>
                        simp [outcome, isColon, isSecond, Except.map, Except.bind, read, last]
                    · simp [outcome, isColon, isSecond, Except.map, Except.bind, read]
          · simp [outcome, isColon, Except.map, Except.bind]

theorem outcome_read_binary (least : Nat) (tokens : List Token) :
    outcome (readBinary finish room least tokens) =
      (outcome (readUnary finish room tokens)).bind fun left =>
        outcome (readOperators finish room least left.1 left.2) := by
  rw [readBinary]
  cases readUnary finish room tokens with
  | error fault => rfl
  | ok taken =>
      obtain ⟨left, rest, within⟩ := taken
      cases read : readOperators finish room least left rest <;>
        simp [outcome, Except.map, Except.bind, read]

theorem outcome_read_operators_nil (least : Nat) (left : Formula Span) :
    outcome (readOperators finish room least left []) = .ok (left, []) := by
  rw [readOperators]
  rfl

theorem outcome_read_operators_cons (least : Nat) (left : Formula Span) (next : Token)
    (rest : List Token) :
    outcome (readOperators finish room least left (next :: rest)) =
      match precedence? next.kind with
      | none =>
          if startsFactor next.kind && decide (least ≤ productPrecedence) then
            (outcome (readPower finish room (next :: rest))).bind fun right =>
              outcome (readOperators finish room least (joined .star left right.1) right.2)
          else .ok (left, next :: rest)
      | some precedence =>
          if precedence < least then .ok (left, next :: rest)
          else
            (outcome (readBinary finish room (precedence + 1) rest)).bind fun right =>
              outcome (readOperators finish room least (joined next.kind left right.1)
                right.2) := by
  rw [readOperators]
  cases found : precedence? next.kind with
  | none =>
      by_cases factor : (startsFactor next.kind && decide (least ≤ productPrecedence)) = true
      · rw [if_pos factor, if_pos factor]
        cases readPower finish room (next :: rest) with
        | error fault => rfl
        | ok taken =>
            obtain ⟨right, behind, within⟩ := taken
            cases read : readOperators finish room least (joined .star left right) behind <;>
              simp [outcome, Except.map, Except.bind, read]
      · rw [if_neg factor, if_neg factor]
        rfl
  | some precedence =>
      by_cases looser : precedence < least
      · simp [outcome, looser, Except.map]
      · simp only [if_neg looser]
        cases readBinary finish room (precedence + 1) rest with
        | error fault => rfl
        | ok taken =>
            obtain ⟨right, behind, within⟩ := taken
            cases read : readOperators finish room least (joined next.kind left right) behind <;>
              simp [outcome, Except.map, Except.bind, read]

theorem outcome_read_unary_zero (tokens : List Token) :
    outcome (readUnary finish 0 tokens) = .error (.tooDeep (spanAt finish tokens)) := by
  rw [readUnary]
  rfl

theorem outcome_read_unary_nil :
    outcome (readUnary finish (room + 1) []) = outcome (readPower finish room []) := by
  rw [readUnary]

theorem outcome_read_unary_cons (sign : Token) (rest : List Token) :
    outcome (readUnary finish (room + 1) (sign :: rest)) =
      if sign.kind.isSign = true then
        (outcome (readUnary finish room rest)).map fun operand =>
          (.unary (sign.span.through operand.1.place) sign.kind operand.1, operand.2)
      else outcome (readPower finish room (sign :: rest)) := by
  rw [readUnary]
  by_cases isSign : sign.kind.isSign = true
  · cases readUnary finish room rest <;> simp [outcome, isSign, Except.map]
  · simp [isSign]

theorem outcome_read_power (tokens : List Token) :
    outcome (readPower finish room tokens) =
      (outcome (readPostfix finish room tokens)).bind fun
        | (base, []) => .ok (base, [])
        | (base, sign :: rest) =>
            if sign.kind.isPower = true then
              (outcome (readUnary finish room rest)).map fun exponent =>
                (joined .caret base exponent.1, exponent.2)
            else .ok (base, sign :: rest) := by
  rw [readPower]
  cases readPostfix finish room tokens with
  | error fault => rfl
  | ok taken =>
      obtain ⟨base, rest, within⟩ := taken
      cases rest with
      | nil => rfl
      | cons sign rest =>
          by_cases isPower : sign.kind.isPower = true
          · cases read : readUnary finish room rest <;>
              simp [outcome, isPower, Except.map, Except.bind, read]
          · simp [outcome, isPower, Except.map, Except.bind]

theorem outcome_read_postfix_chain (tokens : List Token) :
    outcome (readPostfix finish room tokens) =
      (outcome (readPrimary finish room tokens)).bind fun formula =>
        outcome (readSuffixes finish room formula.1 formula.2) := by
  rw [readPostfix]
  cases readPrimary finish room tokens with
  | error fault => rfl
  | ok taken =>
      obtain ⟨formula, rest, within⟩ := taken
      cases read : readSuffixes finish room formula rest <;>
        simp [outcome, Except.map, Except.bind, read]

theorem outcome_read_suffixes_nil (formula : Formula Span) :
    outcome (readSuffixes finish room formula []) = .ok (formula, []) := by
  rw [readSuffixes]
  rfl

theorem outcome_read_suffixes_call (place : Span) (name : String) {next : Token}
    (rest : List Token) (opens : next.kind = .leftParenthesis) :
    outcome (readSuffixes finish room (.symbol place name) (next :: rest)) =
      (outcome (readItems finish room .rightParenthesis "')'" rest)).bind fun items =>
        outcome (readSuffixes finish room (.call (place.through items.1.2) name items.1.1)
          items.2) := by
  rw [readSuffixes.eq_def]
  simp only [opens]
  cases readItems finish room .rightParenthesis "')'" rest with
  | error fault => rfl
  | ok taken =>
      obtain ⟨⟨arguments, close⟩, behind, within⟩ := taken
      cases read : readSuffixes finish room (.call (place.through close) name arguments) behind <;>
        simp [outcome, Except.map, Except.bind, read]

theorem outcome_read_suffixes_index (formula : Formula Span) {next : Token}
    (rest : List Token) (opens : next.kind = .leftBracket) :
    outcome (readSuffixes finish room formula (next :: rest)) =
      (outcome (readItems finish room .rightBracket "']'" rest)).bind fun items =>
        outcome (readSuffixes finish room
          (.index (formula.place.through items.1.2) formula items.1.1) items.2) := by
  rw [readSuffixes.eq_def]
  simp only [opens]
  cases readItems finish room .rightBracket "']'" rest with
  | error fault => rfl
  | ok taken =>
      obtain ⟨⟨indices, close⟩, behind, within⟩ := taken
      cases read : readSuffixes finish room
          (.index (formula.place.through close) formula indices) behind <;>
        simp [outcome, Except.map, Except.bind, read]

theorem outcome_read_suffixes_member (formula : Formula Span) {next : Token}
    (rest : List Token) (isDot : next.kind = .dot) :
    outcome (readSuffixes finish room formula (next :: rest)) =
      (outcome (expect finish .identifier "identifier" rest)).bind fun name =>
        outcome (readSuffixes finish room
          (.member (formula.place.through name.1.span) formula name.1.lexeme) name.2) := by
  rw [readSuffixes.eq_def]
  simp only [isDot]
  cases expect finish .identifier "identifier" rest with
  | error fault => rfl
  | ok taken =>
      obtain ⟨name, behind, within⟩ := taken
      cases read : readSuffixes finish room
          (.member (formula.place.through name.span) formula name.lexeme) behind <;>
        simp [outcome, Except.map, Except.bind, read]

theorem outcome_read_suffixes_stop {formula : Formula Span} {next : Token} (rest : List Token)
    (stops : continuesPostfix formula next.kind = false) :
    outcome (readSuffixes finish room formula (next :: rest)) = .ok (formula, next :: rest) := by
  rw [readSuffixes.eq_def]
  simp only [continuesPostfix, Bool.or_eq_false_iff, beq_eq_false_iff_ne, Bool.and_eq_false_iff]
    at stops
  obtain ⟨⟨noBracket, noDot⟩, noCall⟩ := stops
  dsimp only
  split
  · rename_i place name opens
    simp [isSymbol, opens] at noCall
  · rename_i opens
    exact absurd opens noBracket
  · rename_i isDot
    exact absurd isDot noDot
  · rfl

/-- One item, and what is read behind it up to a closing bracket. -/
def sequenceOutcome (closing : TokenKind) (what : String) (tokens : List Token) :
    Except SyntaxFault ((List (Formula Span) × Span) × List Token) :=
  (outcome (readRange finish room tokens)).bind fun item =>
    (outcome (readMoreItems finish room closing what item.2)).map fun more =>
      ((item.1 :: more.1.1, more.1.2), more.2)

theorem outcome_read_items_nil (closing : TokenKind) (what : String) :
    outcome (readItems finish room closing what []) =
      sequenceOutcome finish room closing what [] := by
  rw [readItems]
  simp only [closedBy?, sequenceOutcome]
  cases readRange finish room [] with
  | error fault => rfl
  | ok taken =>
      obtain ⟨item, behind, within⟩ := taken
      cases read : readMoreItems finish room closing what behind <;>
        simp [outcome, Except.map, Except.bind, read]

theorem outcome_read_items_cons (closing : TokenKind) (what : String) (next : Token)
    (rest : List Token) :
    outcome (readItems finish room closing what (next :: rest)) =
      if next.kind = closing then .ok (([], next.span), rest)
      else
        sequenceOutcome finish room closing what (next :: rest) := by
  rw [readItems]
  by_cases closed : next.kind = closing
  · simp [closedBy?, closed, outcome, Except.map]
  · simp only [closedBy?, if_neg closed, sequenceOutcome]
    cases readRange finish room (next :: rest) with
    | error fault => rfl
    | ok taken =>
        obtain ⟨item, behind, within⟩ := taken
        cases read : readMoreItems finish room closing what behind <;>
          simp [outcome, Except.map, Except.bind, read]

theorem outcome_read_more_items_nil (closing : TokenKind) (what : String) :
    outcome (readMoreItems finish room closing what []) = expected finish what [] := by
  rw [readMoreItems]
  rfl

theorem outcome_read_more_items_cons (closing : TokenKind) (what : String) (next : Token)
    (rest : List Token) :
    outcome (readMoreItems finish room closing what (next :: rest)) =
      if next.kind = .comma then
        sequenceOutcome finish room closing what rest
      else if next.kind = closing then .ok (([], next.span), rest)
      else expected finish what (next :: rest) := by
  rw [readMoreItems]
  by_cases isComma : next.kind = .comma
  · rw [if_pos isComma, if_pos isComma, sequenceOutcome]
    cases readRange finish room rest with
    | error fault => rfl
    | ok taken =>
        obtain ⟨item, behind, within⟩ := taken
        cases read : readMoreItems finish room closing what behind <;>
          simp [outcome, Except.map, Except.bind, read]
  · by_cases closed : next.kind = closing
    · rw [if_neg isComma, if_neg isComma, if_pos closed, if_pos closed]
      rfl
    · rw [if_neg isComma, if_neg isComma, if_neg closed, if_neg closed]
      rfl

/-- Kinds of tokens that a primary starts with. -/
def startsPrimary (kind : TokenKind) : Bool :=
  kind == .number || kind == .identifier || kind == .leftParenthesis || kind == .leftBracket ||
    kind == .leftBrace

theorem outcome_read_primary_nil :
    outcome (readPrimary finish room []) = expected finish "expression" [] := by
  rw [readPrimary]
  rfl

theorem outcome_read_primary_number {next : Token} (rest : List Token)
    (isNumber : next.kind = .number) :
    outcome (readPrimary finish room (next :: rest)) =
      .ok (.constant next.span next.number next.lexeme, rest) := by
  rw [readPrimary.eq_def]
  simp only [isNumber]
  rfl

theorem outcome_read_primary_name {next : Token} (rest : List Token)
    (isName : next.kind = .identifier) :
    outcome (readPrimary finish room (next :: rest)) =
      .ok (.symbol next.span next.lexeme, rest) := by
  rw [readPrimary.eq_def]
  simp only [isName]
  rfl

theorem outcome_read_primary_group {next : Token} (rest : List Token)
    (opens : next.kind = .leftParenthesis) :
    outcome (readPrimary finish room (next :: rest)) =
      (outcome (readAssignment finish room rest)).bind fun inner =>
        (outcome (expect finish .rightParenthesis "')'" inner.2)).map fun close =>
          (.group (next.span.through close.1.span) inner.1, close.2) := by
  rw [readPrimary.eq_def]
  simp only [opens]
  cases readAssignment finish room rest with
  | error fault => rfl
  | ok taken =>
      obtain ⟨inner, behind, within⟩ := taken
      cases read : expect finish .rightParenthesis "')'" behind <;>
        simp [outcome, Except.map, Except.bind, read]

theorem outcome_read_primary_array {next : Token} (rest : List Token)
    (opens : next.kind = .leftBracket) :
    outcome (readPrimary finish room (next :: rest)) =
      (outcome (readItems finish room .rightBracket "']'" rest)).map fun items =>
        (.array (next.span.through items.1.2) items.1.1, items.2) := by
  rw [readPrimary.eq_def]
  simp only [opens]
  cases readItems finish room .rightBracket "']'" rest <;> rfl

theorem outcome_read_primary_empty_object {next close : Token} (rest : List Token)
    (opens : next.kind = .leftBrace) (closes : close.kind = .rightBrace) :
    outcome (readPrimary finish room (next :: close :: rest)) =
      .ok (.object (next.span.through close.span) [], rest) := by
  rw [readPrimary.eq_def]
  simp [opens, closedBy?, closes, outcome, Except.map]

theorem outcome_read_primary_object {next : Token} {rest : List Token}
    (opens : next.kind = .leftBrace) (isOpen : closedBy? .rightBrace rest = none) :
    outcome (readPrimary finish room (next :: rest)) =
      (outcome (readEntries finish room rest)).map fun entries =>
        (.object (next.span.through entries.1.2) entries.1.1, entries.2) := by
  rw [readPrimary.eq_def]
  simp only [opens, isOpen]
  cases readEntries finish room rest <;> rfl

theorem outcome_read_primary_stop {next : Token} (rest : List Token)
    (stops : startsPrimary next.kind = false) :
    outcome (readPrimary finish room (next :: rest)) =
      expected finish "expression" (next :: rest) := by
  rw [readPrimary.eq_def]
  dsimp only
  split
  case h_6 => rfl
  all_goals
    rename_i kind
    simp [startsPrimary, kind] at stops

theorem outcome_read_entries (tokens : List Token) :
    outcome (readEntries finish room tokens) =
      (outcome (expect finish .identifier "property name" tokens)).bind fun key =>
        (outcome (expect finish .colon "':'" key.2)).bind fun colon =>
          (outcome (readBinary finish room 0 colon.2)).bind fun
            | (_, []) => expected finish closingBrace []
            | (value, next :: behind) =>
                if next.kind = .comma then
                  (outcome (readEntries finish room behind)).map fun more =>
                    (((key.1.lexeme, value) :: more.1.1, more.1.2), more.2)
                else if next.kind = .rightBrace then
                  .ok (([(key.1.lexeme, value)], next.span), behind)
                else expected finish closingBrace (next :: behind) := by
  rw [readEntries]
  cases expect finish .identifier "property name" tokens with
  | error fault => rfl
  | ok taken =>
      obtain ⟨key, afterKey, shorter⟩ := taken
      cases colonRead : expect finish .colon "':'" afterKey with
      | error fault => simp [outcome, Except.map, Except.bind, colonRead]
      | ok taken =>
          obtain ⟨colon, afterColon, fewer⟩ := taken
          cases valueRead : readBinary finish room 0 afterColon with
          | error fault => simp [outcome, Except.map, Except.bind, colonRead, valueRead]
          | ok taken =>
              obtain ⟨value, behind, fewest⟩ := taken
              cases behind with
              | nil =>
                  simp [outcome, Except.map, Except.bind, colonRead, valueRead, expected]
              | cons next behind =>
                  by_cases isComma : next.kind = .comma
                  · cases read : readEntries finish room behind <;>
                      simp [outcome, Except.map, Except.bind, colonRead, valueRead, isComma, read]
                  · by_cases closes : next.kind = .rightBrace <;>
                      simp [outcome, Except.map, Except.bind, colonRead, valueRead, closes,
                        isComma, expected]

end Formula

end FormulaPlot
