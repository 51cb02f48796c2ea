import FormulaPlot.Proofs.Formula.Bodies

/-!
Less room for nesting. What is read with more room is read in the same way with less, or it is too
deep; there is nothing else that the room decides.
-/

namespace FormulaPlot.Formula

set_option autoImplicit false

/-- A reading agrees with a roomier one, or finds its tokens too deep. -/
def Cramped {α : Type} (narrow wide : Except SyntaxFault α) : Prop :=
  narrow = wide ∨ ∃ span, narrow = .error (.tooDeep span)

section Cramped

variable {α β : Type} {narrow wide : Except SyntaxFault α}

theorem cramped_same (reading : Except SyntaxFault α) : Cramped reading reading := .inl rfl

theorem cramped_deep (span : Span) (wide : Except SyntaxFault α) :
    Cramped (.error (.tooDeep span)) wide := .inr ⟨span, rfl⟩

theorem Cramped.bind {first second : α → Except SyntaxFault β} (cramped : Cramped narrow wide)
    (goesOn : ∀ value, wide = .ok value → Cramped (first value) (second value)) :
    Cramped (narrow.bind first) (wide.bind second) := by
  rcases cramped with rfl | ⟨span, rfl⟩
  · cases narrow with
    | error fault => exact cramped_same _
    | ok value => exact goesOn value rfl
  · exact cramped_deep span _

theorem Cramped.bind_ok {value : α} {first : α → Except SyntaxFault β}
    {result : Except SyntaxFault β} (cramped : Cramped narrow (.ok value))
    (goesOn : Cramped (first value) result) : Cramped (narrow.bind first) result := by
  rcases cramped with rfl | ⟨span, rfl⟩
  · exact goesOn
  · exact cramped_deep span _

theorem Cramped.map {change : α → β} (cramped : Cramped narrow wide) :
    Cramped (narrow.map change) (wide.map change) := by
  rcases cramped with rfl | ⟨span, rfl⟩
  · exact cramped_same _
  · exact cramped_deep span _

end Cramped

variable (finish : Span)

theorem sequence_cramped {room wide : Nat} {closing : TokenKind} {what : String}
    {tokens : List Token}
    (item : Cramped (outcome (readRange finish room tokens))
      (outcome (readRange finish wide tokens)))
    (more : ∀ rest : List Token, rest.length < tokens.length →
      Cramped (outcome (readMoreItems finish room closing what rest))
        (outcome (readMoreItems finish wide closing what rest))) :
    Cramped (sequenceOutcome finish room closing what tokens)
      (sequenceOutcome finish wide closing what tokens) := by
  apply item.bind
  rintro ⟨item, rest⟩ read
  exact (more rest (outcome_shorter read)).map

mutual

theorem assignment_cramped {room wide : Nat} (within : room ≤ wide) (tokens : List Token) :
    Cramped (outcome (readAssignment finish room tokens))
      (outcome (readAssignment finish wide tokens)) := by
  rw [outcome_read_assignment, outcome_read_assignment]
  apply (range_cramped within tokens).bind
  rintro ⟨target, rest⟩ read
  cases rest with
  | nil => exact cramped_same _
  | cons sign behind =>
      have fewer : behind.length + 1 < tokens.length := outcome_shorter read
      dsimp only
      by_cases isAssign : sign.kind = .assign
      · rw [if_pos isAssign, if_pos isAssign]
        cases room with
        | zero => exact cramped_deep _ _
        | succ room =>
            cases wide with
            | zero => omega
            | succ wide =>
                apply (assignment_cramped (Nat.le_of_succ_le_succ within) behind).bind
                intro value _
                exact cramped_same _
      · rw [if_neg isAssign, if_neg isAssign]
        exact cramped_same _
termination_by 16 * tokens.length + 8
decreasing_by all_goals omega

theorem range_cramped {room wide : Nat} (within : room ≤ wide) (tokens : List Token) :
    Cramped (outcome (readRange finish room tokens)) (outcome (readRange finish wide tokens)) := by
  rw [outcome_read_range, outcome_read_range]
  apply (binary_cramped within 0 tokens).bind
  rintro ⟨first, rest⟩ read
  cases rest with
  | nil => exact cramped_same _
  | cons colon behind =>
      have fewer : behind.length + 1 < tokens.length := outcome_shorter read
      dsimp only
      by_cases isColon : colon.kind = .colon
      · rw [if_pos isColon, if_pos isColon]
        apply (binary_cramped within 0 behind).bind
        rintro ⟨second, last⟩ readLast
        cases last with
        | nil => exact cramped_same _
        | cons next more =>
            have fewest : more.length + 1 < behind.length := outcome_shorter readLast
            dsimp only
            by_cases isSecond : next.kind = .colon
            · rw [if_pos isSecond, if_pos isSecond]
              exact (binary_cramped within 0 more).map
            · rw [if_neg isSecond, if_neg isSecond]
              exact cramped_same _
      · rw [if_neg isColon, if_neg isColon]
        exact cramped_same _
termination_by 16 * tokens.length + 7
decreasing_by all_goals omega

theorem binary_cramped {room wide : Nat} (within : room ≤ wide) (least : Nat)
    (tokens : List Token) :
    Cramped (outcome (readBinary finish room least tokens))
      (outcome (readBinary finish wide least tokens)) := by
  rw [outcome_read_binary, outcome_read_binary]
  apply (unary_cramped within tokens).bind
  rintro ⟨left, rest⟩ read
  have fewer := outcome_shorter read
  exact operators_cramped within least left rest
termination_by 16 * tokens.length + 6
decreasing_by all_goals omega

theorem operators_cramped {room wide : Nat} (within : room ≤ wide) (least : Nat)
    (left : Formula Span) (tokens : List Token) :
    Cramped (outcome (readOperators finish room least left tokens))
      (outcome (readOperators finish wide least left tokens)) := by
  cases tokens with
  | nil =>
      rw [outcome_read_operators_nil, outcome_read_operators_nil]
      exact cramped_same _
  | cons next rest =>
      rw [outcome_read_operators_cons, outcome_read_operators_cons]
      cases precedence? next.kind with
      | none =>
          dsimp only
          by_cases factor : (startsFactor next.kind && decide (least ≤ productPrecedence)) = true
          · rw [if_pos factor, if_pos factor]
            apply (power_cramped within (next :: rest)).bind
            rintro ⟨right, behind⟩ read
            have fewer : behind.length < rest.length + 1 := outcome_shorter read
            exact operators_cramped within least (joined .star left right) behind
          · rw [if_neg factor, if_neg factor]
            exact cramped_same _
      | some precedence =>
          dsimp only
          by_cases looser : precedence < least
          · rw [if_pos looser, if_pos looser]
            exact cramped_same _
          · rw [if_neg looser, if_neg looser]
            apply (binary_cramped within (precedence + 1) rest).bind
            rintro ⟨right, behind⟩ read
            have fewer : behind.length < rest.length := outcome_shorter read
            exact operators_cramped within least (joined next.kind left right) behind
termination_by 16 * tokens.length + 5
decreasing_by
  all_goals subst_vars
  all_goals (try simp only [List.length_cons]); omega

theorem unary_cramped {room wide : Nat} (within : room ≤ wide) (tokens : List Token) :
    Cramped (outcome (readUnary finish room tokens)) (outcome (readUnary finish wide tokens)) := by
  cases room with
  | zero =>
      rw [outcome_read_unary_zero]
      exact cramped_deep _ _
  | succ room =>
      cases wide with
      | zero => omega
      | succ wide =>
          have below := Nat.le_of_succ_le_succ within
          cases tokens with
          | nil =>
              rw [outcome_read_unary_nil, outcome_read_unary_nil]
              exact power_cramped below []
          | cons sign rest =>
              rw [outcome_read_unary_cons, outcome_read_unary_cons]
              by_cases isSign : sign.kind.isSign = true
              · rw [if_pos isSign, if_pos isSign]
                exact (unary_cramped below rest).map
              · rw [if_neg isSign, if_neg isSign]
                exact power_cramped below (sign :: rest)
termination_by 16 * tokens.length + 5
decreasing_by
  all_goals subst_vars
  all_goals (try simp only [List.length_cons]); omega

theorem power_cramped {room wide : Nat} (within : room ≤ wide) (tokens : List Token) :
    Cramped (outcome (readPower finish room tokens)) (outcome (readPower finish wide tokens)) := by
  rw [outcome_read_power, outcome_read_power]
  apply (postfix_cramped within tokens).bind
  rintro ⟨base, rest⟩ read
  cases rest with
  | nil => exact cramped_same _
  | cons sign behind =>
      have fewer : behind.length + 1 < tokens.length := outcome_shorter read
      dsimp only
      by_cases isPower : sign.kind.isPower = true
      · rw [if_pos isPower, if_pos isPower]
        exact (unary_cramped within behind).map
      · rw [if_neg isPower, if_neg isPower]
        exact cramped_same _
termination_by 16 * tokens.length + 4
decreasing_by all_goals omega

theorem postfix_cramped {room wide : Nat} (within : room ≤ wide) (tokens : List Token) :
    Cramped (outcome (readPostfix finish room tokens))
      (outcome (readPostfix finish wide tokens)) := by
  rw [outcome_read_postfix_chain, outcome_read_postfix_chain]
  apply (primary_cramped within tokens).bind
  rintro ⟨primary, rest⟩ read
  have fewer := outcome_shorter read
  exact suffixes_cramped within primary rest
termination_by 16 * tokens.length + 3
decreasing_by all_goals omega

theorem suffixes_cramped {room wide : Nat} (within : room ≤ wide) (target : Formula Span)
    (tokens : List Token) :
    Cramped (outcome (readSuffixes finish room target tokens))
      (outcome (readSuffixes finish wide target tokens)) := by
  cases tokens with
  | nil =>
      rw [outcome_read_suffixes_nil, outcome_read_suffixes_nil]
      exact cramped_same _
  | cons next rest =>
      by_cases goesOn : continuesPostfix target next.kind = true
      · simp only [continuesPostfix, Bool.or_eq_true, beq_iff_eq, Bool.and_eq_true] at goesOn
        rcases goesOn with (opens | isDot) | ⟨opens, named⟩
        · rw [outcome_read_suffixes_index finish room target rest opens,
            outcome_read_suffixes_index finish wide target rest opens]
          apply (items_cramped within .rightBracket "']'" rest).bind
          rintro ⟨indices, behind⟩ read
          have fewer : behind.length < rest.length := outcome_shorter read
          exact suffixes_cramped within _ behind
        · rw [outcome_read_suffixes_member finish room target rest isDot,
            outcome_read_suffixes_member finish wide target rest isDot]
          apply (cramped_same (outcome (expect finish .identifier "identifier" rest))).bind
          rintro ⟨name, behind⟩ read
          have fewer : behind.length < rest.length := outcome_shorter read
          exact suffixes_cramped within _ behind
        · cases target with
          | symbol place name =>
              rw [outcome_read_suffixes_call finish room place name rest opens,
                outcome_read_suffixes_call finish wide place name rest opens]
              apply (items_cramped within .rightParenthesis "')'" rest).bind
              rintro ⟨arguments, behind⟩ read
              have fewer : behind.length < rest.length := outcome_shorter read
              exact suffixes_cramped within _ behind
          | _ => contradiction
      · have stops : continuesPostfix target next.kind = false := by simpa using goesOn
        rw [outcome_read_suffixes_stop finish room rest stops,
          outcome_read_suffixes_stop finish wide rest stops]
        exact cramped_same _
termination_by 16 * tokens.length
decreasing_by
  all_goals subst_vars
  all_goals (try simp only [List.length_cons]); omega

theorem items_cramped {room wide : Nat} (within : room ≤ wide) (closing : TokenKind)
    (what : String) (tokens : List Token) :
    Cramped (outcome (readItems finish room closing what tokens))
      (outcome (readItems finish wide closing what tokens)) := by
  cases tokens with
  | nil =>
      rw [outcome_read_items_nil, outcome_read_items_nil]
      apply sequence_cramped finish (range_cramped within [])
      intro rest fewer
      contradiction
  | cons next rest =>
      rw [outcome_read_items_cons, outcome_read_items_cons]
      by_cases closes : next.kind = closing
      · rw [if_pos closes, if_pos closes]
        exact cramped_same _
      · rw [if_neg closes, if_neg closes]
        apply sequence_cramped finish (range_cramped within (next :: rest))
        intro behind fewer
        exact more_items_cramped within closing what behind
termination_by 16 * tokens.length + 9
decreasing_by
  all_goals subst_vars
  all_goals (try simp only [List.length_cons] at *); omega

theorem more_items_cramped {room wide : Nat} (within : room ≤ wide) (closing : TokenKind)
    (what : String) (tokens : List Token) :
    Cramped (outcome (readMoreItems finish room closing what tokens))
      (outcome (readMoreItems finish wide closing what tokens)) := by
  cases tokens with
  | nil =>
      rw [outcome_read_more_items_nil, outcome_read_more_items_nil]
      exact cramped_same _
  | cons next rest =>
      rw [outcome_read_more_items_cons, outcome_read_more_items_cons]
      by_cases isComma : next.kind = .comma
      · rw [if_pos isComma, if_pos isComma]
        exact sequence_cramped finish (range_cramped within rest)
          fun behind fewer => more_items_cramped within closing what behind
      · rw [if_neg isComma, if_neg isComma]
        exact cramped_same _
termination_by 16 * tokens.length
decreasing_by
  all_goals subst_vars
  all_goals (try simp only [List.length_cons]); omega

theorem primary_cramped {room wide : Nat} (within : room ≤ wide) (tokens : List Token) :
    Cramped (outcome (readPrimary finish room tokens))
      (outcome (readPrimary finish wide tokens)) := by
  cases tokens with
  | nil =>
      rw [outcome_read_primary_nil, outcome_read_primary_nil]
      exact cramped_same _
  | cons next rest =>
      by_cases starts : startsPrimary next.kind = true
      · simp only [startsPrimary, Bool.or_eq_true, beq_iff_eq] at starts
        rcases starts with (((isNumber | isName) | opens) | opens) | opens
        · rw [outcome_read_primary_number finish room rest isNumber,
            outcome_read_primary_number finish wide rest isNumber]
          exact cramped_same _
        · rw [outcome_read_primary_name finish room rest isName,
            outcome_read_primary_name finish wide rest isName]
          exact cramped_same _
        · rw [outcome_read_primary_group finish room rest opens,
            outcome_read_primary_group finish wide rest opens]
          apply (assignment_cramped within rest).bind
          intro inner _
          exact cramped_same _
        · rw [outcome_read_primary_array finish room rest opens,
            outcome_read_primary_array finish wide rest opens]
          exact (items_cramped within .rightBracket "']'" rest).map
        · cases closed : closedBy? .rightBrace rest with
          | some taken =>
              cases rest with
              | nil => contradiction
              | cons close last =>
                  by_cases closes : close.kind = .rightBrace
                  · rw [outcome_read_primary_empty_object finish room last opens closes,
                      outcome_read_primary_empty_object finish wide last opens closes]
                    exact cramped_same _
                  · simp [closedBy?, closes] at closed
          | none =>
              rw [outcome_read_primary_object finish room opens closed,
                outcome_read_primary_object finish wide opens closed]
              exact (entries_cramped within rest).map
      · have stops : startsPrimary next.kind = false := by simpa using starts
        rw [outcome_read_primary_stop finish room rest stops,
          outcome_read_primary_stop finish wide rest stops]
        exact cramped_same _
termination_by 16 * tokens.length + 2
decreasing_by
  all_goals subst_vars
  all_goals (try simp only [List.length_cons]); omega

theorem entries_cramped {room wide : Nat} (within : room ≤ wide) (tokens : List Token) :
    Cramped (outcome (readEntries finish room tokens))
      (outcome (readEntries finish wide tokens)) := by
  rw [outcome_read_entries, outcome_read_entries]
  apply (cramped_same (outcome (expect finish .identifier "property name" tokens))).bind
  rintro ⟨key, afterKey⟩ readKey
  have shorter := outcome_shorter readKey
  apply (cramped_same (outcome (expect finish .colon "':'" afterKey))).bind
  rintro ⟨colon, afterColon⟩ readColon
  have fewer := outcome_shorter readColon
  apply (binary_cramped within 0 afterColon).bind
  rintro ⟨value, behind⟩ readValue
  have fewest := outcome_shorter readValue
  cases behind with
  | nil => exact cramped_same _
  | cons next last =>
      dsimp only
      by_cases isComma : next.kind = .comma
      · rw [if_pos isComma, if_pos isComma]
        exact (entries_cramped within last).map
      · rw [if_neg isComma, if_neg isComma]
        exact cramped_same _
termination_by 16 * tokens.length
decreasing_by
  all_goals subst_vars
  all_goals (try simp only [List.length_cons] at *); omega

end

end FormulaPlot.Formula

namespace FormulaPlot.Grammar

open FormulaPlot.Formula

set_option autoImplicit false

section Deep

variable (finish : Span)

/-- A statement that needs more room than there is is too deep. -/
theorem Statement.front_cramped {room : Nat} {tokens : List Token} {formula : Formula Span}
    (derived : Statement room tokens formula) {rest : List Token}
    (ends : Before endsStatement rest) :
    Cramped (outcome (readAssignment finish mostNested (tokens ++ rest)))
      (.ok (formula, rest)) := by
  have wide := derived.widen (Nat.le_max_right mostNested room)
  have cramped := assignment_cramped finish (Nat.le_max_left mostNested room) (tokens ++ rest)
  rw [Statement.read finish rest wide ends] at cramped
  exact cramped

theorem Following.cramped {room : Nat} {tokens : List Token} {statements : List (Formula Span)}
    (derived : Following room tokens statements) :
    Cramped (readStatements finish tokens) (.ok (statements, [])) := by
  induction derived with
  | none separators => exact .inl (Following.read (.none separators))
  | @more separated head tail statement statements separators present derived others induction =>
      cases separated with
      | nil => exact absurd rfl present
      | cons next rest =>
          have dropped : (rest ++ (head ++ tail)).dropWhile (fun token => token.kind.isSeparator) =
              head ++ tail := by
            rw [Separators.drop
              (fun token member => separators token (List.mem_cons_of_mem next member))]
            exact derived.not_dropped tail
          have something : (head ++ tail).isEmpty = false := by
            obtain ⟨first, behind, rfl, _⟩ := derived.starts
            rfl
          rw [List.cons_append, read_statements_cons, if_pos (separators next List.mem_cons_self),
            dropped, something]
          exact (derived.front_cramped finish others.ends).bind_ok induction.map

/-- A text that needs more room than there is is too deep. -/
theorem Body.cramped {room : Nat} {tokens : List Token} {formula : Formula Span}
    (derived : Body room tokens formula) : Cramped (readBody finish tokens) (.ok formula) := by
  rw [read_body_eq]
  cases derived with
  | @statement separated tokens _ separators derived =>
      have dropped := derived.not_dropped []
      have front := derived.front_cramped finish (show Before endsStatement [] from trivial)
      rw [List.append_nil] at dropped front
      rw [Separators.drop separators, dropped]
      apply front.bind_ok
      rw [read_statements_nil]
      exact cramped_same _
  | @block separated head tail first last statement statements separators derived others
      present isFirst isLast =>
      have separates : startsWithSeparator tail = true := by
        cases tail with
        | nil => exact absurd rfl present
        | cons next rest => exact others.starts next rfl
      rw [text_span_eq finish isFirst isLast, Separators.drop separators, derived.not_dropped]
      apply (derived.front_cramped finish others.ends).bind_ok
      apply (others.cramped finish).bind_ok
      rw [separates]
      exact cramped_same _

end Deep

end FormulaPlot.Grammar
