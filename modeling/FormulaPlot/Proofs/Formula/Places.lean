import FormulaPlot.Formula.Diagnostic
import FormulaPlot.Proofs.Formula.Bodies
import FormulaPlot.Proofs.Formula.Front
import FormulaPlot.Proofs.Formula.Spans

/-!
Places that are named in faults. Every token stands in the text where its span says, and what is
wrong with tokens is said of one of them, so that a fault points into the text that was read.
-/

namespace FormulaPlot

open FormulaPlot.Text

set_option autoImplicit false

/-- A token stands where its span says. The lexeme shown for a line end does not stand anywhere. -/
def Token.StandsIn (characters : List Char) (token : Token) : Prop :=
  token.lexeme = Scanning.newlineLexeme ∨
    token.lexeme.toList <+: characters.drop token.span.start.offset

namespace Scanning

/-- Characters that the signs of operators are made of. -/
def operatorCharacters : List Char :=
  ['+', '-', '*', '/', '%', '^', '<', '>', '=', '!', '(', ')', '[', ']', '{', '}', ',', ':', ';',
    '.']

/-- Characters that lexemes are made of. -/
def isLexical (character : Char) : Bool :=
  isNumeric character || isWordCharacter character || operatorCharacters.contains character

theorem operator_of_pair {character next : Char} {kind : TokenKind}
    (pair : TokenKind.ofPair? character next = some kind) :
    character ∈ operatorCharacters ∧ next ∈ operatorCharacters := by
  unfold TokenKind.ofPair? at pair
  split at pair
  case h_6 => contradiction
  all_goals exact ⟨by decide, by decide⟩

theorem operator_of_character {character : Char} {kind : TokenKind}
    (single : TokenKind.ofCharacter? character = some kind) : character ∈ operatorCharacters := by
  unfold TokenKind.ofCharacter? at single
  split at single
  case h_20 => contradiction
  all_goals decide

theorem lexical_of_operator {part : Char} (operator : part ∈ operatorCharacters) :
    isLexical part = true := by
  unfold isLexical
  rw [List.contains_iff_mem.mpr operator, Bool.or_true]

theorem lexical_of_lexeme {character : Char} {rest : List Char} {kind : TokenKind} {more : Nat}
    (found : front character rest = .lexeme kind more) :
    ∀ part ∈ character :: rest.take more, isLexical part = true := by
  rcases front_cases found with
    ⟨_, starts, rfl⟩ | ⟨_, starts, rfl⟩ | ⟨next, tail, rfl, pair, rfl⟩ | ⟨single, rfl⟩
  · intro part member
    simp [isLexical, numeric_lexeme starts part member]
  · rw [take_while_length]
    have words : ∀ part ∈ character :: rest.takeWhile isWordCharacter,
        isWordCharacter part = true :=
      List.forall_mem_cons.mpr ⟨word_of_name starts, List.all_eq_true.mp List.all_takeWhile⟩
    intro part member
    simp [isLexical, words part member]
  · have operators := operator_of_pair pair
    exact List.forall_mem_cons.mpr ⟨lexical_of_operator operators.1,
      List.forall_mem_singleton.mpr (lexical_of_operator operators.2)⟩
  · exact List.forall_mem_singleton.mpr (lexical_of_operator (operator_of_character single))

end Scanning

/-- What was scanned stands in a text, and an unexpected character is one of it. -/
structure Scanned.Stands (characters : List Char) (scanned : Scanned) : Prop where
  token : ∀ token ∈ scanned.tokens, token.StandsIn characters ∧ '\'' ∉ token.lexeme.toList
  fault : ∀ character span, scanned.fault = some (.unexpectedCharacter character span) →
    characters[span.start.offset]? = some character

namespace Scanning

theorem stands_cons {characters : List Char} {token : Token} {scanned : Scanned}
    (first : token.StandsIn characters) (unquoted : '\'' ∉ token.lexeme.toList)
    (others : scanned.Stands characters) : (Scanned.cons token scanned).Stands characters where
  token := List.forall_mem_cons.mpr ⟨⟨first, unquoted⟩, others.token⟩
  fault := others.fault

theorem drop_next {characters rest : List Char} {here : Location} {character : Char}
    (stands : characters.drop here.offset = character :: rest) :
    characters.drop (here.next character).offset = rest := by
  rw [Location.next_offset, ← List.drop_drop, stands]
  rfl

theorem scan_stands (characters : List Char) (here : Location) (depth : Nat) (rest : List Char)
    (stands : characters.drop here.offset = rest) :
    (scanFrom here depth rest).Stands characters := by
  fun_induction scanFrom here depth rest with
  | case1 here depth =>
      constructor
      · intro token mem
        rw [List.mem_singleton.mp mem]
        exact ⟨.inr List.nil_prefix, List.not_mem_nil⟩
      · intro character span fault
        contradiction
  | case2 here depth character rest next gap induction => exact induction (drop_next stands)
  | case3 here depth rest deep next noGap induction => exact induction (drop_next stands)
  | case4 here depth rest flat next noGap induction =>
      have unquoted : '\'' ∉ newlineLexeme.toList := by decide
      exact stands_cons (.inl rfl) unquoted (induction (drop_next stands))
  | case5 here depth character rest noGap noNewline kind more found lexeme stop induction =>
      have behind : characters.drop stop.offset = rest.drop more := by
        rw [Location.after_offset, ← List.drop_drop, stands, List.length_cons,
          List.length_take, Nat.min_eq_left (front_within found)]
        rfl
      apply stands_cons _ _ (induction behind)
      · right
        rw [String.toList_ofList, stands]
        exact List.cons_prefix_cons.mpr ⟨rfl, List.take_prefix more rest⟩
      · rw [String.toList_ofList]
        intro quote
        exact absurd (lexical_of_lexeme found _ quote) (by decide)
  | case6 here depth character rest noGap noNewline more found lexeme =>
      constructor
      · intro token mem
        contradiction
      · intro other span fault
        simp [Scanned.failed] at fault
  | case7 here depth character rest next noGap noNewline found =>
      constructor
      · intro token mem
        contradiction
      · intro other span fault
        simp only [Scanned.failed, Option.some.injEq, LexicalFault.unexpectedCharacter.injEq]
          at fault
        obtain ⟨rfl, rfl⟩ := fault
        rw [← List.head?_drop, stands]
        rfl

end Scanning

theorem bind_eq_error_iff {ε α β : Type} {first : Except ε α} {next : α → Except ε β} {fault : ε} :
    first.bind next = .error fault ↔
      first = .error fault ∨ ∃ value, first = .ok value ∧ next value = .error fault := by
  cases first with
  | error found => simp [Except.bind]
  | ok value => simp [Except.bind]

namespace Formula

/-- What is wrong with tokens is said of one of them, of some that stand together, or of the end
behind them all. Nothing is said of any place when there are too many calls; no reading finds that
itself. -/
def Blames (finish : Span) (tokens : List Token) : SyntaxFault → Prop
  | .unexpectedToken what found span =>
      ',' ∉ what.toList ∧ ∃ token ∈ tokens, token.lexeme = found ∧ token.span = span
  | .unexpectedEnd _ span => span = finish
  | .invalidTarget span => ∃ part, part <:+: tokens ∧ Grammar.Spans part span
  | .tooDeep span => span = finish ∨ ∃ part, part <:+: tokens ∧ Grammar.Spans part span
  | .exhausted => False

/-- Tokens are read up to a rest of them, or what is wrong is said of them. -/
def Keeps {α : Type} (finish : Span) (tokens : List Token) :
    Except SyntaxFault (α × List Token) → Prop
  | .ok (_, rest) => rest <:+ tokens
  | .error fault => Blames finish tokens fault

theorem suffix_behind {token : Token} {rest tokens : List Token}
    (within : token :: rest <:+ tokens) : rest <:+ tokens :=
  (List.suffix_cons token rest).trans within

section Keeping

variable {α β : Type} {finish : Span} {tokens others : List Token}

theorem Blames.mono {fault : SyntaxFault} (blames : Blames finish others fault)
    (within : others <:+: tokens) : Blames finish tokens fault := by
  cases fault with
  | unexpectedToken what found span =>
      obtain ⟨plain, token, mem, shown⟩ := blames
      exact ⟨plain, token, within.subset mem, shown⟩
  | unexpectedEnd what span => exact blames
  | invalidTarget span =>
      obtain ⟨part, inside, spans⟩ := blames
      exact ⟨part, inside.trans within, spans⟩
  | tooDeep span =>
      refine blames.imp_right ?_
      rintro ⟨part, inside, spans⟩
      exact ⟨part, inside.trans within, spans⟩
  | exhausted => exact blames

theorem blames_span_at (within : others <:+ tokens) :
    Blames finish tokens (.tooDeep (spanAt finish others)) := by
  cases others with
  | nil => exact .inl rfl
  | cons token rest =>
      have first : [token] <:+: token :: rest := (List.prefix_append [token] rest).isInfix
      exact .inr ⟨[token], first.trans within.isInfix, Grammar.spans_token token⟩

variable {reading : Except SyntaxFault (α × List Token)}

theorem Keeps.mono (keeps : Keeps finish others reading) (within : others <:+ tokens) :
    Keeps finish tokens reading := by
  cases reading with
  | error fault => exact Blames.mono keeps within.isInfix
  | ok read => exact List.IsSuffix.trans keeps within

theorem Keeps.bind {next : α × List Token → Except SyntaxFault (β × List Token)}
    (keeps : Keeps finish tokens reading)
    (goesOn : ∀ value rest, reading = .ok (value, rest) → rest <:+ tokens →
      Keeps finish tokens (next (value, rest))) : Keeps finish tokens (reading.bind next) := by
  cases reading with
  | error fault => exact keeps
  | ok read => exact goesOn read.1 read.2 rfl keeps

theorem Keeps.map {change : α × List Token → β × List Token} (keeps : Keeps finish tokens reading)
    (same : ∀ read, (change read).2 = read.2) : Keeps finish tokens (reading.map change) := by
  cases reading with
  | error fault => exact keeps
  | ok read =>
      show (change read).2 <:+ tokens
      rw [same]
      exact keeps

variable (finish)

theorem keeps_expected {what : String} (plain : ',' ∉ what.toList) (within : others <:+ tokens) :
    Keeps finish tokens (expected finish what others : Except SyntaxFault (α × List Token)) := by
  cases others with
  | nil => rfl
  | cons token rest => exact ⟨plain, token, within.subset List.mem_cons_self, rfl, rfl⟩

theorem keeps_expect (kind : TokenKind) {what : String} (plain : ',' ∉ what.toList)
    (tokens : List Token) : Keeps finish tokens (outcome (expect finish kind what tokens)) := by
  cases tokens with
  | nil => rfl
  | cons token rest =>
      rw [outcome_expect_cons]
      split
      · exact List.suffix_cons token rest
      · exact keeps_expected finish plain (List.suffix_refl _)

theorem keeps_assign {target value : Formula Span} {part : List Token} (inside : part <:+: tokens)
    (spans : Grammar.Spans part target.place) (within : others <:+ tokens) :
    Keeps finish tokens ((assign target value).map fun formula => (formula, others)) := by
  have blames : Blames finish tokens (.invalidTarget target.place) := ⟨part, inside, spans⟩
  unfold assign
  split
  · split
    · exact within
    · exact blames
  all_goals first | exact within | exact blames

end Keeping

variable (finish : Span)

theorem sequence_keeps {room : Nat} {closing : TokenKind} {what : String} {tokens : List Token}
    (itemKeeps : Keeps finish tokens (outcome (readRange finish room tokens)))
    (moreKeeps : ∀ rest : List Token, rest.length < tokens.length →
      Keeps finish rest (outcome (readMoreItems finish room closing what rest))) :
    Keeps finish tokens (sequenceOutcome finish room closing what tokens) := by
  apply itemKeeps.bind
  intro item rest read left
  exact ((moreKeeps rest (outcome_shorter read)).mono left).map fun _ => rfl

mutual

theorem assignment_keeps (room : Nat) (tokens : List Token) :
    Keeps finish tokens (outcome (readAssignment finish room tokens)) := by
  rw [outcome_read_assignment]
  apply (range_keeps room tokens).bind
  intro target rest read left
  cases rest with
  | nil => exact left
  | cons sign behind =>
      have fewer : behind.length + 1 < tokens.length := outcome_shorter read
      dsimp only
      split
      · cases room with
        | zero => exact blames_span_at (suffix_behind left)
        | succ room =>
            obtain ⟨used, parted, derived⟩ := Grammar.range_of_read read
            have inside : used <:+: tokens := ⟨[], sign :: behind, parted.symm⟩
            have behindKeeps := assignment_keeps room behind
            apply (behindKeeps.mono (suffix_behind left)).bind
            intro value last _ leftLast
            exact keeps_assign finish inside derived.spans leftLast
      · exact left
termination_by 16 * tokens.length + 8
decreasing_by all_goals omega

theorem range_keeps (room : Nat) (tokens : List Token) :
    Keeps finish tokens (outcome (readRange finish room tokens)) := by
  rw [outcome_read_range]
  apply (binary_keeps room 0 tokens).bind
  intro first rest read left
  cases rest with
  | nil => exact left
  | cons colon behind =>
      have fewer : behind.length + 1 < tokens.length := outcome_shorter read
      dsimp only
      split
      · have behindKeeps := binary_keeps room 0 behind
        apply (behindKeeps.mono (suffix_behind left)).bind
        intro second last readLast leftLast
        cases last with
        | nil => exact leftLast
        | cons next more =>
            have fewest : more.length + 1 < behind.length := outcome_shorter readLast
            dsimp only
            split
            · have moreKeeps := binary_keeps room 0 more
              exact (moreKeeps.mono (suffix_behind leftLast)).map fun _ => rfl
            · exact leftLast
      · exact left
termination_by 16 * tokens.length + 7
decreasing_by all_goals omega

theorem binary_keeps (room least : Nat) (tokens : List Token) :
    Keeps finish tokens (outcome (readBinary finish room least tokens)) := by
  rw [outcome_read_binary]
  apply (unary_keeps room tokens).bind
  intro left rest read kept
  have fewer := outcome_shorter read
  exact (operators_keeps room least left rest).mono kept
termination_by 16 * tokens.length + 6
decreasing_by all_goals omega

theorem operators_keeps (room least : Nat) (left : Formula Span) (tokens : List Token) :
    Keeps finish tokens (outcome (readOperators finish room least left tokens)) := by
  cases tokens with
  | nil =>
      rw [outcome_read_operators_nil]
      exact List.suffix_refl _
  | cons next rest =>
      rw [outcome_read_operators_cons]
      split
      · split
        · apply (power_keeps room (next :: rest)).bind
          intro right behind read kept
          have fewer : behind.length < rest.length + 1 := outcome_shorter read
          exact (operators_keeps room least (joined .star left right) behind).mono kept
        · exact List.suffix_refl _
      · next precedence _ =>
          split
          · exact List.suffix_refl _
          · have restKeeps := binary_keeps room (precedence + 1) rest
            apply (restKeeps.mono (List.suffix_cons next rest)).bind
            intro right behind read kept
            have fewer : behind.length < rest.length := outcome_shorter read
            exact (operators_keeps room least (joined next.kind left right) behind).mono kept
termination_by 16 * tokens.length + 5
decreasing_by
  all_goals subst_vars
  all_goals (try simp only [List.length_cons]); omega

theorem unary_keeps (room : Nat) (tokens : List Token) :
    Keeps finish tokens (outcome (readUnary finish room tokens)) := by
  cases room with
  | zero =>
      rw [outcome_read_unary_zero]
      exact blames_span_at (List.suffix_refl _)
  | succ room =>
      cases tokens with
      | nil =>
          rw [outcome_read_unary_nil]
          exact power_keeps room []
      | cons sign rest =>
          rw [outcome_read_unary_cons]
          split
          · have restKeeps := unary_keeps room rest
            exact (restKeeps.mono (List.suffix_cons sign rest)).map fun _ => rfl
          · exact power_keeps room (sign :: rest)
termination_by 16 * tokens.length + 5
decreasing_by
  all_goals subst_vars
  all_goals (try simp only [List.length_cons]); omega

theorem power_keeps (room : Nat) (tokens : List Token) :
    Keeps finish tokens (outcome (readPower finish room tokens)) := by
  rw [outcome_read_power]
  apply (postfix_keeps room tokens).bind
  intro base rest read left
  cases rest with
  | nil => exact left
  | cons sign behind =>
      have fewer : behind.length + 1 < tokens.length := outcome_shorter read
      dsimp only
      split
      · have behindKeeps := unary_keeps room behind
        exact (behindKeeps.mono (suffix_behind left)).map fun _ => rfl
      · exact left
termination_by 16 * tokens.length + 4
decreasing_by all_goals omega

theorem postfix_keeps (room : Nat) (tokens : List Token) :
    Keeps finish tokens (outcome (readPostfix finish room tokens)) := by
  rw [outcome_read_postfix_chain]
  apply (primary_keeps room tokens).bind
  intro primary rest read left
  have fewer := outcome_shorter read
  exact (suffixes_keeps room primary rest).mono left
termination_by 16 * tokens.length + 3
decreasing_by all_goals omega

theorem suffixes_keeps (room : Nat) (target : Formula Span) (tokens : List Token) :
    Keeps finish tokens (outcome (readSuffixes finish room target tokens)) := by
  cases tokens with
  | nil =>
      rw [outcome_read_suffixes_nil]
      exact List.suffix_refl _
  | cons next rest =>
      by_cases goesOn : continuesPostfix target next.kind = true
      · simp only [continuesPostfix, Bool.or_eq_true, beq_iff_eq, Bool.and_eq_true] at goesOn
        rcases goesOn with (opens | isDot) | ⟨opens, named⟩
        · rw [outcome_read_suffixes_index finish room target rest opens]
          have plain : ',' ∉ "']'".toList := by decide
          have restKeeps := items_keeps room .rightBracket plain rest
          apply (restKeeps.mono (List.suffix_cons next rest)).bind
          intro indices behind read left
          have fewer : behind.length < rest.length := outcome_shorter read
          exact (suffixes_keeps room _ behind).mono left
        · rw [outcome_read_suffixes_member finish room target rest isDot]
          have plain : ',' ∉ "identifier".toList := by decide
          have restKeeps := keeps_expect finish .identifier plain rest
          apply (restKeeps.mono (List.suffix_cons next rest)).bind
          intro name behind read left
          have fewer : behind.length < rest.length := outcome_shorter read
          exact (suffixes_keeps room _ behind).mono left
        · cases target with
          | symbol place name =>
              rw [outcome_read_suffixes_call finish room place name rest opens]
              have plain : ',' ∉ "')'".toList := by decide
              have restKeeps := items_keeps room .rightParenthesis plain rest
              apply (restKeeps.mono (List.suffix_cons next rest)).bind
              intro arguments behind read left
              have fewer : behind.length < rest.length := outcome_shorter read
              exact (suffixes_keeps room _ behind).mono left
          | _ => contradiction
      · have stops : continuesPostfix target next.kind = false := by simpa using goesOn
        rw [outcome_read_suffixes_stop finish room rest stops]
        exact List.suffix_refl _
termination_by 16 * tokens.length
decreasing_by
  all_goals subst_vars
  all_goals (try simp only [List.length_cons]); omega

theorem items_keeps (room : Nat) (closing : TokenKind) {what : String}
    (plain : ',' ∉ what.toList) (tokens : List Token) :
    Keeps finish tokens (outcome (readItems finish room closing what tokens)) := by
  cases tokens with
  | nil =>
      rw [outcome_read_items_nil]
      apply sequence_keeps finish (range_keeps room [])
      intro rest fewer
      contradiction
  | cons next rest =>
      rw [outcome_read_items_cons]
      split
      · exact List.suffix_cons next rest
      · apply sequence_keeps finish (range_keeps room (next :: rest))
        intro behind fewer
        exact more_items_keeps room closing plain behind
termination_by 16 * tokens.length + 9
decreasing_by
  all_goals subst_vars
  all_goals (try simp only [List.length_cons] at *); omega

theorem more_items_keeps (room : Nat) (closing : TokenKind) {what : String}
    (plain : ',' ∉ what.toList) (tokens : List Token) :
    Keeps finish tokens (outcome (readMoreItems finish room closing what tokens)) := by
  cases tokens with
  | nil =>
      rw [outcome_read_more_items_nil]
      exact keeps_expected finish plain (List.suffix_refl _)
  | cons next rest =>
      rw [outcome_read_more_items_cons]
      split
      · have restKeeps := sequence_keeps finish (range_keeps room rest)
          fun behind fewer => more_items_keeps room closing plain behind
        exact restKeeps.mono (List.suffix_cons next rest)
      · split
        · exact List.suffix_cons next rest
        · exact keeps_expected finish plain (List.suffix_refl _)
termination_by 16 * tokens.length
decreasing_by
  all_goals subst_vars
  all_goals (try simp only [List.length_cons]); omega

theorem primary_keeps (room : Nat) (tokens : List Token) :
    Keeps finish tokens (outcome (readPrimary finish room tokens)) := by
  have plain : ',' ∉ "expression".toList := by decide
  cases tokens with
  | nil =>
      rw [outcome_read_primary_nil]
      exact keeps_expected finish plain (List.suffix_refl _)
  | cons next rest =>
      have within := List.suffix_cons next rest
      by_cases starts : startsPrimary next.kind = true
      · simp only [startsPrimary, Bool.or_eq_true, beq_iff_eq] at starts
        rcases starts with (((isNumber | isName) | opens) | opens) | opens
        · rw [outcome_read_primary_number finish room rest isNumber]
          exact within
        · rw [outcome_read_primary_name finish room rest isName]
          exact within
        · rw [outcome_read_primary_group finish room rest opens]
          apply ((assignment_keeps room rest).mono within).bind
          intro inner behind read left
          have closePlain : ',' ∉ "')'".toList := by decide
          have closeKeeps := keeps_expect finish .rightParenthesis closePlain behind
          exact (closeKeeps.mono left).map fun _ => rfl
        · rw [outcome_read_primary_array finish room rest opens]
          have closePlain : ',' ∉ "']'".toList := by decide
          have restKeeps := items_keeps room .rightBracket closePlain rest
          exact (restKeeps.mono within).map fun _ => rfl
        · cases closed : closedBy? .rightBrace rest with
          | some taken =>
              cases rest with
              | nil => contradiction
              | cons close last =>
                  by_cases closes : close.kind = .rightBrace
                  · rw [outcome_read_primary_empty_object finish room last opens closes]
                    exact suffix_behind within
                  · simp [closedBy?, closes] at closed
          | none =>
              rw [outcome_read_primary_object finish room opens closed]
              exact ((entries_keeps room rest).mono within).map fun _ => rfl
      · have stops : startsPrimary next.kind = false := by simpa using starts
        rw [outcome_read_primary_stop finish room rest stops]
        exact keeps_expected finish plain (List.suffix_refl _)
termination_by 16 * tokens.length + 2
decreasing_by
  all_goals subst_vars
  all_goals (try simp only [List.length_cons]); omega

theorem entries_keeps (room : Nat) (tokens : List Token) :
    Keeps finish tokens (outcome (readEntries finish room tokens)) := by
  have keyPlain : ',' ∉ "property name".toList := by decide
  have colonPlain : ',' ∉ "':'".toList := by decide
  have closePlain : ',' ∉ closingBrace.toList := by decide
  rw [outcome_read_entries]
  apply (keeps_expect finish .identifier keyPlain tokens).bind
  intro key afterKey readKey leftKey
  have shorter := outcome_shorter readKey
  apply ((keeps_expect finish .colon colonPlain afterKey).mono leftKey).bind
  intro colon afterColon readColon leftColon
  have fewer := outcome_shorter readColon
  apply ((binary_keeps room 0 afterColon).mono leftColon).bind
  intro value behind readValue left
  have fewest := outcome_shorter readValue
  cases behind with
  | nil => exact keeps_expected finish closePlain left
  | cons next last =>
      dsimp only
      split
      · have lastKeeps := entries_keeps room last
        exact (lastKeeps.mono (suffix_behind left)).map fun _ => rfl
      · split
        · exact suffix_behind left
        · exact keeps_expected finish closePlain left
termination_by 16 * tokens.length
decreasing_by
  all_goals subst_vars
  all_goals (try simp only [List.length_cons] at *); omega

end

theorem statements_keep (tokens : List Token) :
    Keeps finish tokens (readStatements finish tokens) := by
  cases tokens with
  | nil =>
      rw [read_statements_nil]
      exact List.suffix_refl _
  | cons next rest =>
      have suffix := List.dropWhile_suffix (l := rest) fun token => token.kind.isSeparator
      rw [read_statements_cons]
      split
      · split
        · exact List.nil_suffix
        · have within := suffix.trans (List.suffix_cons next rest)
          apply ((assignment_keeps finish mostNested _).mono within).bind
          intro statement behind read left
          have shorter := Nat.lt_of_lt_of_le (outcome_shorter read) suffix.length_le
          exact ((statements_keep behind).mono left).map fun _ => rfl
      · exact List.suffix_refl _
termination_by tokens.length
decreasing_by
  all_goals subst_vars
  all_goals simp only [List.length_cons]; omega

theorem body_blames {tokens : List Token} {fault : SyntaxFault}
    (refused : readBody finish tokens = .error fault) : Blames finish tokens fault := by
  have suffix := List.dropWhile_suffix (l := tokens) fun token => token.kind.isSeparator
  have firstKeeps := (assignment_keeps finish mostNested
    (tokens.dropWhile fun token => token.kind.isSeparator)).mono suffix
  rw [read_body_eq, bind_eq_error_iff] at refused
  rcases refused with early | ⟨⟨first, behind⟩, read, refused⟩
  · rw [early] at firstKeeps
    exact firstKeeps
  · rw [read] at firstKeeps
    have othersKeep := (statements_keep finish behind).mono firstKeeps
    rw [bind_eq_error_iff] at refused
    rcases refused with early | ⟨⟨others, rest⟩, readOthers, refused⟩
    · rw [early] at othersKeep
      exact othersKeep
    · rw [readOthers] at othersKeep
      cases rest with
      | nil =>
          dsimp only at refused
          split at refused <;> contradiction
      | cons token rest =>
          injection refused with same
          rw [← same]
          exact ⟨by decide, token, othersKeep.subset List.mem_cons_self, rfl, rfl⟩

theorem body_spans {room : Nat} {tokens : List Token} {formula : Formula Span}
    (derived : Grammar.Body room tokens formula) :
    ∃ part, part <:+: tokens ∧ Grammar.Spans part formula.place := by
  cases derived with
  | statement separators statement =>
      exact ⟨_, (List.suffix_append _ _).isInfix, statement.spans⟩
  | block separators statement others present first last =>
      exact ⟨_, List.infix_refl _, _, _, first, last, rfl⟩

theorem of_tokens_blames {tokens : List Token} {fault : SyntaxFault}
    (refused : ofTokens tokens = .error fault) (reached : fault ≠ .exhausted) :
    Blames (textEnd tokens) tokens fault := by
  have before : beforeEnd tokens <:+: tokens := (List.takeWhile_prefix _).isInfix
  rw [of_tokens_eq] at refused
  split at refused
  · injection refused with same
    exact absurd same.symm reached
  · rcases bind_eq_error_iff.mp refused with found | ⟨formula, found, deep⟩
    · exact (body_blames _ found).mono before
    · split at deep
      · injection deep with same
        rw [← same]
        obtain ⟨part, inside, spans⟩ := body_spans (Grammar.body_of_read found)
        exact .inr ⟨part, inside.trans before, spans⟩
      · contradiction

/-- What a text is refused for when it is read is said of what stands in it. -/
def PointsInto (characters : List Char) : Problem → Prop
  | .lexical (.unexpectedCharacter character span) =>
      characters[span.start.offset]? = some character
  | .syntactic (.unexpectedToken what found span) =>
      ',' ∉ what.toList ∧ '\'' ∉ found.toList ∧
        (found = Scanning.newlineLexeme ∨ found.toList <+: characters.drop span.start.offset)
  | _ => True

theorem read_points_into {text : String} {problem : Problem}
    (refused : Formula.read text = .error problem) : PointsInto text.toList problem := by
  have stands : (scan text).Stands text.toList :=
    Scanning.scan_stands text.toList .start 0 text.toList rfl
  unfold Formula.read at refused
  split at refused
  · next fault scanned =>
      injection refused with same
      rw [← same]
      have isFault : (scan text).fault = some fault := by
        unfold tokenize at scanned
        split at scanned
        · next here =>
            injection scanned with same
            rw [here, same]
        · contradiction
      cases fault with
      | unexpectedCharacter character span => exact stands.fault character span isFault
      | invalidNumber lexeme span => trivial
  · next tokens scanned =>
      have isScan : (scan text).tokens = tokens := by
        unfold tokenize at scanned
        split at scanned
        · contradiction
        · injection scanned
      cases read : ofTokens tokens with
      | ok formula =>
          rw [read] at refused
          contradiction
      | error fault =>
          rw [read] at refused
          injection refused with same
          rw [← same]
          cases fault with
          | unexpectedToken what found span =>
              obtain ⟨plain, token, mem, rfl, rfl⟩ := of_tokens_blames read nofun
              rw [← isScan] at mem
              obtain ⟨here, unquoted⟩ := stands.token token mem
              exact ⟨plain, unquoted, here⟩
          | _ => trivial

end Formula

end FormulaPlot
