import FormulaPlot.Formula.Calls
import FormulaPlot.Proofs.Formula.Completeness
import FormulaPlot.Proofs.Formula.Nesting
import FormulaPlot.Proofs.Formula.Soundness

/-!
Whole texts. Their statements are read exactly when the grammar derives them, and no text has two
derivations.
-/

namespace FormulaPlot.Formula

open FormulaPlot.Grammar

set_option autoImplicit false

variable (finish : Span)

theorem read_statements_nil : readStatements finish [] = .ok ([], []) := by
  rw [readStatements]

theorem read_statements_cons (next : Token) (rest : List Token) :
    readStatements finish (next :: rest) =
      if next.kind.isSeparator = true then
        if (rest.dropWhile fun token => token.kind.isSeparator).isEmpty then .ok ([], [])
        else
          (outcome (readAssignment finish mostNested
            (rest.dropWhile fun token => token.kind.isSeparator))).bind fun statement =>
              (readStatements finish statement.2).map fun others =>
                (statement.1 :: others.1, others.2)
      else .ok ([], next :: rest) := by
  rw [readStatements]
  split
  · split
    · rfl
    · cases readAssignment finish mostNested
          (rest.dropWhile fun token => token.kind.isSeparator) with
      | error fault => rfl
      | ok taken =>
          obtain ⟨statement, behind, within⟩ := taken
          cases read : readStatements finish behind <;>
            simp [outcome, Except.map, Except.bind, read]
  · rfl

theorem read_body_eq (tokens : List Token) :
    readBody finish tokens =
      (outcome (readAssignment finish mostNested
        (tokens.dropWhile fun token => token.kind.isSeparator))).bind fun first =>
          (readStatements finish first.2).bind fun
            | (_, token :: rest) => expected finish "operator or end of expression" (token :: rest)
            | (others, []) =>
                if startsWithSeparator first.2 = true then
                  .ok (.block (textSpan finish tokens) (first.1 :: others))
                else .ok first.1 := by
  rw [readBody]
  cases readAssignment finish mostNested
      (tokens.dropWhile fun token => token.kind.isSeparator) with
  | error fault => rfl
  | ok taken =>
      obtain ⟨first, behind, within⟩ := taken
      cases read : readStatements finish behind with
      | error fault => simp [outcome, Except.map, Except.bind, read]
      | ok following =>
          obtain ⟨others, rest⟩ := following
          cases rest <;> simp [outcome, Except.map, Except.bind, read]

theorem text_span_eq {tokens : List Token} {first last : Token}
    (isFirst : tokens.head? = some first) (isLast : tokens.getLast? = some last) :
    textSpan finish tokens = first.span.through last.span := by
  cases tokens with
  | nil => simp at isFirst
  | cons next rest =>
      simp only [List.head?_cons, Option.some.injEq] at isFirst
      rw [textSpan, isLast, ← isFirst]
      rfl

/-- The tokens of a text up to the mark of its end. -/
def beforeEnd (tokens : List Token) : List Token :=
  tokens.takeWhile fun token => token.kind != .endOfText

/-- The place behind the tokens of a text. -/
def textEnd (tokens : List Token) : Span :=
  spanAt ⟨.start, .start⟩ (tokens.drop (beforeEnd tokens).length)

/-- The calls that are nested in each other when a text is read. -/
def textCalls (tokens : List Token) : Nat := bodyCalls (textEnd tokens) (beforeEnd tokens)

theorem of_tokens_eq (tokens : List Token) :
    ofTokens tokens =
      if mostCalls < textCalls tokens then .error .exhausted
      else
        (readBody (textEnd tokens) (beforeEnd tokens)).bind fun formula =>
          if greatestDepth < formula.depth then .error (.tooDeep formula.place)
          else .ok formula := by
  unfold textCalls textEnd beforeEnd
  cases read : readBody (spanAt ⟨.start, .start⟩
      (tokens.drop (tokens.takeWhile fun token => token.kind != .endOfText).length))
      (tokens.takeWhile fun token => token.kind != .endOfText) <;>
    simp only [ofTokens, read, Except.bind]

theorem before_end_append {front : List Token} {last : Token}
    (others : ∀ token ∈ front, token.kind ≠ .endOfText) (ends : last.kind = .endOfText) :
    beforeEnd (front ++ [last]) = front := by
  have all : ∀ token ∈ front, (token.kind != .endOfText) = true := by
    intro token member
    exact bne_iff_ne.mpr (others token member)
  unfold beforeEnd
  rw [List.takeWhile_append_of_pos all, List.takeWhile_cons_of_neg (by simp [ends]),
    List.append_nil]

end FormulaPlot.Formula

namespace FormulaPlot.Grammar

open FormulaPlot.Formula

set_option autoImplicit false

theorem Separators.split (tokens : List Token) :
    ∃ separators, Separators separators ∧
      tokens = separators ++ tokens.dropWhile fun token => token.kind.isSeparator := by
  refine ⟨tokens.takeWhile fun token => token.kind.isSeparator, ?_, ?_⟩
  · intro token member
    exact List.all_eq_true.mp List.all_takeWhile token member
  · exact List.takeWhile_append_dropWhile.symm

theorem Separators.drop {separators : List Token} (all : Separators separators)
    (tokens : List Token) :
    (separators ++ tokens).dropWhile (fun token => token.kind.isSeparator) =
      tokens.dropWhile fun token => token.kind.isSeparator :=
  List.dropWhile_append_of_pos all

theorem Statement.no_separator_first {room : Nat} {tokens : List Token} {formula : Formula Span}
    (derived : Statement room tokens formula) :
    ∃ first rest, tokens = first :: rest ∧ ¬first.kind.isSeparator = true := by
  obtain ⟨first, rest, same, starts⟩ := derived.starts
  refine ⟨first, rest, same, ?_⟩
  intro separates
  cases kind : first.kind <;> simp [kind, TokenKind.isSeparator] at separates <;>
    simp [kind, startsPrimary, TokenKind.isSign] at starts

theorem Statement.not_dropped {room : Nat} {tokens : List Token} {formula : Formula Span}
    (derived : Statement room tokens formula) (rest : List Token) :
    (tokens ++ rest).dropWhile (fun token => token.kind.isSeparator) = tokens ++ rest := by
  obtain ⟨first, behind, rfl, noSeparator⟩ := derived.no_separator_first
  exact List.dropWhile_cons_of_neg noSeparator

theorem Statement.not_separators {room : Nat} {separated tokens rest : List Token}
    {formula : Formula Span} (derived : Statement room tokens formula) :
    ¬Separators (separated ++ (tokens ++ rest)) := by
  obtain ⟨first, behind, rfl, noSeparator⟩ := derived.no_separator_first
  intro separators
  exact noSeparator (separators first (by simp))

theorem Following.starts {room : Nat} {tokens : List Token} {statements : List (Formula Span)}
    (derived : Following room tokens statements) :
    ∀ next ∈ tokens.head?, next.kind.isSeparator = true := by
  intro next first
  cases derived with
  | none separators => exact separators next (List.mem_of_mem_head? first)
  | more separators present statement others =>
      rename_i separated head tail statement statements
      cases separated with
      | nil => exact absurd rfl present
      | cons separator more =>
          simp only [List.cons_append, List.head?_cons, Option.mem_def, Option.some.injEq] at first
          exact separators next (by simp [first])

theorem Following.ends {room : Nat} {tokens : List Token} {statements : List (Formula Span)}
    (derived : Following room tokens statements) : Before endsStatement tokens := by
  cases tokens with
  | nil => trivial
  | cons next rest => simp [Before, endsStatement, derived.starts next rfl]

variable {finish : Span}

theorem following_of_read {tokens : List Token} {statements : List (Formula Span)}
    (read : readStatements finish tokens = .ok (statements, [])) :
    Following mostNested tokens statements := by
  cases shape : tokens with
  | nil =>
      rw [shape, read_statements_nil] at read
      simp only [Except.ok.injEq, Prod.mk.injEq, and_true] at read
      rw [← read]
      exact .none (by simp [Separators])
  | cons next rest =>
      obtain ⟨separators, all, parted⟩ := Separators.split rest
      rw [shape, read_statements_cons] at read
      split at read
      · rename_i separates
        have allSeparate : Separators (next :: separators) := by
          intro token member
          rcases List.mem_cons.mp member with same | member
          · rw [same]
            exact separates
          · exact all token member
        split at read
        · rename_i nothing
          simp only [Except.ok.injEq, Prod.mk.injEq, and_true] at read
          rw [List.isEmpty_iff.mp nothing, List.append_nil] at parted
          rw [← read, parted]
          exact .none allSeparate
        · rw [bind_eq_ok_iff] at read
          obtain ⟨⟨statement, behind⟩, statementRead, read⟩ := read
          rw [map_eq_ok_iff] at read
          obtain ⟨⟨others, last⟩, othersRead, same⟩ := read
          simp only [Prod.mk.injEq] at same
          obtain ⟨rfl, rfl⟩ := same
          obtain ⟨head, split, derived⟩ := statement_of_read statementRead
          rw [split] at parted
          have fewer : behind.length < tokens.length := by
            rw [shape, parted]
            simp only [List.length_cons, List.length_append]
            omega
          have whole := Following.more allSeparate (by simp) derived (following_of_read othersRead)
          rw [parted]
          exact whole
      · simp at read
termination_by tokens.length

theorem body_of_read {tokens : List Token} {formula : Formula Span}
    (read : readBody finish tokens = .ok formula) : Body mostNested tokens formula := by
  obtain ⟨separators, all, parted⟩ := Separators.split tokens
  rw [read_body_eq, bind_eq_ok_iff] at read
  obtain ⟨⟨first, behind⟩, firstRead, read⟩ := read
  rw [bind_eq_ok_iff] at read
  obtain ⟨⟨others, last⟩, othersRead, read⟩ := read
  obtain ⟨head, split, derived⟩ := statement_of_read firstRead
  rw [split] at parted
  cases last with
  | cons token rest => simp [expected] at read
  | nil =>
      have following := following_of_read othersRead
      dsimp only at read
      split at read
      · rename_i separated
        have present : behind ≠ [] := by
          intro empty
          simp [empty, startsWithSeparator] at separated
        have nonempty : separators ++ (head ++ behind) ≠ [] := by simp [present]
        have isFirst := List.head?_eq_some_head nonempty
        have isLast := List.getLast?_eq_some_getLast nonempty
        simp only [Except.ok.injEq] at read
        rw [← read, parted, text_span_eq finish isFirst isLast]
        exact .block all derived following present isFirst isLast
      · rename_i apart
        simp only [Except.ok.injEq] at read
        have empty : behind = [] := by
          cases behind with
          | nil => rfl
          | cons next more => exact absurd (following.starts next rfl) apart
        rw [parted, empty, List.append_nil, ← read]
        exact .statement all derived

theorem Following.read {tokens : List Token} {statements : List (Formula Span)}
    (derived : Following mostNested tokens statements) :
    readStatements finish tokens = .ok (statements, []) := by
  induction derived with
  | @none tokens separators =>
      cases tokens with
      | nil => exact read_statements_nil finish
      | cons next rest =>
          have nothing : rest.dropWhile (fun token => token.kind.isSeparator) = [] := by
            have dropped := Separators.drop
              (fun token member => separators token (List.mem_cons_of_mem next member)) []
            simpa using dropped
          rw [read_statements_cons, if_pos (separators next List.mem_cons_self), nothing]
          rfl
  | @more separated head tail statement statements separators present derived others induction =>
      cases separated with
      | nil => exact absurd rfl present
      | cons next rest =>
          have dropped : (rest ++ (head ++ tail)).dropWhile (fun token => token.kind.isSeparator) =
              head ++ tail := by
            rw [Separators.drop
              (fun token member => separators token (List.mem_cons_of_mem next member))]
            exact derived.not_dropped tail
          have something : (head ++ tail).isEmpty = false := by
            obtain ⟨first, behind, rfl, _⟩ := derived.starts
            rfl
          rw [List.cons_append, read_statements_cons, if_pos (separators next List.mem_cons_self),
            dropped, something, Statement.read finish tail derived others.ends]
          simp [Except.bind, Except.map, induction]

theorem Body.read {tokens : List Token} {formula : Formula Span}
    (derived : Body mostNested tokens formula) : readBody finish tokens = .ok formula := by
  rw [read_body_eq]
  cases derived with
  | @statement separated tokens _ separators derived =>
      have derivedRead := Statement.read finish [] derived trivial
      have dropped := derived.not_dropped []
      rw [List.append_nil] at derivedRead dropped
      rw [Separators.drop separators, dropped, derivedRead]
      simp [Except.bind, read_statements_nil, startsWithSeparator]
  | @block separated head tail first last statement statements separators derived others
      present isFirst isLast =>
      have separates : startsWithSeparator tail = true := by
        cases tail with
        | nil => exact absurd rfl present
        | cons next rest => exact others.starts next rfl
      rw [text_span_eq finish isFirst isLast, Separators.drop separators, derived.not_dropped,
        Statement.read finish tail derived others.ends]
      simp [Except.bind, others.read, separates]

/-- A statement at the front of a text is determined, however deep it is nested. -/
theorem Statement.unique {room other : Nat} {head tail start rest : List Token}
    {first second : Formula Span} (derived : Statement room head first)
    (ends : Before endsStatement tail) (another : Statement other start second)
    (stops : Before endsStatement rest) (same : head ++ tail = start ++ rest) :
    first = second ∧ tail = rest := by
  have derivedRead := Statement.read ⟨.start, .start⟩ tail
    (derived.widen (Nat.le_max_left room other)) ends
  have anotherRead := Statement.read ⟨.start, .start⟩ rest
    (another.widen (Nat.le_max_right room other)) stops
  rw [same, anotherRead] at derivedRead
  simp only [Except.ok.injEq, Prod.mk.injEq] at derivedRead
  exact ⟨derivedRead.1.symm, derivedRead.2.symm⟩

theorem Statement.unique_behind {room other : Nat} {separated head gap start : List Token}
    {first second : Formula Span} (tail rest : List Token) (separators : Separators separated)
    (derived : Statement room head first) (ends : Before endsStatement tail)
    (gaps : Separators gap) (another : Statement other start second)
    (stops : Before endsStatement rest)
    (same : separated ++ (head ++ tail) = gap ++ (start ++ rest)) :
    first = second ∧ tail = rest := by
  have dropped := congrArg (List.dropWhile fun token => token.kind.isSeparator) same
  rw [separators.drop, gaps.drop, derived.not_dropped, another.not_dropped] at dropped
  exact derived.unique ends another stops dropped

theorem Following.unique {room other : Nat} {tokens list : List Token}
    {statements others : List (Formula Span)} (derived : Following room tokens statements)
    (another : Following other list others) (same : tokens = list) : statements = others := by
  induction derived generalizing list others with
  | none separators =>
      cases another with
      | none gaps => rfl
      | more gaps present second behind =>
          rw [same] at separators
          exact absurd separators second.not_separators
  | more separators present first behind induction =>
      cases another with
      | none gaps =>
          rw [← same] at gaps
          exact absurd gaps first.not_separators
      | more gaps given second last =>
          obtain ⟨rfl, rest⟩ :=
            first.unique_behind _ _ separators behind.ends gaps second last.ends same
          rw [induction last rest]

/-- No text has two derivations, whatever room they need. -/
theorem Body.unique {room other : Nat} {tokens list : List Token} {formula another : Formula Span}
    (derived : Body room tokens formula) (again : Body other list another)
    (same : tokens = list) : formula = another := by
  cases derived with
  | statement separators first =>
      cases again with
      | statement gaps second =>
          exact (first.unique_behind [] [] separators trivial gaps second
            trivial (by simpa using same)).1
      | block gaps second behind present isFirst isLast =>
          have ended := (first.unique_behind [] _ separators trivial gaps second
            behind.ends (by simpa using same)).2
          exact absurd ended.symm present
  | block separators first behind present isFirst isLast =>
      cases again with
      | statement gaps second =>
          have ended := (first.unique_behind _ [] separators behind.ends gaps second
            trivial (by simpa using same)).2
          exact absurd ended present
      | block gaps second last given isFront isBack =>
          obtain ⟨rfl, rest⟩ :=
            first.unique_behind _ _ separators behind.ends gaps second last.ends same
          rw [behind.unique last rest]
          rw [same, isFront] at isFirst
          rw [same, isBack] at isLast
          simp only [Option.some.injEq] at isFirst isLast
          rw [isFirst, isLast]

end FormulaPlot.Grammar
