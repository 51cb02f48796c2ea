import FormulaPlot.Proofs.Formula.Boundary

/-!
Whatever the grammar derives is read: from the derived tokens and any further ones that cannot
belong to them, exactly the derived tree is read and the further tokens are left.
-/

namespace FormulaPlot.Grammar

open FormulaPlot.Formula

set_option autoImplicit false

theorem Primary.starts {room : Nat} {tokens : List Token} {formula : Formula Span}
    (derived : Primary room tokens formula) :
    ∃ first rest, tokens = first :: rest ∧ startsPrimary first.kind = true := by
  cases derived with
  | number isNumber => exact ⟨_, _, rfl, by rw [isNumber]; rfl⟩
  | name isName => exact ⟨_, _, rfl, by rw [isName]; rfl⟩
  | group opens inner closes => exact ⟨_, _, rfl, by rw [opens]; rfl⟩
  | array opens items closes => exact ⟨_, _, rfl, by rw [opens]; rfl⟩
  | emptyObject opens closes => exact ⟨_, _, rfl, by rw [opens]; rfl⟩
  | object opens entries closes => exact ⟨_, _, rfl, by rw [opens]; rfl⟩

mutual

theorem Postfix.starts {room : Nat} {tokens : List Token} {formula : Formula Span} :
    Postfix room tokens formula →
      ∃ first rest, tokens = first :: rest ∧ startsPrimary first.kind = true
  | .primary derived => derived.starts
  | .call derived _ _ _ => by
      obtain ⟨first, rest, rfl, starts⟩ := Postfix.starts derived
      exact ⟨first, _, rfl, starts⟩
  | .index derived _ _ _ => by
      obtain ⟨first, rest, rfl, starts⟩ := Postfix.starts derived
      exact ⟨first, _, rfl, starts⟩
  | .member derived _ _ => by
      obtain ⟨first, rest, rfl, starts⟩ := Postfix.starts derived
      exact ⟨first, _, rfl, starts⟩

theorem Power.starts {room : Nat} {tokens : List Token} {formula : Formula Span}
    (derived : Power room tokens formula) :
    ∃ first rest, tokens = first :: rest ∧ startsPrimary first.kind = true := by
  cases derived with
  | base derived => exact derived.starts
  | raised derived isPower exponent =>
      obtain ⟨first, rest, rfl, starts⟩ := derived.starts
      exact ⟨first, _, rfl, starts⟩

theorem Operand.starts {room : Nat} {tokens : List Token} {formula : Formula Span}
    (derived : Operand room tokens formula) :
    ∃ first rest, tokens = first :: rest ∧
      (startsPrimary first.kind || first.kind.isSign) = true := by
  cases derived with
  | power derived =>
      obtain ⟨first, rest, rfl, starts⟩ := derived.starts
      exact ⟨first, rest, rfl, by simp [starts]⟩
  | signed isSign operand => exact ⟨_, _, rfl, by simp [isSign]⟩

theorem Level.starts {room level : Nat} {tokens : List Token} {formula : Formula Span} :
    Level room level tokens formula →
      ∃ first rest, tokens = first :: rest ∧
        (startsPrimary first.kind || first.kind.isSign) = true
  | .operand _ derived => derived.starts
  | .tighter derived => Level.starts derived
  | .operation left _ _ => by
      obtain ⟨first, rest, rfl, starts⟩ := Level.starts left
      exact ⟨first, _, rfl, starts⟩
  | .product left _ _ _ => by
      obtain ⟨first, rest, rfl, starts⟩ := Level.starts left
      exact ⟨first, _, rfl, starts⟩

end

theorem Range.starts {room : Nat} {tokens : List Token} {formula : Formula Span}
    (derived : Range room tokens formula) :
    ∃ first rest, tokens = first :: rest ∧
      (startsPrimary first.kind || first.kind.isSign) = true := by
  cases derived with
  | single derived => exact derived.starts
  | range derived isColon last =>
      obtain ⟨first, rest, rfl, starts⟩ := derived.starts
      exact ⟨first, _, rfl, starts⟩
  | stepped derived isColon step isSecond last =>
      obtain ⟨first, rest, rfl, starts⟩ := derived.starts
      exact ⟨first, _, rfl, starts⟩

theorem Statement.starts {room : Nat} {tokens : List Token} {formula : Formula Span}
    (derived : Statement room tokens formula) :
    ∃ first rest, tokens = first :: rest ∧
      (startsPrimary first.kind || first.kind.isSign) = true := by
  cases derived with
  | range derived => exact derived.starts
  | assignment derived target isAssign value =>
      obtain ⟨first, rest, rfl, starts⟩ := derived.starts
      exact ⟨first, _, rfl, starts⟩
  | definition derived parameters isAssign body =>
      obtain ⟨first, rest, rfl, starts⟩ := derived.starts
      exact ⟨first, _, rfl, starts⟩

theorem Sequence.starts {room : Nat} {tokens : List Token} {formulas : List (Formula Span)}
    (derived : Sequence room tokens formulas) :
    ∃ first rest, tokens = first :: rest ∧
      (startsPrimary first.kind || first.kind.isSign) = true := by
  cases derived with
  | last derived => exact derived.starts
  | more derived isComma others =>
      obtain ⟨first, rest, rfl, starts⟩ := derived.starts
      exact ⟨first, _, rfl, starts⟩

/-- An object with properties does not close where the first one starts. -/
theorem Entries.not_closed {room : Nat} {tokens : List Token}
    {entries : List (String × Formula Span)} (derived : Entries room tokens entries)
    (rest : List Token) : closedBy? .rightBrace (tokens ++ rest) = none := by
  cases derived with
  | last isName isColon value => simp [closedBy?, isName]
  | more isName isColon value isComma others => simp [closedBy?, isName]

variable (finish : Span)

theorem read_operators_stop (room : Nat) {least : Nat} {formula : Formula Span}
    {tokens : List Token}
    (closed : Closed formula tokens) (looser : Looser least tokens) :
    outcome (readOperators finish room least formula tokens) = .ok (formula, tokens) := by
  cases tokens with
  | nil => exact outcome_read_operators_nil finish room least formula
  | cons next rest =>
      rw [outcome_read_operators_cons]
      unfold Looser joins at looser
      cases found : precedence? next.kind with
      | none =>
          simp only [found] at looser
          simp only [looser]
          rfl
      | some precedence =>
          simp only [found, decide_eq_false_iff_not] at looser
          simp only [if_pos (Nat.lt_of_not_le looser)]

theorem read_suffixes_stop (room : Nat) {formula : Formula Span} {tokens : List Token}
    (closed : ClosedPostfix formula tokens) :
    outcome (readSuffixes finish room formula tokens) = .ok (formula, tokens) := by
  cases tokens with
  | nil => exact outcome_read_suffixes_nil finish room formula
  | cons next rest => exact outcome_read_suffixes_stop finish room rest closed

/-- In front of a token that ends it, a level is read with nothing behind it. -/
theorem read_level_exactly {room least level : Nat} {tokens rest : List Token}
    {formula : Formula Span} (ends : Before endsLevel rest)
    (reads : Closed formula rest → Looser (level + 1) rest →
      outcome (readBinary finish room least tokens) =
        outcome (readOperators finish room least formula rest)) :
    outcome (readBinary finish room least tokens) = .ok (formula, rest) := by
  have closed := closed_of_ends formula ends
  rw [reads closed (looser_of_ends (level + 1) ends)]
  exact read_operators_stop finish room closed (looser_of_ends least ends)

/-- A sign of a power does not belong to the base. -/
theorem closed_postfix_of_power (formula : Formula Span) {sign : Token}
    (isPower : sign.kind.isPower = true) (rest : List Token) :
    ClosedPostfix formula (sign :: rest) := by
  simp only [TokenKind.isPower, Bool.or_eq_true, beq_iff_eq] at isPower
  rcases isPower with kind | kind <;> simp [ClosedPostfix, continuesPostfix, kind]

theorem closed_postfix_of_closed {room : Nat} {tokens rest : List Token}
    {formula : Formula Span} (derived : Postfix room tokens formula)
    (closed : Closed formula rest) : ClosedPostfix formula rest := by
  cases rest with
  | nil => trivial
  | cons next behind =>
      simp only [Closed, continuesOperand, derived.ends_in_name, Bool.or_eq_false_iff] at closed
      simp only [ClosedPostfix, continuesPostfix, Bool.or_eq_false_iff]
      exact ⟨⟨closed.1.1.2, closed.1.2⟩, closed.2⟩

theorem not_power_of_closed {formula : Formula Span} {next : Token} {rest : List Token}
    (closed : Closed formula (next :: rest)) : ¬next.kind.isPower = true := by
  simp only [Closed, continuesOperand, Bool.or_eq_false_iff] at closed
  simp [closed.1.1.1]

theorem assign_target {target value : Formula Span} (isTarget : target.isTarget = true) :
    assign target value = .ok (.assignment (target.place.through value.place) target value) := by
  cases target <;> simp [Formula.isTarget] at isTarget <;> rfl

theorem assign_head {place : Span} {name : String} {arguments : List (Formula Span)}
    {parameters : List String} (body : Formula Span)
    (symbols : arguments.map symbolName? = parameters.map some) :
    assign (.call place name arguments) body =
      .ok (.definition (place.through body.place) name parameters body) := by
  have names : arguments.all isSymbol = true ∧ arguments.filterMap symbolName? = parameters := by
    induction arguments generalizing parameters with
    | nil =>
        cases parameters with
        | nil => exact ⟨rfl, rfl⟩
        | cons parameter parameters => simp at symbols
    | cons argument arguments induction =>
        cases parameters with
        | nil => simp at symbols
        | cons parameter parameters =>
            simp only [List.map_cons, List.cons.injEq] at symbols
            obtain ⟨all, kept⟩ := induction symbols.2
            cases argument <;> simp [symbolName?] at symbols
            rw [← symbols.1]
            exact ⟨by simp [all, isSymbol], by simp [symbolName?, kept]⟩
  unfold assign
  simp only [names.1, if_true, names.2]
  rfl

theorem not_sign_of_starts {kind : TokenKind} (starts : startsPrimary kind = true) :
    ¬kind.isSign = true := by
  cases kind <;> simp [startsPrimary] at starts <;> simp [TokenKind.isSign]

theorem not_closing_of_starts {kind closing : TokenKind} (closes : closing.closes = true)
    (starts : (startsPrimary kind || kind.isSign) = true) : ¬kind = closing := by
  intro same
  rw [same] at starts
  cases closing <;> simp [TokenKind.closes] at closes <;>
    simp [startsPrimary, TokenKind.isSign] at starts

theorem not_assign_of_ends {next : Token} {rest : List Token}
    (ends : Before endsStatement (next :: rest)) : ¬next.kind = .assign := by
  intro same
  simp [Before, endsStatement, same, TokenKind.closes, TokenKind.isSeparator] at ends

theorem not_colon_of_ends {next : Token} {rest : List Token}
    (ends : Before endsRange (next :: rest)) : ¬next.kind = .colon := by
  intro same
  simp [Before, endsRange, endsStatement, same, TokenKind.closes, TokenKind.isSeparator] at ends

theorem before_of_kind (kinds : TokenKind → Bool) {kind : TokenKind} {next : Token}
    (rest : List Token) (isKind : next.kind = kind) (included : kinds kind = true) :
    Before kinds (next :: rest) := by
  have same : kinds next.kind = true := by rw [isKind]; exact included
  exact same

theorem ends_of_closes (close : Token) (rest : List Token) (closes : close.kind.closes = true) :
    Before endsStatement (close :: rest) := by
  simp [Before, endsStatement, closes]

mutual

theorem Statement.read {room : Nat} {tokens : List Token} {formula : Formula Span}
    (rest : List Token) :
    Statement room tokens formula → Before endsStatement rest →
      outcome (readAssignment finish room (tokens ++ rest)) = .ok (formula, rest)
  | .range derived, ends => by
      have endsRange := before_mono ends_range_of_statement ends
      rw [outcome_read_assignment, Range.read rest derived endsRange]
      cases rest with
      | nil => rfl
      | cons next behind => exact if_neg (not_assign_of_ends ends)
  | @Statement.assignment _ head tail sign _ _ derived isTarget isAssign value, ends => by
      have parted : head ++ sign :: tail ++ rest = head ++ sign :: (tail ++ rest) := by simp
      have endsRange := before_of_kind endsRange (tail ++ rest) isAssign rfl
      rw [parted, outcome_read_assignment, Range.read _ derived endsRange]
      simp only [Except.bind, if_pos isAssign, Statement.read rest value ends,
        assign_target isTarget, Except.map]
  | @Statement.definition _ head tail sign _ _ _ _ _ derived symbols isAssign body, ends => by
      have parted : head ++ sign :: tail ++ rest = head ++ sign :: (tail ++ rest) := by simp
      have endsRange := before_of_kind endsRange (tail ++ rest) isAssign rfl
      rw [parted, outcome_read_assignment, Range.read _ derived endsRange]
      simp only [Except.bind, if_pos isAssign, Statement.read rest body ends,
        assign_head _ symbols, Except.map]

theorem Range.read {room : Nat} {tokens : List Token} {formula : Formula Span}
    (rest : List Token) :
    Range room tokens formula → Before endsRange rest →
      outcome (readRange finish room (tokens ++ rest)) = .ok (formula, rest)
  | .single derived, ends => by
      have endsLevel := before_mono ends_level_of_range ends
      have derivedRead :=
        read_level_exactly finish endsLevel (Level.read rest (Nat.le_refl 0) derived)
      rw [outcome_read_range, derivedRead]
      cases rest with
      | nil => rfl
      | cons next behind => exact if_neg (not_colon_of_ends ends)
  | @Range.range _ head tail colon _ _ first isColon last, ends => by
      have parted : head ++ colon :: tail ++ rest = head ++ colon :: (tail ++ rest) := by simp
      have endsFirst := before_of_kind endsLevel (tail ++ rest) isColon rfl
      have endsLast := before_mono ends_level_of_range ends
      have firstRead :=
        read_level_exactly finish endsFirst (Level.read _ (Nat.le_refl 0) first)
      have lastRead :=
        read_level_exactly finish endsLast (Level.read rest (Nat.le_refl 0) last)
      rw [parted, outcome_read_range, firstRead]
      simp only [Except.bind, if_pos isColon, lastRead]
      cases rest with
      | nil => rfl
      | cons next behind => exact if_neg (not_colon_of_ends ends)
  | @Range.stepped _ head middle tail colon second _ _ _ first isColon step isSecond last,
      ends => by
      have parted : head ++ colon :: (middle ++ second :: tail) ++ rest =
          head ++ colon :: (middle ++ second :: (tail ++ rest)) := by simp
      have endsFirst :=
        before_of_kind endsLevel (middle ++ second :: (tail ++ rest)) isColon rfl
      have endsStep := before_of_kind endsLevel (tail ++ rest) isSecond rfl
      have endsLast := before_mono ends_level_of_range ends
      have firstRead :=
        read_level_exactly finish endsFirst (Level.read _ (Nat.le_refl 0) first)
      have stepRead :=
        read_level_exactly finish endsStep (Level.read _ (Nat.le_refl 0) step)
      have lastRead :=
        read_level_exactly finish endsLast (Level.read rest (Nat.le_refl 0) last)
      rw [parted, outcome_read_range, firstRead]
      simp only [Except.bind, if_pos isColon, stepRead, if_pos isSecond, lastRead, Except.map]

/-- The operators of a level are read as the left part of whatever a looser level goes on with. -/
theorem Level.read {room level least : Nat} {tokens : List Token} {formula : Formula Span}
    (rest : List Token) (within : least ≤ level) :
    Level room level tokens formula → Closed formula rest → Looser (level + 1) rest →
      outcome (readBinary finish room least (tokens ++ rest)) =
        outcome (readOperators finish room least formula rest)
  | .operand _ derived, closed, _ => by
      rw [outcome_read_binary, Operand.read rest derived closed]
      rfl
  | .tighter derived, closed, looser =>
      Level.read rest (Nat.le_succ_of_le within) derived closed
        (looser_mono (Nat.le_succ (level + 1)) looser)
  | @Level.operation _ _ head tail operator left right derived found rightDerived, closed,
      looser => by
      have parted : head ++ operator :: tail ++ rest = head ++ operator :: (tail ++ rest) := by
        simp
      have closedLeft : Closed left (operator :: (tail ++ rest)) := operator_closes left found
      have looserLeft : Looser (level + 1) (operator :: (tail ++ rest)) := by
        simp [Looser, joins, found]
      have closedRight : Closed right rest := closed_congr rfl closed
      rw [parted, Level.read _ within derived closedLeft looserLeft, outcome_read_operators_cons]
      simp only [found, if_neg (Nat.not_lt_of_le within)]
      rw [Level.read rest (Nat.le_refl (level + 1)) rightDerived closedRight
        (looser_mono (Nat.le_succ (level + 1)) looser),
        read_operators_stop finish _ closedRight looser]
      rfl
  | @Level.product _ head tail first left right derived rightDerived factor apart, closed,
      looser => by
      have parted : head ++ first :: tail ++ rest = head ++ first :: (tail ++ rest) := by simp
      have closedLeft : Closed left (first :: (tail ++ rest)) := factor_closes factor apart
      have looserLeft : Looser (productPrecedence + 1) (first :: (tail ++ rest)) :=
        looser_of_lt (Nat.lt_succ_self productPrecedence) _
      have closedRight : Closed right rest := closed_congr rfl closed
      have joinsIn :
          (startsFactor first.kind && decide (least ≤ productPrecedence)) = true := by
        simp [factor, within]
      rw [parted, Level.read _ within derived closedLeft looserLeft, outcome_read_operators_cons]
      simp only [precedence_of_factor factor, if_pos joinsIn]
      rw [← List.cons_append, Power.read rest rightDerived closedRight]
      rfl

theorem Operand.read {room : Nat} {tokens : List Token} {formula : Formula Span}
    (rest : List Token) :
    Operand room tokens formula → Closed formula rest →
      outcome (readUnary finish room (tokens ++ rest)) = .ok (formula, rest)
  | .power derived, closed => by
      have powerRead := Power.read rest derived closed
      obtain ⟨first, behind, rfl, starts⟩ := derived.starts
      rw [List.cons_append] at powerRead ⊢
      rw [outcome_read_unary_cons, if_neg (not_sign_of_starts starts), powerRead]
  | .signed isSign operand, closed => by
      rw [List.cons_append, outcome_read_unary_cons, if_pos isSign,
        Operand.read rest operand (closed_congr rfl closed)]
      rfl

theorem Power.read {room : Nat} {tokens : List Token} {formula : Formula Span}
    (rest : List Token) :
    Power room tokens formula → Closed formula rest →
      outcome (readPower finish room (tokens ++ rest)) = .ok (formula, rest)
  | .base derived, closed => by
      have stops := read_suffixes_stop finish room
        (closed_postfix_of_closed derived closed)
      rw [outcome_read_power, Postfix.read rest derived, stops]
      cases rest with
      | nil => rfl
      | cons next behind => exact if_neg (not_power_of_closed closed)
  | @Power.raised _ head tail sign base _ derived isPower exponent, closed => by
      have parted : head ++ sign :: tail ++ rest = head ++ sign :: (tail ++ rest) := by simp
      have stops := read_suffixes_stop finish room
        (closed_postfix_of_power base isPower (tail ++ rest))
      rw [parted, outcome_read_power, Postfix.read _ derived, stops]
      simp only [Except.bind, if_pos isPower, Operand.read rest exponent (closed_congr rfl closed)]
      rfl

theorem Postfix.read {room : Nat} {tokens : List Token} {formula : Formula Span}
    (rest : List Token) :
    Postfix room tokens formula →
      outcome (readPostfix finish room (tokens ++ rest)) =
        outcome (readSuffixes finish room formula rest)
  | .primary derived => by
      rw [outcome_read_postfix_chain, Primary.read rest derived]
      rfl
  | @Postfix.call _ head items opening closing _ _ _ derived opens itemsDerived closes => by
      have parted : head ++ opening :: (items ++ [closing]) ++ rest =
          head ++ opening :: (items ++ closing :: rest) := by simp
      rw [parted, Postfix.read _ derived, outcome_read_suffixes_call _ _ _ _ _ opens,
        Items.read _ rest rfl closes itemsDerived]
      rfl
  | @Postfix.index _ head items opening closing _ _ derived opens itemsDerived closes => by
      have parted : head ++ opening :: (items ++ [closing]) ++ rest =
          head ++ opening :: (items ++ closing :: rest) := by simp
      rw [parted, Postfix.read _ derived, outcome_read_suffixes_index _ _ _ _ opens,
        Items.read _ rest rfl closes itemsDerived]
      rfl
  | @Postfix.member _ head dot name _ derived isDot isName => by
      have parted : head ++ [dot, name] ++ rest = head ++ dot :: name :: rest := by simp
      rw [parted, Postfix.read _ derived, outcome_read_suffixes_member _ _ _ _ isDot,
        outcome_expect_cons, if_pos isName]
      rfl

theorem Primary.read {room : Nat} {tokens : List Token} {formula : Formula Span}
    (rest : List Token) :
    Primary room tokens formula →
      outcome (readPrimary finish room (tokens ++ rest)) = .ok (formula, rest)
  | .number isNumber => outcome_read_primary_number finish room rest isNumber
  | .name isName => outcome_read_primary_name finish room rest isName
  | @Primary.group _ opening closing tokens _ opens inner closes => by
      have parted : opening :: (tokens ++ [closing]) ++ rest =
          opening :: (tokens ++ closing :: rest) := by simp
      have ends := ends_of_closes closing rest (by rw [closes]; rfl)
      rw [parted, outcome_read_primary_group _ _ _ opens, Statement.read _ inner ends]
      simp only [Except.bind, outcome_expect_cons, if_pos closes]
      rfl
  | @Primary.array _ opening closing items _ opens itemsDerived closes => by
      have parted : opening :: (items ++ [closing]) ++ rest =
          opening :: (items ++ closing :: rest) := by simp
      rw [parted, outcome_read_primary_array _ _ _ opens, Items.read _ rest rfl closes itemsDerived]
      rfl
  | .emptyObject opens closes => outcome_read_primary_empty_object finish room rest opens closes
  | @Primary.object _ opening closing tokens _ opens entries closes => by
      have parted : opening :: (tokens ++ [closing]) ++ rest =
          opening :: (tokens ++ closing :: rest) := by simp
      rw [parted, outcome_read_primary_object _ _ opens (entries.not_closed _),
        Entries.read rest closes entries]
      rfl

theorem Items.read {room : Nat} {closing : TokenKind} {close : Token} {tokens : List Token}
    {formulas : List (Formula Span)} (what : String) (rest : List Token)
    (closes : closing.closes = true) (isClosing : close.kind = closing) :
    Items room tokens formulas →
      outcome (readItems finish room closing what (tokens ++ close :: rest)) =
        .ok ((formulas, close.span), rest)
  | .none => by rw [List.nil_append, outcome_read_items_cons, if_pos isClosing]
  | .some derived => by
      have sequenceRead := Sequence.read what rest closes isClosing derived
      obtain ⟨first, behind, rfl, starts⟩ := derived.starts
      rw [List.cons_append] at sequenceRead ⊢
      rw [outcome_read_items_cons, if_neg (not_closing_of_starts closes starts), sequenceRead]

theorem Sequence.read {room : Nat} {closing : TokenKind} {close : Token} {tokens : List Token}
    {formulas : List (Formula Span)} (what : String) (rest : List Token)
    (closes : closing.closes = true) (isClosing : close.kind = closing) :
    Sequence room tokens formulas →
      sequenceOutcome finish room closing what (tokens ++ close :: rest) =
        .ok ((formulas, close.span), rest)
  | .last derived => by
      have ends := ends_of_closes close rest (by rw [isClosing]; exact closes)
      have noComma : ¬close.kind = .comma := by
        intro isComma
        rw [← isClosing, isComma] at closes
        simp [TokenKind.closes] at closes
      rw [sequenceOutcome, Range.read _ derived (before_mono ends_range_of_statement ends)]
      simp only [Except.bind, outcome_read_more_items_cons, if_neg noComma, if_pos isClosing]
      rfl
  | @Sequence.more _ head tail comma _ _ derived isComma others => by
      have parted : head ++ comma :: tail ++ close :: rest =
          head ++ comma :: (tail ++ close :: rest) := by simp
      have ends := before_of_kind endsRange (tail ++ close :: rest) isComma rfl
      rw [parted, sequenceOutcome, Range.read _ derived ends]
      simp only [Except.bind, outcome_read_more_items_cons, if_pos isComma,
        Sequence.read what rest closes isClosing others]
      rfl

theorem Entries.read {room : Nat} {close : Token} {tokens : List Token}
    {entries : List (String × Formula Span)} (rest : List Token)
    (closes : close.kind = .rightBrace) :
    Entries room tokens entries →
      outcome (readEntries finish room (tokens ++ close :: rest)) =
        .ok ((entries, close.span), rest)
  | @Entries.last _ key colon tokens _ isName isColon value => by
      have parted : key :: colon :: tokens ++ close :: rest =
          key :: colon :: (tokens ++ close :: rest) := by simp
      have ends := before_of_kind endsLevel rest closes rfl
      have valueRead :=
        read_level_exactly finish ends (Level.read _ (Nat.le_refl 0) value)
      have noComma : ¬close.kind = .comma := by simp [closes]
      rw [parted, outcome_read_entries, outcome_expect_cons, if_pos isName]
      simp only [Except.bind, outcome_expect_cons, if_pos isColon, valueRead, if_neg noComma,
        if_pos closes]
  | @Entries.more _ key colon comma head tail _ _ isName isColon value isComma others => by
      have parted : key :: colon :: (head ++ comma :: tail) ++ close :: rest =
          key :: colon :: (head ++ comma :: (tail ++ close :: rest)) := by simp
      have ends := before_of_kind endsLevel (tail ++ close :: rest) isComma rfl
      have valueRead :=
        read_level_exactly finish ends (Level.read _ (Nat.le_refl 0) value)
      rw [parted, outcome_read_entries, outcome_expect_cons, if_pos isName]
      simp only [Except.bind, outcome_expect_cons, if_pos isColon, valueRead, if_pos isComma,
        Entries.read rest closes others]
      rfl

end

end FormulaPlot.Grammar
