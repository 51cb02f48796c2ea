import FormulaPlot.Proofs.Formula.Nesting
import FormulaPlot.Proofs.Formula.Spans

/-!
Which tokens the parts of a formula are derived from. They follow one another inside the tokens of
the whole, and each of them is a statement of its own. The one exception is the factor on the right
of a product without a sign: it is read as a power, without the level of nesting that every other
operand opens, and so is what stands at its left edge.
-/

namespace FormulaPlot

set_option autoImplicit false

namespace Formula

variable {label : Type}

/-- The parts of a formula in the order in which they are written. A range has its step in the
middle, and holds it behind its end. -/
def written : Formula label → List (Formula label)
  | steppedRange _ first last step => [first, step, last]
  | formula => formula.children

theorem written_perm (formula : Formula label) : formula.written.Perm formula.children := by
  cases formula with
  | steppedRange place first last step => exact (List.Perm.swap _ _ []).cons _
  | _ => exact .refl _

end Formula

namespace Grammar

open FormulaPlot.Formula

/-- Some tokens hold formulas one behind the other, each in a part of its own. -/
inductive Parts (fits : List Token → Formula Span → Prop) :
    List Token → List (Formula Span) → Prop
  | none {tokens : List Token} : Parts fits tokens []
  | more {before part behind : List Token} {formula : Formula Span}
      {formulas : List (Formula Span)} :
      fits part formula → Parts fits behind formulas →
      Parts fits (before ++ (part ++ behind)) (formula :: formulas)

/-- Some tokens hold a formula in one of their parts. -/
def Inside (fits : List Token → Formula Span → Prop) (tokens : List Token)
    (formula : Formula Span) : Prop :=
  ∃ before part behind, tokens = before ++ (part ++ behind) ∧ fits part formula

theorem Inside.whole {fits : List Token → Formula Span → Prop} {tokens : List Token}
    {formula : Formula Span} (fitting : fits tokens formula) : Inside fits tokens formula :=
  ⟨[], tokens, [], (List.append_nil _).symm, fitting⟩

theorem Inside.within {fits wider : List Token → Formula Span → Prop} {tokens : List Token}
    {formula : Formula Span} (before behind : List Token)
    (implies : ∀ part, fits part formula → wider part formula)
    (inside : Inside fits tokens formula) :
    Inside wider (before ++ (tokens ++ behind)) formula := by
  rcases inside with ⟨gap, part, tail, rfl, found⟩
  refine ⟨before ++ gap, part, tail ++ behind, ?_, implies part found⟩
  simp only [List.append_assoc]

namespace Parts

variable {fits : List Token → Formula Span → Prop} {tokens part : List Token}
  {formula : Formula Span} {formulas : List (Formula Span)}

theorem cons (first : fits part formula) (others : Parts fits tokens formulas) :
    Parts fits (part ++ tokens) (formula :: formulas) := by
  have whole := @more fits [] part tokens formula formulas first others
  exact whole

theorem single (first : fits part formula) : Parts fits part [formula] := by
  have whole := cons first (@none fits [])
  rw [List.append_nil] at whole
  exact whole

theorem behind (before : List Token) (parts : Parts fits tokens formulas) :
    Parts fits (before ++ tokens) formulas := by
  cases parts with
  | none => exact none
  | more first others =>
      rw [← List.append_assoc]
      exact more first others

theorem inFront (behind : List Token) (parts : Parts fits tokens formulas) :
    Parts fits (tokens ++ behind) formulas := by
  induction parts with
  | none => exact none
  | more first others induction =>
      rw [List.append_assoc, List.append_assoc]
      exact more first induction

theorem bracketed (opening closing : Token) (parts : Parts fits tokens formulas) :
    Parts fits (opening :: (tokens ++ [closing])) formulas :=
  (parts.inFront [closing]).behind [opening]

theorem mono {weaker : List Token → Formula Span → Prop}
    (implies : ∀ part formula, fits part formula → weaker part formula)
    (parts : Parts fits tokens formulas) : Parts weaker tokens formulas := by
  induction parts with
  | none => exact none
  | more first others induction => exact more (implies _ _ first) induction

theorem of_mem (parts : Parts fits tokens formulas) (member : formula ∈ formulas) :
    Inside fits tokens formula := by
  induction parts with
  | none => contradiction
  | @more before part behind next others first rest induction =>
      rcases List.mem_cons.mp member with rfl | later
      · exact ⟨before, part, behind, rfl, first⟩
      · have inside := (induction later).within (before ++ part) [] fun _ => id
        rw [List.append_nil, List.append_assoc] at inside
        exact inside

end Parts

theorem Level.statement {room level : Nat} {tokens : List Token} {formula : Formula Span}
    (derived : Level room level tokens formula) : Statement room tokens formula := by
  induction level with
  | zero => exact .range (.single derived)
  | succ level induction => exact induction (.tighter derived)

theorem Operand.statement {room : Nat} {tokens : List Token} {formula : Formula Span}
    (derived : Operand room tokens formula) : Statement room tokens formula :=
  (Level.operand (Nat.lt_succ_self _) derived).statement

theorem Power.statement {room : Nat} {tokens : List Token} {formula : Formula Span}
    (derived : Power room tokens formula) : Statement (room + 1) tokens formula :=
  (Operand.power derived).statement

mutual

theorem Sequence.parts {room : Nat} {tokens : List Token} {formulas : List (Formula Span)} :
    Sequence room tokens formulas → Parts (Statement room) tokens formulas
  | .last derived => .single (.range derived)
  | .more derived _ others => .cons (.range derived) (others.parts.behind [_])

theorem Items.parts {room : Nat} {tokens : List Token} {formulas : List (Formula Span)} :
    Items room tokens formulas → Parts (Statement room) tokens formulas
  | .none => .none
  | .some derived => derived.parts

theorem Entries.parts {room : Nat} {tokens : List Token}
    {entries : List (String × Formula Span)} :
    Entries room tokens entries → Parts (Statement room) tokens (entries.map Prod.snd)
  | .last _ _ value => (Parts.single value.statement).behind [_, _]
  | .more _ _ value _ others =>
      (Parts.cons value.statement (others.parts.behind [_])).behind [_, _]

end

theorem Primary.parts {room : Nat} {tokens : List Token} {formula : Formula Span}
    (derived : Primary room tokens formula) :
    Parts (Statement room) tokens formula.written := by
  cases derived with
  | number isNumber => exact .none
  | name isName => exact .none
  | group opens inner closes => exact (Parts.single inner).bracketed _ _
  | array opens items closes => exact items.parts.bracketed _ _
  | emptyObject opens closes => exact .none
  | object opens entries closes => exact entries.parts.bracketed _ _

/-- A part of a power is a statement, or a power at the left edge. -/
def EdgePart (room : Nat) (whole : Formula Span) (part : List Token) (formula : Formula Span) :
    Prop :=
  Statement room part formula ∨
    (Power room part formula ∧ formula.place.start = whole.place.start)

theorem Postfix.parts {room : Nat} {tokens : List Token} {formula : Formula Span}
    (derived : Postfix room tokens formula) :
    Parts (EdgePart room formula) tokens formula.written := by
  cases derived with
  | primary derived => exact derived.parts.mono fun _ _ => .inl
  | call head opens items closes =>
      exact ((items.parts.mono fun _ _ => .inl).bracketed _ _).behind _
  | index target opens items closes =>
      exact .cons (.inr ⟨.base target, rfl⟩) ((items.parts.mono fun _ _ => .inl).bracketed _ _)
  | member target isDot isName => exact .cons (.inr ⟨.base target, rfl⟩) .none

theorem Power.parts {room : Nat} {tokens : List Token} {formula : Formula Span}
    (derived : Power room tokens formula) :
    Parts (EdgePart room formula) tokens formula.written := by
  cases derived with
  | base derived => exact derived.parts
  | raised base isPower exponent =>
      exact .cons (.inr ⟨.base base, rfl⟩) ((Parts.single (.inl exponent.statement)).behind [_])

theorem Operand.parts {room : Nat} {tokens : List Token} {formula : Formula Span}
    (derived : Operand room tokens formula) :
    Parts (Statement room) tokens formula.written := by
  cases derived with
  | power derived =>
      apply derived.parts.mono
      intro part formula
      rintro (statement | ⟨power, _⟩)
      · exact statement.widen (Nat.le_succ _)
      · exact power.statement
  | signed isSign operand =>
      exact (Parts.single (operand.statement.widen (Nat.le_succ _))).behind [_]

/-- A part of a statement is a statement, or the last factor of a product without a sign. -/
def StatementPart (room : Nat) (tokens : List Token) (whole : Formula Span) (part : List Token)
    (formula : Formula Span) : Prop :=
  Statement room part formula ∨
    (Power room part formula ∧ ∃ head place left, tokens = head ++ part ∧
      Spans head left.place ∧ whole = .binary place .star left formula)

theorem Parts.statements {room : Nat} {tokens behind : List Token} {whole : Formula Span}
    {formulas : List (Formula Span)} (parts : Parts (Statement room) behind formulas) :
    Parts (StatementPart room tokens whole) behind formulas := parts.mono fun _ _ => .inl

mutual

/-- The parts of a statement are derived one behind the other, as they are written. -/
theorem Statement.parts {room : Nat} {tokens : List Token} {formula : Formula Span} :
    Statement room tokens formula →
      Parts (StatementPart room tokens formula) tokens formula.written
  | .range derived => derived.parts
  | .assignment target _ _ value =>
      have assigned := Parts.single (value.widen (Nat.le_succ _))
      Parts.statements (.cons (.range target) (assigned.behind [_]))
  | .definition _ _ _ body =>
      have defined := Parts.single (body.widen (Nat.le_succ _))
      Parts.statements ((defined.behind [_]).behind _)

theorem Range.parts {room : Nat} {tokens : List Token} {formula : Formula Span} :
    Range room tokens formula → Parts (StatementPart room tokens formula) tokens formula.written
  | .single derived => derived.parts
  | .range first _ last =>
      have last := Parts.single last.statement
      Parts.statements (.cons first.statement (last.behind [_]))
  | .stepped first _ step _ last =>
      have last := Parts.single last.statement
      have behind := (Parts.cons step.statement (last.behind [_])).behind [_]
      Parts.statements (.cons first.statement behind)

theorem Level.parts {room level : Nat} {tokens : List Token} {formula : Formula Span} :
    Level room level tokens formula →
      Parts (StatementPart room tokens formula) tokens formula.written
  | .operand _ derived => derived.parts.statements
  | .tighter derived => derived.parts
  | .operation left _ right =>
      Parts.statements (.cons left.statement ((Parts.single right.statement).behind [_]))
  | .product left right _ _ =>
      .cons (.inl left.statement) (.single (.inr ⟨right, _, _, _, rfl, left.spans, rfl⟩))

end

theorem Following.parts {room : Nat} {tokens : List Token} {statements : List (Formula Span)}
    (derived : Following room tokens statements) : Parts (Statement room) tokens statements := by
  induction derived with
  | none separators => exact .none
  | more separators present statement others induction =>
      exact (Parts.cons statement induction).behind _

/-- Two spans of tokens with no token between them. -/
def Touch (tokens : List Token) (first last : Span) : Prop :=
  ∃ before head tail behind, tokens = before ++ (head ++ (tail ++ behind)) ∧ Spans head first ∧
    Spans tail last

theorem Touch.within {tokens : List Token} {first last : Span} (before behind : List Token)
    (touch : Touch tokens first last) : Touch (before ++ (tokens ++ behind)) first last := by
  rcases touch with ⟨gap, head, tail, rest, rfl, starts, ends⟩
  refine ⟨before ++ gap, head, tail, rest ++ behind, ?_, starts, ends⟩
  simp only [List.append_assoc]

/-- A node that starts where the last factor of a product without a sign does, inside it. -/
def LeadsFactor (tokens : List Token) (whole node : Formula Span) : Prop :=
  ∃ place left right, .binary place .star left right ∈ whole.walk ∧
    Touch tokens left.place right.place ∧ node ∈ right.walk ∧
    node.place.start = right.place.start

/-- A statement, or a power in a place that allows it. -/
def StatementOrPower (room : Nat) (allowed : Prop) (tokens : List Token)
    (formula : Formula Span) : Prop :=
  Statement room tokens formula ∨ (Power room tokens formula ∧ allowed)

theorem StatementOrPower.mono {room : Nat} {allowed wider : Prop} {tokens : List Token}
    {formula : Formula Span} (implies : allowed → wider)
    (derived : StatementOrPower room allowed tokens formula) :
    StatementOrPower room wider tokens formula := derived.imp_right (And.imp_right implies)

theorem Inside.allow {room : Nat} {allowed wider : Prop} {tokens : List Token}
    {formula : Formula Span} (before behind : List Token) (implies : allowed → wider)
    (inside : Inside (StatementOrPower room allowed) tokens formula) :
    Inside (StatementOrPower room wider) (before ++ (tokens ++ behind)) formula :=
  inside.within before behind fun _ => StatementOrPower.mono implies

theorem LeadsFactor.within {tokens : List Token} {whole part node : Formula Span}
    (before behind : List Token) (walks : part.walk ⊆ whole.walk)
    (leads : LeadsFactor tokens part node) :
    LeadsFactor (before ++ (tokens ++ behind)) whole node := by
  rcases leads with ⟨place, left, right, member, touch, inside, starts⟩
  exact ⟨place, left, right, walks member, touch.within before behind, inside, starts⟩

/-- Every node of a statement is a statement or starts the last factor of a product without a
sign. A node of a power may also start where the power does. -/
theorem nodes_inside (room : Nat) (formula : Formula Span) :
    (∀ {tokens}, Statement room tokens formula → ∀ node ∈ formula.walk,
      Inside (StatementOrPower room (LeadsFactor tokens formula node)) tokens node) ∧
    (∀ {tokens}, Power room tokens formula → ∀ node ∈ formula.walk,
      Inside (StatementOrPower room (LeadsFactor tokens formula node ∨
        node.place.start = formula.place.start)) tokens node) := by
  induction formula using parts_induction with
  | step formula induction =>
      constructor
      · intro tokens derived node member
        rcases mem_walk_iff.mp member with rfl | ⟨child, isChild, deeper⟩
        · exact .whole (.inl derived)
        · have isWritten := (written_perm formula).mem_iff.mpr isChild
          rcases derived.parts.of_mem isWritten with ⟨before, part, behind, rfl, fits⟩
          have walks := walk_child isChild
          rcases fits with statement | ⟨power, head, place, left, split, spans, rfl⟩
          · have inside := (induction child isChild).1 statement node deeper
            exact inside.allow before behind (·.within before behind walks)
          · have inside := (induction child isChild).2 power node deeper
            apply inside.allow
            rintro (leads | starts)
            · exact leads.within before behind walks
            · exact ⟨place, left, child, mem_walk_self _,
                ⟨[], head, part, [], by simp [split], spans, power.spans⟩, deeper, starts⟩
      · intro tokens derived node member
        rcases mem_walk_iff.mp member with rfl | ⟨child, isChild, deeper⟩
        · exact .whole (.inr ⟨derived, .inr rfl⟩)
        · have isWritten := (written_perm formula).mem_iff.mpr isChild
          rcases derived.parts.of_mem isWritten with ⟨before, part, behind, rfl, fits⟩
          have walks := walk_child isChild
          rcases fits with statement | ⟨power, starts⟩
          · have inside := (induction child isChild).1 statement node deeper
            exact inside.allow before behind fun leads => .inl (leads.within before behind walks)
          · have inside := (induction child isChild).2 power node deeper
            apply inside.allow
            exact Or.imp (·.within before behind walks) (·.trans starts)

/-- A whole text, or a power in a place that allows it. -/
def BodyOrPower (room : Nat) (allowed : Prop) (tokens : List Token) (formula : Formula Span) :
    Prop :=
  (Body room tokens formula ∧ Spans tokens formula.place) ∨ (Power room tokens formula ∧ allowed)

theorem Statement.body {room : Nat} {tokens : List Token} {formula : Formula Span}
    (derived : Statement room tokens formula) : Body room tokens formula := by
  have none : Separators [] := fun _ member => absurd member List.not_mem_nil
  exact .statement none derived

theorem StatementOrPower.body {room : Nat} {allowed : Prop} {tokens : List Token}
    {formula : Formula Span} (derived : StatementOrPower room allowed tokens formula) :
    BodyOrPower room allowed tokens formula :=
  derived.imp_left fun statement => ⟨statement.body, statement.spans⟩

theorem Inside.body {room : Nat} {tokens : List Token} {whole part node : Formula Span}
    (before behind : List Token) (walks : part.walk ⊆ whole.walk)
    (inside : Inside (StatementOrPower room (LeadsFactor tokens part node)) tokens node) :
    Inside (BodyOrPower room (LeadsFactor (before ++ (tokens ++ behind)) whole node))
      (before ++ (tokens ++ behind)) node := by
  apply inside.within
  intro inner found
  exact (found.mono (·.within before behind walks)).body

/-- Every node of a text is derived from a part of its tokens. -/
theorem Body.nodes_inside {room : Nat} {tokens : List Token} {formula node : Formula Span}
    (derived : Body room tokens formula) (member : node ∈ formula.walk) :
    Inside (BodyOrPower room (LeadsFactor tokens formula node)) tokens node := by
  cases derived with
  | statement gap statement =>
      have inside := (Grammar.nodes_inside room formula).1 statement node member
      rw [← List.append_nil (_ ++ _), List.append_assoc]
      exact inside.body _ [] (List.Subset.refl _)
  | @block separators _ _ _ _ _ _ gap statement others present starts ends =>
      rcases mem_walk_iff.mp member with rfl | ⟨child, isChild, deeper⟩
      · have block := Body.block gap statement others present starts ends
        exact .whole (.inl ⟨block, _, _, starts, ends, rfl⟩)
      · have parts := (Parts.cons statement others.parts).behind separators
        rcases parts.of_mem isChild with ⟨before, part, behind, split, fits⟩
        rw [split]
        have inside := (Grammar.nodes_inside room child).1 fits node deeper
        exact inside.body before behind (walk_child isChild)

/-- The parts of a node span parts of its tokens, one behind the other as they are written. -/
theorem BodyOrPower.parts {room : Nat} {allowed : Prop} {tokens : List Token}
    {formula : Formula Span} (derived : BodyOrPower room allowed tokens formula) :
    Parts (fun part child => Spans part child.place) tokens formula.written := by
  rcases derived with ⟨body, _⟩ | ⟨power, _⟩
  · cases body with
    | statement gap statement =>
        apply (statement.parts.mono _).behind
        intro part child fits
        exact fits.elim (·.spans) (·.1.spans)
    | @block separators _ _ _ _ _ _ gap statement others present starts ends =>
        have parts := (Parts.cons statement others.parts).behind separators
        exact parts.mono fun _ _ => Statement.spans
  · apply power.parts.mono
    intro part child fits
    exact fits.elim (·.spans) (·.1.spans)

/-- The parts of a formula, in some order, are derived inside its tokens. -/
def Spread (fits : List Token → Formula Span → Prop) (tokens : List Token)
    (formula : Formula Span) : Prop :=
  ∃ formulas, formulas.Perm formula.children ∧ Parts fits tokens formulas

theorem BodyOrPower.spread {room : Nat} {allowed : Prop} {tokens : List Token}
    {formula : Formula Span} (derived : BodyOrPower room allowed tokens formula) :
    Spread (fun part child => Spans part child.place) tokens formula :=
  ⟨_, written_perm formula, derived.parts⟩

theorem BodyOrPower.spans {room : Nat} {allowed : Prop} {tokens : List Token}
    {formula : Formula Span} (derived : BodyOrPower room allowed tokens formula) :
    Spans tokens formula.place := derived.elim And.right (·.1.spans)

end Grammar

end FormulaPlot
