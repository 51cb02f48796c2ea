import FormulaPlot.Proofs.Formula.Groups
import FormulaPlot.Proofs.Formula.Layers

/-!
Trees from senses. `rebuild` takes a formula apart, without its groups and places, and makes every
node anew; a list of senses yields a tree when the grammar derives a formula that is rebuilt to it.
There is one lemma for each way to put senses together.
-/

namespace FormulaPlot

open FormulaPlot.Scanning

set_option autoImplicit false

namespace Formula

variable {label : Type}

mutual

/-- The formula without groups and labels, every node changed after its parts. -/
def rebuild (change : Formula Unit → Formula Unit) : Formula label → Formula Unit
  | constant _ value lexeme => change (constant () value lexeme)
  | symbol _ name => change (symbol () name)
  | group _ inner => inner.rebuild change
  | unary _ operator operand => change (unary () operator (operand.rebuild change))
  | binary _ operator left right =>
      change (binary () operator (left.rebuild change) (right.rebuild change))
  | call _ name arguments => change (call () name (rebuildAll change arguments))
  | assignment _ target value =>
      change (assignment () (target.rebuild change) (value.rebuild change))
  | definition _ name parameters body =>
      change (definition () name parameters (body.rebuild change))
  | index _ target indices =>
      change (index () (target.rebuild change) (rebuildAll change indices))
  | member _ target name => change (member () (target.rebuild change) name)
  | range _ first last => change (range () (first.rebuild change) (last.rebuild change))
  | steppedRange _ first last step =>
      change (steppedRange () (first.rebuild change) (last.rebuild change) (step.rebuild change))
  | array _ elements => change (array () (rebuildAll change elements))
  | object _ entries => change (object () (rebuildEntries change entries))
  | block _ statements => change (block () (rebuildAll change statements))

def rebuildAll (change : Formula Unit → Formula Unit) :
    List (Formula label) → List (Formula Unit)
  | [] => []
  | formula :: rest => formula.rebuild change :: rebuildAll change rest

def rebuildEntries (change : Formula Unit → Formula Unit) :
    List (String × Formula label) → List (String × Formula Unit)
  | [] => []
  | (key, formula) :: rest => (key, formula.rebuild change) :: rebuildEntries change rest

end

/-- The formula without groups and labels. -/
def core (formula : Formula label) : Formula Unit := formula.rebuild id

variable (change : Formula Unit → Formula Unit)

theorem rebuild_all_eq (formulas : List (Formula label)) :
    rebuildAll change formulas = formulas.map (rebuild change) := by
  induction formulas with
  | nil => rfl
  | cons formula rest induction => rw [rebuildAll, induction, List.map_cons]

theorem rebuild_entries_eq (entries : List (String × Formula label)) :
    rebuildEntries change entries =
      entries.map fun entry => (entry.1, entry.2.rebuild change) := by
  induction entries with
  | nil => rfl
  | cons entry rest induction => rw [rebuildEntries, induction, List.map_cons]

theorem rebuild_bare (formula : Formula label) :
    formula.bare.rebuild change = formula.rebuild change := by
  have all (formulas : List (Formula label))
      (each : ∀ formula ∈ formulas, formula.bare.rebuild change = formula.rebuild change) :
      rebuildAll change (formulas.map bare) = rebuildAll change formulas := by
    rw [rebuild_all_eq, rebuild_all_eq, List.map_map]
    exact List.map_congr_left each
  induction formula using parts_induction with
  | step formula induction =>
      cases formula with
      | constant | symbol => rfl
      | group place inner => exact induction inner List.mem_cons_self
      | unary place operator operand =>
          rw [unary_bare, rebuild, rebuild, induction operand List.mem_cons_self]
      | binary place operator left right =>
          rw [binary_bare, rebuild, rebuild, induction left (by simp [children]),
            induction right (by simp [children])]
      | call place name arguments => rw [call_bare, rebuild, rebuild, all arguments induction]
      | assignment place target value =>
          rw [assignment_bare, rebuild, rebuild, induction target (by simp [children]),
            induction value (by simp [children])]
      | definition place name parameters body =>
          rw [definition_bare, rebuild, rebuild, induction body List.mem_cons_self]
      | index place target indices =>
          rw [children, List.forall_mem_cons] at induction
          rw [index_bare, rebuild, rebuild, induction.1, all indices induction.2]
      | member place target name =>
          rw [member_bare, rebuild, rebuild, induction target List.mem_cons_self]
      | range place first last =>
          rw [range_bare, rebuild, rebuild, induction first (by simp [children]),
            induction last (by simp [children])]
      | steppedRange place first last step =>
          rw [stepped_range_bare, rebuild, rebuild, induction first (by simp [children]),
            induction last (by simp [children]), induction step (by simp [children])]
      | array place elements => rw [array_bare, rebuild, rebuild, all elements induction]
      | object place entries =>
          have same : rebuildEntries change (entries.map fun entry => (entry.1, entry.2.bare)) =
              rebuildEntries change entries := by
            rw [rebuild_entries_eq, rebuild_entries_eq, List.map_map]
            apply List.map_congr_left
            intro entry member
            have value := induction entry.2 (List.mem_map_of_mem member)
            exact congrArg (Prod.mk entry.1) value
          rw [object_bare, rebuild, rebuild, same]
      | block place statements => rw [block_bare, rebuild, rebuild, all statements induction]

theorem rebuild_of_bare {first second : Formula label} (same : first.bare = second.bare) :
    first.rebuild change = second.rebuild change := by
  rw [← rebuild_bare, same, rebuild_bare]

end Formula

/-- A token that is nowhere in particular. -/
def Token.ofSense (sense : Sense) : Token := ⟨sense.1, sense.2, ⟨.start, .start⟩⟩

namespace Grammar

open FormulaPlot.Formula

/-- The grammar derives the formula in some layer. -/
def Derives (room : Nat) (tokens : List Token) (formula : Formula Span) : Nat → Prop
  | 6 => Postfix room tokens formula
  | 5 => Power room tokens formula
  | 4 => Operand room tokens formula
  | level => Level room level tokens formula

section Derives

variable {room wide layer : Nat} {tokens : List Token} {formula : Formula Span}

theorem Derives.widen (within : room ≤ wide) (derived : Derives room tokens formula layer) :
    Derives wide tokens formula layer := by
  unfold Derives at derived ⊢
  split at derived
  · exact Postfix.widen within derived
  · exact Power.widen within derived
  · exact Operand.widen within derived
  · exact Level.widen within derived

theorem Derives.level (within : layer ≤ signLayer) (derived : Derives room tokens formula layer) :
    Level room layer tokens formula := by
  unfold signLayer at within
  unfold Derives at derived
  split at derived
  · omega
  · omega
  · exact .operand (by decide) derived
  · exact derived

theorem Level.derives (within : layer ≤ productPrecedence)
    (derived : Level room layer tokens formula) : Derives room tokens formula layer := by
  unfold productPrecedence at within
  unfold Derives
  split
  · omega
  · omega
  · omega
  · exact derived

theorem Derives.looser (within : layer < primaryLayer)
    (derived : Derives room tokens formula (layer + 1)) :
    ∃ wide, Derives wide tokens formula layer := by
  unfold primaryLayer at within
  match layer with
  | 5 => exact ⟨room, .base derived⟩
  | 4 => exact ⟨room + 1, .power derived⟩
  | 3 => exact ⟨room, .tighter (.operand (by decide) derived)⟩
  | 2 => exact ⟨room, .tighter derived⟩
  | 1 => exact ⟨room, .tighter derived⟩
  | 0 => exact ⟨room, .tighter derived⟩

end Derives

/-- The senses are those of a formula that is rebuilt to the tree. -/
def Yields (change : Formula Unit → Formula Unit) (layer : Nat) (senses : List Sense)
    (tree : Formula Unit) : Prop :=
  ∃ room formula, Derives room (senses.map Token.ofSense) formula layer ∧
    formula.rebuild change = tree

def YieldsAll (change : Formula Unit → Formula Unit) (senses : List Sense)
    (trees : List (Formula Unit)) : Prop :=
  ∃ room formulas, Items room (senses.map Token.ofSense) formulas ∧
    formulas.map (rebuild change) = trees

def bracketSense : Sense := (.leftBracket, "[")

def endBracketSense : Sense := (.rightBracket, "]")

def commaSense : Sense := (.comma, ",")

def powerSense : Sense := (.caret, "^")

theorem tokens_within (first last : Sense) (senses : List Sense) :
    (first :: (senses ++ [last])).map Token.ofSense =
      .ofSense first :: (senses.map Token.ofSense ++ [.ofSense last]) := by
  rw [List.map_cons, List.map_append, List.map_singleton]

theorem tokens_around (sense : Sense) (head tail : List Sense) :
    (head ++ sense :: tail).map Token.ofSense =
      head.map Token.ofSense ++ .ofSense sense :: tail.map Token.ofSense := by
  rw [List.map_append, List.map_cons]

theorem Items.sequence {room : Nat} {tokens : List Token} {formulas : List (Formula Span)}
    (items : Items room tokens formulas) (present : formulas ≠ []) :
    Sequence room tokens formulas := by
  cases items with
  | none => exact absurd rfl present
  | some sequence => exact sequence

variable {change : Formula Unit → Formula Unit} {senses others : List Sense}
  {tree another : Formula Unit} {trees : List (Formula Unit)}

theorem Yields.looser {layer higher : Nat} (within : layer ≤ higher) (most : higher ≤ primaryLayer)
    (yields : Yields change higher senses tree) : Yields change layer senses tree := by
  induction higher with
  | zero =>
      have same : layer = 0 := by omega
      rwa [same]
  | succ higher induction =>
      by_cases same : layer = higher + 1
      · rwa [same]
      · have ⟨room, formula, derived, rebuilt⟩ := yields
        have ⟨wide, loose⟩ := derived.looser most
        exact induction (by omega) (by omega) ⟨wide, formula, loose, rebuilt⟩

theorem yields_number (lexeme : String) :
    Yields change primaryLayer [(.number, lexeme)]
      (change (constant () (numeralValue lexeme) lexeme)) :=
  ⟨0, _, .primary (.number rfl), rfl⟩

theorem yields_name (name : String) :
    Yields change primaryLayer [(.identifier, name)] (change (symbol () name)) :=
  ⟨0, _, .primary (.name rfl), rfl⟩

theorem Yields.group (inside : Yields change 0 senses tree) :
    Yields change primaryLayer (openSense :: (senses ++ [closeSense])) tree := by
  have ⟨room, formula, derived, rebuilt⟩ := inside
  have statement := Statement.range (.single (derived.level (Nat.zero_le _)))
  have grouped := @Primary.group _ (.ofSense openSense) (.ofSense closeSense) _ _ rfl statement rfl
  rw [← tokens_within] at grouped
  exact ⟨room, _, .primary grouped, rebuilt⟩

theorem yields_none : YieldsAll change [] [] := ⟨0, [], .none, rfl⟩

theorem Yields.one (yields : Yields change 0 senses tree) : YieldsAll change senses [tree] := by
  have ⟨room, formula, derived, rebuilt⟩ := yields
  have level := derived.level (Nat.zero_le _)
  exact ⟨room, [formula], .some (.last (.single level)), congrArg (· :: []) rebuilt⟩

theorem Yields.cons (first : Yields change 0 senses tree)
    (rest : YieldsAll change others (another :: trees)) :
    YieldsAll change (senses ++ commaSense :: others) (tree :: another :: trees) := by
  have ⟨room, formula, derived, rebuilt⟩ := first
  have ⟨wide, formulas, items, rebuiltAll⟩ := rest
  have present : formulas ≠ [] := by
    rintro rfl
    contradiction
  have head := (derived.level (Nat.zero_le _)).widen (Nat.le_max_left room wide)
  have tail := (items.sequence present).widen (Nat.le_max_right room wide)
  have whole := @Sequence.more _ _ _ (.ofSense commaSense) _ _ (.single head) rfl tail
  rw [← tokens_around] at whole
  refine ⟨max room wide, formula :: formulas, .some whole, ?_⟩
  rw [List.map_cons, rebuilt, rebuiltAll]

theorem YieldsAll.call (name : String) (items : YieldsAll change senses trees) :
    Yields change primaryLayer ((.identifier, name) :: openSense :: (senses ++ [closeSense]))
      (change (call () name trees)) := by
  have ⟨room, formulas, derived, rebuilt⟩ := items
  have head : Postfix room [.ofSense (.identifier, name)] _ := .primary (.name rfl)
  have whole := @Postfix.call _ _ _ (.ofSense openSense) (.ofSense closeSense) _ _ _ head rfl
    derived rfl
  rw [← tokens_within] at whole
  refine ⟨room, _, whole, ?_⟩
  rw [rebuild, rebuild_all_eq, rebuilt]
  rfl

theorem YieldsAll.array (items : YieldsAll change senses trees) :
    Yields change primaryLayer (bracketSense :: (senses ++ [endBracketSense]))
      (change (array () trees)) := by
  have ⟨room, formulas, derived, rebuilt⟩ := items
  have whole := @Primary.array _ (.ofSense bracketSense) (.ofSense endBracketSense) _ _ rfl derived
    rfl
  rw [← tokens_within] at whole
  refine ⟨room, _, .primary whole, ?_⟩
  rw [rebuild, rebuild_all_eq, rebuilt]

theorem Yields.index (target : Yields change primaryLayer senses tree)
    (items : YieldsAll change others trees) :
    Yields change primaryLayer (senses ++ bracketSense :: (others ++ [endBracketSense]))
      (change (index () tree trees)) := by
  have ⟨room, formula, derived, rebuilt⟩ := target
  have ⟨wide, formulas, behind, rebuiltAll⟩ := items
  have head := derived.widen (Nat.le_max_left room wide)
  have inside := behind.widen (Nat.le_max_right room wide)
  have whole := @Postfix.index _ _ _ (.ofSense bracketSense) (.ofSense endBracketSense) _ _ head
    rfl inside rfl
  rw [← tokens_within, ← List.map_append] at whole
  refine ⟨max room wide, _, whole, ?_⟩
  rw [rebuild, rebuild_all_eq, rebuilt, rebuiltAll]

theorem Yields.signed {kind : TokenKind} (lexeme : String) (isSign : kind.isSign = true)
    (operand : Yields change signLayer senses tree) :
    Yields change signLayer ((kind, lexeme) :: senses) (change (unary () kind tree)) := by
  have ⟨room, formula, derived, rebuilt⟩ := operand
  have whole := @Operand.signed _ (.ofSense (kind, lexeme)) _ _ isSign derived
  refine ⟨room + 1, _, whole, ?_⟩
  rw [rebuild, rebuilt]
  rfl

theorem Yields.power (base : Yields change primaryLayer senses tree)
    (exponent : Yields change signLayer others another) :
    Yields change powerLayer (senses ++ powerSense :: others)
      (change (binary () .caret tree another)) := by
  have ⟨room, formula, derived, rebuilt⟩ := base
  have ⟨wide, raised, behind, rebuiltRaised⟩ := exponent
  have head := derived.widen (Nat.le_max_left room wide)
  have tail := behind.widen (Nat.le_max_right room wide)
  have whole := @Power.raised _ _ _ (.ofSense powerSense) _ _ head rfl tail
  rw [← tokens_around] at whole
  refine ⟨max room wide, _, whole, ?_⟩
  rw [rebuild, rebuilt, rebuiltRaised]

theorem Yields.operation {kind : TokenKind} {precedence : Nat} (lexeme : String)
    (found : precedence? kind = some precedence) (left : Yields change precedence senses tree)
    (right : Yields change (precedence + 1) others another) :
    Yields change precedence (senses ++ (kind, lexeme) :: others)
      (change (binary () kind tree another)) := by
  have ⟨room, formula, derived, rebuilt⟩ := left
  have ⟨wide, second, behind, rebuiltSecond⟩ := right
  have bound := precedence_le found
  have head := (derived.widen (Nat.le_max_left room wide)).level (Nat.le_succ_of_le bound)
  have tail := (behind.widen (Nat.le_max_right room wide)).level (Nat.succ_le_succ bound)
  have whole := @Level.operation _ _ _ _ (.ofSense (kind, lexeme)) _ _ head found tail
  rw [← tokens_around] at whole
  refine ⟨max room wide, _, whole.derives bound, ?_⟩
  rw [rebuild, rebuilt, rebuiltSecond]
  rfl

/-- A tree is determined by the senses that yield it. -/
theorem Yields.unique (yields : Yields change 0 senses tree)
    (again : Yields change 0 senses another) : tree = another := by
  have ⟨room, formula, derived, rebuilt⟩ := yields
  have ⟨wide, other, derivedAgain, rebuiltAgain⟩ := again
  have first := (derived.level (Nat.zero_le _)).body
  have second := (derivedAgain.level (Nat.zero_le _)).body
  rw [← rebuilt, ← rebuiltAgain, first.unique second rfl]

theorem sense_of_sense (token : Token) : (Token.ofSense token.sense).sense = token.sense := by
  unfold Token.ofSense Token.sense senseOf
  cases isPower : token.kind.isPower with
  | true => rfl
  | false => simp [isPower]

/-- What the senses yield is derived from all tokens that have them. -/
theorem Yields.of_tokens {tokens : List Token}
    (yields : Yields change 0 (tokens.map Token.sense) tree) :
    ∃ room formula, Level room 0 tokens formula ∧ formula.rebuild change = tree := by
  have ⟨room, formula, derived, rebuilt⟩ := yields
  have alike : Alike ((tokens.map Token.sense).map Token.ofSense) tokens := by
    unfold Alike
    rw [List.map_map, List.map_map]
    apply List.map_congr_left
    intro token _
    exact sense_of_sense token
  have ⟨other, again, same⟩ := (derived.level (Nat.zero_le _)).alike alike
  refine ⟨room, other, again, ?_⟩
  rw [rebuild_of_bare change same, rebuilt]

end Grammar

end FormulaPlot
