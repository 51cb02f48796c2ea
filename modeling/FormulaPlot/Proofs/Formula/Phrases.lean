import FormulaPlot.Proofs.Formula.Derivations

/-!
Texts that are read as a tree wherever they stand, and what becomes of them when they are put
together: in parentheses, as arguments of a call, behind a sign, on both sides of an operator.
-/

namespace FormulaPlot

open FormulaPlot.Formula FormulaPlot.Grammar FormulaPlot.Scanning

set_option autoImplicit false

namespace Scanning

/-- The senses of a text at every depth of brackets. -/
def Lexes (characters : List Char) (senses : List Sense) : Prop :=
  ∀ depth, Lexed depth characters senses

/-- Two texts are read one by one when they are put together. -/
def Apart (first behind : List Char) : Prop :=
  ∀ senses others, Lexes first senses → Lexes behind others →
    Lexes (first ++ behind) (senses ++ others)

theorem apart_of_separates {behind : List Char} (separating : Leads separates behind)
    (first : List Char) : Apart first behind :=
  fun _ _ lexes lexesBehind depth => (lexes depth).append separating (lexesBehind _)

/-- Anything can stand behind a closing parenthesis. -/
theorem apart_of_closed (inside behind : List Char) : Apart (inside ++ [')']) behind := by
  intro senses others lexes lexesBehind depth
  have separating (rest : List Char) : Leads separates (')' :: rest) :=
    (by decide : separates ')' = true)
  have ⟨start, last, parted, first, close⟩ := (lexes depth).split (separating [])
  have ⟨nothing, closed, empty⟩ := (lexed_close_iff _ _ _).mp close
  have whole := first.append (separating behind)
    ((lexed_close_iff _ _ _).mpr ⟨others, rfl, lexesBehind _⟩)
  rw [parted, closed, empty.of_nil, List.append_assoc, List.append_assoc]
  exact whole

theorem lexes_group {inside behind : List Char} {senses others : List Sense}
    (lexes : Lexes inside senses) (lexesBehind : Lexes behind others) :
    Lexes ('(' :: (inside ++ ')' :: behind)) (openSense :: (senses ++ closeSense :: others)) := by
  intro depth
  rw [lexed_group_iff]
  exact ⟨senses, others, rfl, lexes _, lexesBehind _⟩

theorem lexes_sign {character : Char} {kind : TokenKind} {behind : List Char}
    {others : List Sense} (neutral : ∀ depth, depthAfter kind depth = depth)
    (found : front character behind = .lexeme kind 0) (lexes : Lexes behind others) :
    Lexes (character :: behind) (senseOf kind (String.ofList [character]) :: others) := by
  intro depth
  have ⟨noGap, noNewline⟩ := no_gap_of_front found
  rw [lexed_sign_iff noGap noNewline found]
  refine ⟨others, rfl, ?_⟩
  rw [neutral]
  exact lexes depth

end Scanning

namespace Grammar

/-- A text that is read as the tree, whatever stands around it. -/
def Spells (layer : Nat) (characters : List Char) (tree : Formula Unit) : Prop :=
  ∃ senses, Lexes characters senses ∧ Yields id layer senses tree

variable {first second characters : List Char} {tree another : Formula Unit} {name : String}

theorem Spells.looser {layer higher : Nat} (spells : Spells higher characters tree)
    (within : layer ≤ higher) (most : higher ≤ primaryLayer) : Spells layer characters tree := by
  have ⟨senses, lexes, yields⟩ := spells
  exact ⟨senses, lexes, yields.looser within most⟩

theorem Spells.anywhere {layer : Nat} (spells : Spells primaryLayer characters tree)
    (within : layer ≤ primaryLayer) : Spells layer characters tree :=
  spells.looser within (Nat.le_refl _)

theorem Spells.loosest (spells : Spells primaryLayer characters tree) : Spells 0 characters tree :=
  spells.anywhere (Nat.zero_le _)

theorem spells_number {lexeme : String} (numeral : IsNumeral lexeme) :
    Spells primaryLayer lexeme.toList (constant () (numeralValue lexeme) lexeme) :=
  ⟨_, numeral.lexed, yields_number lexeme⟩

theorem spells_name (named : IsLexeme .identifier name) :
    Spells primaryLayer name.toList (symbol () name) :=
  ⟨_, named.lexed, yields_name name⟩

theorem Spells.group (inside : Spells 0 characters tree) :
    Spells primaryLayer ('(' :: (characters ++ [')'])) tree := by
  have ⟨senses, lexes, yields⟩ := inside
  exact ⟨_, lexes_group lexes fun _ => .nothing, yields.group⟩

theorem spells_call {senses : List Sense} {trees : List (Formula Unit)}
    (named : IsLexeme .identifier name) (lexes : Lexes characters senses)
    (yields : YieldsAll id senses trees) :
    Spells primaryLayer (name.toList ++ '(' :: (characters ++ [')'])) (call () name trees) := by
  have separating : Leads separates ('(' :: (characters ++ [')'])) :=
    (by decide : separates '(' = true)
  have behind := lexes_group lexes fun _ => .nothing
  exact ⟨_, apart_of_separates separating _ _ _ named.lexed behind, yields.call name⟩

theorem Spells.call (argument : Spells 0 characters tree) (named : IsLexeme .identifier name) :
    Spells primaryLayer (name.toList ++ '(' :: (characters ++ [')']))
      (.call () name [tree]) := by
  have ⟨senses, lexes, yields⟩ := argument
  exact spells_call named lexes yields.one

theorem Spells.callBoth (left : Spells 0 first tree) (right : Spells 0 second another)
    (named : IsLexeme .identifier name) :
    Spells primaryLayer (name.toList ++ '(' :: (first ++ ',' :: second ++ [')']))
      (.call () name [tree, another]) := by
  have ⟨senses, lexes, yields⟩ := left
  have ⟨others, lexesBehind, yieldsBehind⟩ := right
  have alone : front ',' second = .lexeme .comma 0 :=
    front_alone (by decide) rfl (fun _ => rfl) (by decide) second
  have behind := lexes_sign (fun _ => rfl) alone lexesBehind
  have separating : Leads separates (',' :: second) := (by decide : separates ',' = true)
  have items := apart_of_separates separating _ _ _ lexes behind
  exact spells_call named items (yields.cons yieldsBehind.one)

theorem Spells.negation (operand : Spells signLayer characters tree) :
    Spells signLayer ('-' :: characters) (unary () .minus tree) := by
  have ⟨senses, lexes, yields⟩ := operand
  have alone : front '-' characters = .lexeme .minus 0 :=
    front_alone (by decide) rfl (fun _ => rfl) (by decide) characters
  exact ⟨_, lexes_sign (fun _ => rfl) alone lexes, yields.signed _ rfl⟩

theorem Spells.operation {sign : Char} {kind : TokenKind} {precedence : Nat}
    (left : Spells precedence first tree) (right : Spells (precedence + 1) second another)
    (found : precedence? kind = some precedence) (alone : front sign second = .lexeme kind 0)
    (apart : Apart first (sign :: second)) :
    Spells precedence (first ++ sign :: second) (binary () kind tree another) := by
  have ⟨senses, lexes, yields⟩ := left
  have ⟨others, lexesBehind, yieldsBehind⟩ := right
  have neutral (depth : Nat) : depthAfter kind depth = depth := by
    cases kind <;> first | rfl | contradiction
  have plain : senseOf kind (String.ofList [sign]) = (kind, String.ofList [sign]) := by
    cases kind <;> first | rfl | contradiction
  have behind := lexes_sign neutral alone lexesBehind
  rw [plain] at behind
  exact ⟨_, apart _ _ lexes behind, yields.operation _ found yieldsBehind⟩

theorem Spells.quotient (left : Spells productPrecedence first tree)
    (right : Spells (productPrecedence + 1) second another) :
    Spells productPrecedence (first ++ '/' :: second) (binary () .slash tree another) := by
  have alone : front '/' second = .lexeme .slash 0 :=
    front_alone (by decide) rfl (fun _ => rfl) (by decide) second
  have separating : Leads separates ('/' :: second) := (by decide : separates '/' = true)
  exact left.operation right rfl alone (apart_of_separates separating first)

/-- Two operands in parentheses. -/
theorem Spells.combined {sign : Char} {kind : TokenKind} {precedence : Nat}
    (left : Spells 0 first tree) (right : Spells 0 second another)
    (found : precedence? kind = some precedence)
    (alone : ∀ rest, front sign ('(' :: rest) = .lexeme kind 0) :
    Spells precedence ('(' :: (first ++ ')' :: sign :: '(' :: (second ++ [')'])))
      (binary () kind tree another) := by
  have bound := precedence_le found
  unfold productPrecedence at bound
  have head := left.group.looser (show precedence ≤ primaryLayer by unfold primaryLayer; omega)
    (Nat.le_refl _)
  have tail := right.group.looser
    (show precedence + 1 ≤ primaryLayer by unfold primaryLayer; omega) (Nat.le_refl _)
  have whole := head.operation tail found (alone _) (apart_of_closed ('(' :: first) _)
  rw [List.cons_append, List.append_assoc] at whole
  exact whole

end Grammar

end FormulaPlot
