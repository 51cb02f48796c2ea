import FormulaPlot.Proofs.Equation.Expressions
import FormulaPlot.Proofs.Formula.Places

/-!
Positions in messages. A message that names an unexpected character or token determines both, and
its position points into the text that was read: the reported text for curves and surfaces, the
difference of the sides for relations.
-/

namespace FormulaPlot

open FormulaPlot.Equation FormulaPlot.Scanning FormulaPlot.Text

set_option autoImplicit false

/-! Messages -/

def characterHead : String := "Unexpected character '"

def tokenHead : String := "Expected "

/-- The end of a message that names a place. -/
def placed (place : Nat) : String := " at position " ++ toString place

def unexpectedCharacterText (character : Char) (place : Nat) : String :=
  characterHead ++ character.toString ++ "'" ++ placed place

def unexpectedTokenText (what lexeme : String) (place : Nat) : String :=
  tokenHead ++ what ++ ", found '" ++ lexeme ++ "'" ++ placed place

/-- The text that all messages of a kind start with. -/
def Problem.head : Problem → String
  | .lexical (.unexpectedCharacter ..) => characterHead
  | .lexical (.invalidNumber ..) => "Invalid number '"
  | .syntactic (.unexpectedToken ..) => tokenHead
  | .syntactic (.unexpectedEnd ..) => "Unexpected end of expression, expected "
  | .syntactic (.invalidTarget _) => "Invalid left hand side of assignment"
  | .syntactic (.tooDeep _) | .syntactic .exhausted => "Expression is nested too deeply."
  | .violation (.feature _) _ => "Unsupported expression feature: "
  | .violation (.function _) _ => "Unsupported function \""
  | .violation (.symbol ..) _ => "Unknown symbol \""
  | .violation (.operator _) _ => "Unsupported operator \""
  | .form fault => fault.message

theorem starts_append {head : List Char} {text more : String} (starts : head <+: text.toList) :
    head <+: (text ++ more).toList := by
  rw [String.toList_append]
  exact starts.trans (List.prefix_append _ _)

theorem message_head (problem : Problem) : problem.head.toList <+: problem.message.toList := by
  have whole := fun text : String => List.prefix_refl text.toList
  cases problem with
  | lexical fault =>
      cases fault with
      | unexpectedCharacter character span =>
          exact starts_append (starts_append (starts_append (whole _)))
      | invalidNumber lexeme span => exact starts_append (starts_append (starts_append (whole _)))
  | syntactic fault =>
      cases fault with
      | unexpectedToken what found span =>
          exact starts_append (starts_append (starts_append (starts_append
            (starts_append (whole _)))))
      | unexpectedEnd what span => exact starts_append (whole _)
      | invalidTarget span => exact starts_append (whole _)
      | tooDeep span => exact whole _
      | exhausted => exact whole _
  | violation found span =>
      cases found with
      | feature kind => exact starts_append (whole _)
      | function name => exact starts_append (starts_append (whole _))
      | symbol name allowed =>
          exact starts_append (starts_append (starts_append (starts_append (whole _))))
      | operator sign => exact starts_append (starts_append (whole _))
  | form fault => exact whole _

/-- What messages without a character or a token start with. -/
def otherHeads : List String :=
  ["Invalid number '", "Unexpected end of expression, expected ",
    "Invalid left hand side of assignment", "Expression is nested too deeply.",
    "Unsupported expression feature: ", "Unsupported function \"", "Unknown symbol \"",
    "Unsupported operator \"", FormFault.emptySide.message, FormFault.tooManyEquals.message,
    FormFault.equalsInSurface.message]

theorem head_cases (problem : Problem) :
    (∃ character span, problem = .lexical (.unexpectedCharacter character span)) ∨
      (∃ what found span, problem = .syntactic (.unexpectedToken what found span)) ∨
        problem.head ∈ otherHeads := by
  cases problem with
  | lexical fault =>
      cases fault with
      | unexpectedCharacter character span => exact .inl ⟨character, span, rfl⟩
      | invalidNumber lexeme span => simp [Problem.head, otherHeads]
  | syntactic fault =>
      cases fault with
      | unexpectedToken what found span => exact .inr (.inl ⟨what, found, span, rfl⟩)
      | _ => simp [Problem.head, otherHeads]
  | violation found span => cases found <;> simp [Problem.head, otherHeads]
  | form fault => cases fault <;> simp [Problem.head, otherHeads]

/-- Heads of two texts that start a third one. -/
def Agree (first second : String) : Prop :=
  first.toList <+: second.toList ∨ second.toList <+: first.toList

instance (first second : String) : Decidable (Agree first second) :=
  inferInstanceAs (Decidable (first.toList <+: second.toList ∨ second.toList <+: first.toList))

theorem other_heads_apart :
    ∀ head ∈ otherHeads, ¬Agree head characterHead ∧ ¬Agree head tokenHead := by
  decide

theorem heads_agree {problem : Problem} {head : String}
    (starts : head.toList <+: problem.message.toList) : Agree problem.head head :=
  List.prefix_or_prefix_of_prefix (message_head problem) starts

theorem append_cons_inj_of_tails {α : Type} {first other tail more : List α} {mark : α}
    (here : mark ∉ tail) (there : mark ∉ more)
    (same : first ++ mark :: tail = other ++ mark :: more) : first = other ∧ tail = more := by
  rcases List.append_eq_append_iff.mp same with ⟨gap, rfl, rest⟩ | ⟨gap, rfl, rest⟩
  · cases gap with
    | nil => simpa using rest
    | cons next gap =>
        injection rest with _ rest
        exact absurd (rest ▸ List.mem_append_right gap List.mem_cons_self) here
  · cases gap with
    | nil => simpa using rest.symm
    | cons next gap =>
        injection rest with _ rest
        exact absurd (rest ▸ List.mem_append_right gap List.mem_cons_self) there

theorem no_blank_in_digits (place : Nat) : ' ' ∉ (toString place).toList := by
  intro blank
  rw [Nat.toString_eq_repr, Nat.toList_repr] at blank
  exact absurd (Nat.isDigit_of_mem_toDigits (by decide) (by decide) blank) (by decide)

theorem place_of_digits {place another : Nat}
    (same : (toString place).toList = (toString another).toList) : place = another := by
  rw [Nat.toString_eq_repr, Nat.toString_eq_repr, Nat.toList_repr, Nat.toList_repr] at same
  have values := congrArg (fun digits => Nat.ofDigitChars 10 digits 0) same
  simpa only [Nat.ofDigitChars_ten_toDigits] using values

/-- What is quoted before a position is followed by it in one way. -/
theorem quoted_unique {first other : String} {place another : Nat}
    (same : first ++ "'" ++ placed place = other ++ "'" ++ placed another) :
    first = other ∧ place = another := by
  have parted : ∀ (text : String) (place : Nat), (text ++ "'" ++ placed place).toList =
      (text.toList ++ "' at position".toList) ++ ' ' :: (toString place).toList := by
    intro text place
    rw [placed, String.toList_append, String.toList_append, String.toList_append,
      List.append_assoc, List.append_assoc]
    rfl
  have lists := congrArg String.toList same
  rw [parted, parted] at lists
  obtain ⟨front, digits⟩ :=
    append_cons_inj_of_tails (no_blank_in_digits place) (no_blank_in_digits another) lists
  exact ⟨String.toList_inj.mp (List.append_cancel_right front), place_of_digits digits⟩

theorem character_text_unique {character other : Char} {place another : Nat}
    (same : unexpectedCharacterText character place = unexpectedCharacterText other another) :
    character = other ∧ place = another := by
  obtain ⟨front, places⟩ := quoted_unique same
  have lists := congrArg String.toList front
  rw [String.toList_append, String.toList_append] at lists
  have chars := List.append_cancel_left lists
  exact ⟨by simpa using chars, places⟩

theorem problem_of_character_text {problem : Problem} {character : Char} {place : Nat}
    (same : problem.message = unexpectedCharacterText character place) :
    ∃ span, problem = .lexical (.unexpectedCharacter character span) ∧
      span.start.offset = place := by
  have starts : characterHead.toList <+: problem.message.toList := by
    rw [same]
    exact starts_append (starts_append (starts_append (List.prefix_refl characterHead.toList)))
  have agree := heads_agree starts
  rcases head_cases problem with ⟨found, span, isLexical⟩ | ⟨what, found, span, isSyntactic⟩ | other
  · subst isLexical
    obtain ⟨rfl, rfl⟩ := character_text_unique same
    exact ⟨span, rfl, rfl⟩
  · subst isSyntactic
    have agree : Agree tokenHead characterHead := agree
    exact absurd agree (by decide)
  · exact absurd agree (other_heads_apart _ other).1

/-- What stands between the comma behind what was expected and the lexeme that was found. -/
def foundTail : List Char := " found '".toList

/-- Without a comma in front and without a quotation mark behind there is one place for the mark in
between. -/
theorem found_unique {what lexeme plain unquoted : List Char} (noComma : ',' ∉ plain)
    (noQuote : '\'' ∉ unquoted)
    (same : what ++ ',' :: (foundTail ++ lexeme) = plain ++ ',' :: (foundTail ++ unquoted)) :
    lexeme = unquoted := by
  rcases List.append_eq_append_iff.mp same with ⟨gap, rfl, rest⟩ | ⟨gap, rfl, rest⟩
  · cases gap with
    | nil =>
        injection rest with _ rest
        exact List.append_cancel_left rest
    | cons next gap =>
        injection rest with first _
        rw [← first] at noComma
        exact absurd (List.mem_append_right what List.mem_cons_self) noComma
  · cases gap with
    | nil =>
        injection rest with _ rest
        exact (List.append_cancel_left rest).symm
    | cons next gap =>
        injection rest with _ rest
        have quoted : '\'' ∈ foundTail := by decide
        rcases List.append_eq_append_iff.mp rest with ⟨more, rfl, behind⟩ | ⟨more, tail, behind⟩
        · rw [behind] at noQuote
          have inside : '\'' ∈ ',' :: (foundTail ++ lexeme) :=
            List.mem_cons_of_mem _ (List.mem_append_left _ quoted)
          exact absurd (List.mem_append_right more inside) noQuote
        · cases more with
          | nil =>
              rw [List.nil_append] at behind
              rw [← behind] at noQuote
              exact absurd (List.mem_cons_of_mem _ (List.mem_append_left _ quoted)) noQuote
          | cons next more =>
              injection behind with first _
              rw [← first] at tail
              have comma : ',' ∈ foundTail := by
                rw [tail]
                exact List.mem_append_right gap List.mem_cons_self
              exact absurd comma (by decide)

theorem token_text_unique {what lexeme plain unquoted : String} {place another : Nat}
    (noComma : ',' ∉ plain.toList) (noQuote : '\'' ∉ unquoted.toList)
    (same : unexpectedTokenText what lexeme place = unexpectedTokenText plain unquoted another) :
    lexeme = unquoted ∧ place = another := by
  obtain ⟨front, places⟩ := quoted_unique same
  have parted : ∀ what lexeme : String, (tokenHead ++ what ++ ", found '" ++ lexeme).toList =
      tokenHead.toList ++ (what.toList ++ ',' :: (foundTail ++ lexeme.toList)) := by
    intro what lexeme
    rw [String.toList_append, String.toList_append, String.toList_append, List.append_assoc,
      List.append_assoc]
    rfl
  have lists := congrArg String.toList front
  rw [parted, parted] at lists
  have lexemes := found_unique noComma noQuote (List.append_cancel_left lists)
  exact ⟨String.toList_inj.mp lexemes, places⟩

theorem problem_of_token_text {problem : Problem} {what lexeme : String} {place : Nat}
    (same : problem.message = unexpectedTokenText what lexeme place) :
    ∃ plain found span, problem = .syntactic (.unexpectedToken plain found span) ∧
      unexpectedTokenText plain found span.start.offset =
        unexpectedTokenText what lexeme place := by
  have starts : tokenHead.toList <+: problem.message.toList := by
    rw [same]
    exact starts_append (starts_append (starts_append (starts_append (starts_append
      (List.prefix_refl tokenHead.toList)))))
  have agree := heads_agree starts
  rcases head_cases problem with ⟨found, span, isLexical⟩ | ⟨plain, found, span, isSyntactic⟩ |
    other
  · subst isLexical
    have agree : Agree characterHead tokenHead := agree
    exact absurd agree (by decide)
  · subst isSyntactic
    exact ⟨plain, found, span, rfl, same⟩
  · exact absurd agree (other_heads_apart _ other).2

/-! Preparations -/

/-- Places that are named in the message of a preparation are places of a text. The lexeme shown
for a line end is not looked up. -/
structure Prepared.PointsInto (prepared : Prepared) (text : String) : Prop where
  character : ∀ character place,
    prepared.message? = some (unexpectedCharacterText character place) →
      text.toList[place]? = some character
  token : ∀ what lexeme place,
    prepared.message? = some (unexpectedTokenText what lexeme place) → lexeme ≠ newlineLexeme →
      lexeme.toList <+: text.toList.drop place

theorem points_into_of_problem {prepared : Prepared} {text : String}
    (points : ∀ problem, prepared.outcome = .refused problem →
      Formula.PointsInto text.toList problem) : prepared.PointsInto text := by
  have refused : ∀ message, prepared.message? = some message →
      ∃ problem, problem.message = message ∧ Formula.PointsInto text.toList problem := by
    intro message shown
    obtain ⟨problem, found, same⟩ := Option.map_eq_some_iff.mp shown
    have isRefused : prepared.outcome = .refused problem := by
      unfold Prepared.problem? at found
      split at found
      · next same =>
          injection found with again
          rw [same, again]
      · contradiction
    exact ⟨problem, same, points problem isRefused⟩
  constructor
  · intro character place shown
    obtain ⟨problem, same, here⟩ := refused _ shown
    obtain ⟨span, rfl, rfl⟩ := problem_of_character_text same
    exact here
  · intro what lexeme place shown notNewline
    obtain ⟨problem, same, here⟩ := refused _ shown
    obtain ⟨plain, found, span, rfl, texts⟩ := problem_of_token_text same
    obtain ⟨noComma, noQuote, stands⟩ := here
    obtain ⟨rfl, rfl⟩ := token_text_unique noComma noQuote texts.symm
    exact stands.resolve_left notNewline

namespace Equation

theorem evaluator_points {mode : Mode} {text : String} {problem : Problem}
    (refused : evaluator mode text = .error problem) :
    Formula.PointsInto text.toList problem := by
  unfold evaluator at refused
  split at refused
  · next found =>
      injection refused with same
      rw [← same]
      exact Formula.read_points_into found
  · next formula _ =>
      split at refused
      · injection refused with same
        rw [← same]
        trivial
      · cases made : Evaluator.ofFormula formula mode.inputs with
        | ok evaluator =>
            rw [made] at refused
            contradiction
        | error found =>
            rw [made] at refused
            injection refused with same
            rw [← same]
            trivial

theorem latex_points {mode : Mode} {text : String} {problem : Problem}
    (refused : evaluatorWithLatex mode text = .error problem) :
    Formula.PointsInto text.toList problem := by
  unfold evaluatorWithLatex at refused
  split at refused
  · next found =>
      injection refused with same
      rw [← same]
      exact evaluator_points found
  · split at refused
    · next fault _ =>
        injection refused with same
        rw [← same]
        cases fault <;> trivial
    · contradiction

theorem explicit_points (text : String) :
    (prepareExplicit text).PointsInto (prepareExplicit text).normalized := by
  rw [prepare_explicit_def]
  split
  · next found =>
      apply points_into_of_problem
      intro problem refused
      injection refused with same
      rw [← same]
      exact latex_points found
  · apply points_into_of_problem
    intro problem refused
    contradiction

theorem relation_points (text left right : String) :
    (prepareImplicit text left right).PointsInto (difference left right) := by
  rw [prepare_implicit_def]
  split
  · next found =>
      apply points_into_of_problem
      intro problem refused
      injection refused with same
      rw [← same]
      exact evaluator_points found
  · apply points_into_of_problem
    intro problem refused
    contradiction

theorem form_points {text : String} {mode : Mode} {latex : Option String} (fault : FormFault)
    (characters : String) :
    (Prepared.mk text mode latex (.refused (.form fault))).PointsInto characters := by
  apply points_into_of_problem
  intro problem refused
  injection refused with same
  rw [← same]
  trivial

theorem sides_points (text : String) (left right : List Char) :
    ((prepareSides text left right).mode ≠ .implicit →
      (prepareSides text left right).PointsInto (prepareSides text left right).normalized) ∧
    ((prepareSides text left right).mode = .implicit → (prepareSides text left right).PointsInto
      (difference (String.ofList left) (String.ofList right))) := by
  have curve : ∀ side, (prepareExplicit side).mode ≠ .implicit := by
    intro side
    rw [explicit_mode]
    decide
  rw [prepare_sides_def]
  split
  · exact ⟨absurd rfl, fun _ => form_points _ _⟩
  · split
    · exact ⟨fun _ => explicit_points _, fun relation => absurd relation (curve _)⟩
    · split
      · exact ⟨fun _ => explicit_points _, fun relation => absurd relation (curve _)⟩
      · exact ⟨absurd (relation_mode _ _ _), fun _ => relation_points _ _ _⟩

theorem surface_points (raw : String) :
    (prepareSurface raw).PointsInto (prepareSurface raw).normalized := by
  rw [prepare_surface_def]
  split
  · apply points_into_of_problem
    intro problem refused
    contradiction
  · split
    · exact form_points _ _
    · split
      · next found =>
          apply points_into_of_problem
          intro problem refused
          injection refused with same
          rw [← same]
          exact latex_points found
      · apply points_into_of_problem
        intro problem refused
        contradiction

/-- Places in the messages of curves and surfaces are places of the reported text. Those of a
relation are places of the difference of its sides. -/
theorem positions_point_into_text (raw : String) :
    ((prepare raw).mode ≠ .implicit ∨ (splitAtEquals (normalize raw).toList).length ≠ 2 →
      (prepare raw).PointsInto (prepare raw).normalized) ∧
    (prepareSurface raw).PointsInto (prepareSurface raw).normalized ∧
    ∀ left right, (prepare raw).mode = .implicit →
      splitAtEquals (normalize raw).toList = [left, right] →
        (prepare raw).PointsInto
          (difference (String.ofList (strip left)) (String.ofList (strip right))) := by
  refine ⟨?_, surface_points raw, ?_⟩
  · intro curve
    rw [prepare_def] at curve ⊢
    split
    · apply points_into_of_problem
      intro problem refused
      contradiction
    · next someText =>
        rw [if_neg someText] at curve
        split
        · next left right parts =>
            rw [parts] at curve
            exact (sides_points _ _ _).1 (curve.resolve_right (absurd rfl))
        · exact explicit_points _
        · exact form_points _ _
  · intro left right relation parts
    rw [prepare_def] at relation ⊢
    split
    · next blank =>
        rw [if_pos blank] at relation
        contradiction
    · next someText =>
        rw [if_neg someText, parts] at relation
        rw [parts]
        exact (sides_points _ _ _).2 relation

theorem stray_characters_found :
    (prepare "2 $ x").normalized.toList[2]? = some '$' ∧
      "*".toList <+: (prepareSurface "x + * y").normalized.toList.drop 4 ∧
      (difference "x^2 + $" "y^2").toList[7]? = some '$' := by
  have curveText : (prepare "2 $ x").message? = some (unexpectedCharacterText '$' 2) := by
    decide +kernel
  have surfaceText : (prepareSurface "x + * y").message? =
      some (unexpectedTokenText "expression" "*" 4) := by decide +kernel
  have relationText : (prepare "x^2 + $ = y^2").message? =
      some (unexpectedCharacterText '$' 7) := by decide +kernel
  have curveMode : (prepare "2 $ x").mode ≠ .implicit := by decide +kernel
  have relationMode : (prepare "x^2 + $ = y^2").mode = .implicit := by decide +kernel
  have parts : splitAtEquals (normalize "x^2 + $ = y^2").toList =
      ["x^2 + $ ".toList, " y^2".toList] := by decide +kernel
  refine ⟨?_, ?_, ?_⟩
  · obtain ⟨curve, _, _⟩ := positions_point_into_text "2 $ x"
    exact (curve (.inl curveMode)).character '$' 2 curveText
  · obtain ⟨_, surface, _⟩ := positions_point_into_text "x + * y"
    exact surface.token "expression" "*" 4 surfaceText (by decide)
  · obtain ⟨_, _, relation⟩ := positions_point_into_text "x^2 + $ = y^2"
    exact (relation _ _ relationMode parts).character '$' 7 relationText

/-- The parenthesis in front of the left side moves all places of a relation by one. -/
theorem relation_places_shifted :
    (prepare "x^2 + $ = y^2").message? = some (unexpectedCharacterText '$' 7) ∧
      (prepare "x^2 + $ = y^2").normalized.toList[7]? = some ' ' ∧
      ¬(prepare "x^2 + $ = y^2").PointsInto (prepare "x^2 + $ = y^2").normalized := by
  have shown : (prepare "x^2 + $ = y^2").message? = some (unexpectedCharacterText '$' 7) := by
    decide +kernel
  have blank : (prepare "x^2 + $ = y^2").normalized.toList[7]? = some ' ' := by decide +kernel
  refine ⟨shown, blank, ?_⟩
  intro points
  have dollar := points.character '$' 7 shown
  rw [blank] at dollar
  injection dollar with same
  contradiction

end Equation

end FormulaPlot
