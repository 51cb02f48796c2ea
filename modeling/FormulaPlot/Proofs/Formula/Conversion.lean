import FormulaPlot.Formula.Pgfmath
import FormulaPlot.Proofs.Formula.Phrases

/-!
What is written for pgfmath is read back as it was meant. The reader of formulas takes the written
text apart into the translation of the formula, node by node: no operand is regrouped.
-/

namespace FormulaPlot

open FormulaPlot.Formula FormulaPlot.Grammar FormulaPlot.Scanning FormulaPlot.Text

set_option autoImplicit false

namespace Pgfmath

def numeral (lexeme : String) : Formula Unit := .constant () (numeralValue lexeme) lexeme

/-- What a function of one argument is in pgfmath, where angles are degrees. -/
def translateCall (name : String) (argument : Formula Unit) : Formula Unit :=
  if isTrigonometric name then .call () name [.call () "deg" [argument]]
  else if isInverseTrigonometric name then
    .binary () .slash (.binary () .star (.call () name [argument]) (.symbol () "pi"))
      (numeral "180")
  else if name = "log" then .call () "ln" [argument]
  else if name = "log10" then
    .binary () .slash (.call () "ln" [argument]) (.call () "ln" [numeral "10"])
  else .call () name [argument]

/-- What a node is in pgfmath, its parts being translated already. -/
def translateNode : Formula Unit → Formula Unit
  | .symbol _ name => if name = "e" then .call () "exp" [numeral "1"] else .symbol () name
  | .binary _ .caret base exponent => .call () "pow" [base, exponent]
  | .call _ name [argument] => translateCall name argument
  | node => node

/-- The running coordinate of a curve, `x` behind a backslash, as a name. -/
def withoutBackslash : List Char → List Char
  | '\\' :: 'x' :: rest => 'x' :: withoutBackslash rest
  | character :: rest => character :: withoutBackslash rest
  | [] => []

/-- Ways to look at a written text that change nothing but coordinates. -/
structure Transparent (reading : List Char → List Char) : Prop where
  nil : reading [] = []
  cons : ∀ {character} rest, character ≠ '\\' →
    reading (character :: rest) = character :: reading rest
  append : ∀ first {character} rest, character ≠ 'x' →
    reading (first ++ character :: rest) = reading first ++ reading (character :: rest)

theorem transparent_id : Transparent id := ⟨rfl, fun _ _ => rfl, fun _ _ _ _ => rfl⟩

theorem without_backslash_cons {character : Char} {rest : List Char}
    (plain : character = '\\' → ∀ more, rest ≠ 'x' :: more) :
    withoutBackslash (character :: rest) = character :: withoutBackslash rest := by
  rw [withoutBackslash]
  rintro more rfl rfl
  exact plain rfl more rfl

theorem without_backslash_append (first : List Char) {character : Char} (rest : List Char)
    (noName : character ≠ 'x') :
    withoutBackslash (first ++ character :: rest) =
      withoutBackslash first ++ withoutBackslash (character :: rest) := by
  induction first using withoutBackslash.induct with
  | case1 more induction =>
      rw [List.cons_append, List.cons_append, withoutBackslash, withoutBackslash, induction]
      rfl
  | case2 next more plain induction =>
      have plainFirst : next = '\\' → ∀ others, more ≠ 'x' :: others := by
        rintro rfl others rfl
        exact plain others rfl rfl
      have plainWhole : next = '\\' → ∀ others, more ++ character :: rest ≠ 'x' :: others := by
        intro backslash others same
        cases more with
        | nil => exact noName (List.cons.inj same).1
        | cons second behind =>
            rw [(List.cons.inj same).1] at plainFirst
            exact plainFirst backslash behind rfl
      rw [List.cons_append, without_backslash_cons plainWhole, without_backslash_cons plainFirst,
        induction]
      rfl
  | case3 => rfl

theorem transparent_without_backslash : Transparent withoutBackslash where
  nil := rfl
  cons _ plain := without_backslash_cons fun backslash => absurd backslash plain
  append first _ rest noName := without_backslash_append first rest noName

theorem Transparent.plain {reading : List Char → List Char} (transparent : Transparent reading)
    {characters : List Char} (plain : ∀ character ∈ characters, character ≠ '\\') :
    reading characters = characters := by
  induction characters with
  | nil => exact transparent.nil
  | cons character rest induction =>
      rw [List.forall_mem_cons] at plain
      rw [transparent.cons rest plain.1, induction plain.2]

theorem name_plain {name : String} (named : IsLexeme .identifier name) :
    ∀ character ∈ name.toList, character ≠ '\\' := by
  have ⟨character, rest, shape, found⟩ := named
  have word : ∀ part ∈ character :: rest, isWordCharacter part = true := by
    rcases front_cases found with ⟨other, _⟩ | ⟨_, starts, length⟩ | ⟨_, _, _, pair, _⟩ |
      ⟨single, _⟩
    · contradiction
    · refine List.forall_mem_cons.mpr ⟨word_of_name starts, ?_⟩
      have all := List.takeWhile_prefix isWordCharacter (l := rest)
      rw [← all.eq_of_length length.symm]
      exact List.all_eq_true.mp List.all_takeWhile
    · exact absurd rfl (kind_of_pair pair).2
    · exact absurd rfl (kind_of_character single).2
  rw [shape]
  rintro part member rfl
  exact absurd (word _ member) (by decide)

theorem numeral_plain {lexeme : String} (isNumeral : IsNumeral lexeme) :
    ∀ character ∈ lexeme.toList, character ≠ '\\' := by
  rintro part member rfl
  exact absurd (isNumeral.numeric _ member) (by decide)

def knownNames : List String :=
  ["x", "y", "pi", "exp", "pow", "ln", "deg", "sin", "cos", "tan", "asin", "acos", "atan", "sqrt",
    "abs"]

theorem known_name {name : String} (known : name ∈ knownNames) : IsLexeme .identifier name := by
  simp only [knownNames, List.mem_cons, List.not_mem_nil, or_false] at known
  rcases known with rfl | rfl | rfl | rfl | rfl | rfl | rfl | rfl | rfl | rfl | rfl | rfl | rfl |
    rfl | rfl <;> exact ⟨_, _, rfl, rfl⟩

theorem known_of_contains {name : String} {names : List String}
    (known : ∀ name ∈ names, name ∈ knownNames) (member : names.contains name = true) :
    IsLexeme .identifier name :=
  known_name (known name (List.mem_of_elem_eq_true member))

theorem parenthesized_characters (text : String) :
    (parenthesized text).toList = '(' :: (text.toList ++ [')']) := by
  simp [parenthesized, String.toList_append]

section Reading

variable {reading : List Char → List Char} {name text : String} {tree : Formula Unit}

theorem Transparent.parenthesized (transparent : Transparent reading) (text : String) :
    reading (parenthesized text).toList = '(' :: (reading text.toList ++ [')']) := by
  rw [parenthesized_characters, transparent.cons _ (by decide), transparent.append _ _ (by decide),
    transparent.cons _ (by decide), transparent.nil]

theorem Transparent.applied (transparent : Transparent reading)
    (argument : Spells 0 (reading text.toList) tree) (named : IsLexeme .identifier name) :
    Spells primaryLayer (reading (applied name text).toList) (.call () name [tree]) := by
  have spells := argument.call named
  rw [← transparent.parenthesized, parenthesized_characters] at spells
  rw [Pgfmath.applied, String.toList_append, parenthesized_characters,
    transparent.append _ _ (by decide), transparent.plain (name_plain named)]
  exact spells

theorem Transparent.numeral (transparent : Transparent reading) {lexeme : String}
    (isNumeral : IsNumeral lexeme) :
    Spells primaryLayer (reading lexeme.toList) (numeral lexeme) := by
  rw [transparent.plain (numeral_plain isNumeral)]
  exact spells_number isNumeral

end Reading

theorem angle_spells {name argument : String} {tree : Formula Unit}
    (inside : Spells 0 argument.toList tree) (named : IsLexeme .identifier name) :
    Spells productPrecedence (parenthesized (applied name argument) ++ "*pi/180").toList
      (.binary () .slash (.binary () .star (.call () name [tree]) (.symbol () "pi"))
        (numeral "180")) := by
  have call := transparent_id.applied inside named
  have group := (call.loosest).group
  have pi := spells_name (known_name (by decide : "pi" ∈ knownNames))
  have half : Spells primaryLayer "180".toList (numeral "180") := spells_number ⟨_, _, rfl, rfl⟩
  have alone : front '*' "pi".toList = .lexeme .star 0 := rfl
  have left : Spells productPrecedence _ _ := group.anywhere (by decide)
  have product := left.operation (pi.anywhere (by decide)) rfl alone (apart_of_closed ('(' :: _) _)
  have quotient := product.quotient (half.anywhere (by decide))
  have shape : (parenthesized (applied name argument) ++ "*pi/180").toList =
      '(' :: (id (applied name argument).toList ++ [')']) ++ '*' :: "pi".toList ++
        '/' :: "180".toList := by
    rw [String.toList_append, parenthesized_characters, List.append_assoc]
    rfl
  rw [shape]
  exact quotient

theorem decimal_logarithm_spells {argument : String} {tree : Formula Unit}
    (inside : Spells 0 argument.toList tree) :
    Spells primaryLayer (parenthesized (applied "ln" argument ++ "/ln(10)")).toList
      (.binary () .slash (.call () "ln" [tree]) (.call () "ln" [numeral "10"])) := by
  have ln := known_name (by decide : "ln" ∈ knownNames)
  have ten : Spells primaryLayer "10".toList (numeral "10") := spells_number ⟨_, _, rfl, rfl⟩
  have left := transparent_id.applied inside ln
  have right := (ten.loosest).call ln
  have quotient := (left.anywhere (by decide)).quotient (right.anywhere (by decide))
  have shape : (applied "ln" argument ++ "/ln(10)").toList =
      id (applied "ln" argument).toList ++
        '/' :: ("ln".toList ++ '(' :: ("10".toList ++ [')'])) := by
    rw [String.toList_append]
    rfl
  rw [parenthesized_characters, shape]
  exact (quotient.looser (Nat.zero_le _) (by decide)).group

/-- A spelling whose texts, looked at in some way, are read as translations. -/
structure Legible (spelling : Spelling) (reading : List Char → List Char) : Prop where
  transparent : Transparent reading
  input : ∀ {name spelled}, spelling.inputs.lookup name = some spelled →
    name ≠ "e" ∧ IsLexeme .identifier name ∧ reading spelled.toList = name.toList
  single : ∀ {name count}, spelling.accept name count = .ok () → count = 1
  call : ∀ {name argument text tree}, spelling.accept name 1 = .ok () →
    spelling.write name argument = .ok text → Spells 0 (reading argument.toList) tree →
    Spells 0 (reading text.toList) (translateCall name tree)

theorem surface_call {name argument text : String} {tree : Formula Unit}
    (written : surface.write name argument = .ok text) (inside : Spells 0 argument.toList tree) :
    Spells 0 text.toList (translateCall name tree) := by
  simp only [surface] at written
  unfold translateCall
  split at written
  next trigonometric =>
    have named := known_of_contains (by decide) trigonometric
    have degrees := transparent_id.applied inside (known_name (by decide : "deg" ∈ knownNames))
    have call := transparent_id.applied degrees.loosest named
    rw [if_pos trigonometric, ← Except.ok.inj written]
    exact call.loosest
  next noAngle =>
    rw [if_neg noAngle]
    split at written
    next inverse =>
      have named := known_of_contains (by decide) inverse
      rw [if_pos inverse, ← Except.ok.inj written]
      exact (angle_spells inside named).looser (Nat.zero_le _) (by decide)
    next noInverse =>
      rw [if_neg noInverse]
      split at written
      next plain =>
        have named := known_of_contains (by decide) plain
        have member := List.mem_of_elem_eq_true plain
        have noLog : ∀ name ∈ ["sqrt", "abs", "exp"], name ≠ "log" ∧ name ≠ "log10" := by decide
        rw [if_neg (noLog name member).1, if_neg (noLog name member).2, ← Except.ok.inj written]
        exact (transparent_id.applied inside named).loosest
      next =>
        split at written
        next isLog =>
          have ln := known_name (by decide : "ln" ∈ knownNames)
          rw [if_pos isLog, ← Except.ok.inj written]
          exact (transparent_id.applied inside ln).loosest
        next noLog =>
          rw [if_neg noLog]
          split at written
          next isDecimal =>
            rw [if_pos isDecimal, ← Except.ok.inj written]
            exact (decimal_logarithm_spells inside).loosest
          next => contradiction

theorem surface_legible : Legible surface id where
  transparent := transparent_id
  input := by
    intro name spelled found
    simp only [surface, List.lookup_cons, List.lookup_nil] at found
    split at found
    next isX =>
      rw [beq_iff_eq.mp isX, ← Option.some.inj found]
      exact ⟨by decide, known_name (by decide), rfl⟩
    next =>
      split at found
      next isY =>
        rw [beq_iff_eq.mp isY, ← Option.some.inj found]
        exact ⟨by decide, known_name (by decide), rfl⟩
      next => contradiction
  single := by
    intro name count accepted
    simp only [surface] at accepted
    split at accepted
    · contradiction
    · omega
  call _ := surface_call

theorem curve_accepted {name : String} {count : Nat} (accepted : curve.accept name count = .ok ()) :
    name ∈ ["sqrt", "abs", "exp", "log", "ln"] ∧ count = 1 := by
  simp only [curve] at accepted
  split at accepted
  · contradiction
  · split at accepted
    · contradiction
    next contained =>
      split at accepted
      · contradiction
      next single =>
        rw [Bool.not_eq_true, Bool.not_eq_false'] at contained
        exact ⟨List.mem_of_elem_eq_true contained, Decidable.not_not.mp single⟩

/-- A curve's calls keep their names, but for logarithms. -/
theorem curve_call {name argument text : String} {tree : Formula Unit}
    (accepted : curve.accept name 1 = .ok ()) (written : curve.write name argument = .ok text)
    (inside : Spells 0 (withoutBackslash argument.toList) tree) :
    Spells 0 (withoutBackslash text.toList) (translateCall name tree) := by
  have listed := (curve_accepted accepted).1
  have plain : ∀ name ∈ ["sqrt", "abs", "exp", "log", "ln"], ¬isTrigonometric name = true ∧
      ¬isInverseTrigonometric name = true ∧ name ≠ "log10" := by decide
  have ⟨noAngle, noInverse, noDecimal⟩ := plain name listed
  rw [translateCall, if_neg noAngle, if_neg noInverse, if_neg noDecimal]
  simp only [curve] at written
  rw [← Except.ok.inj written]
  by_cases isLog : name = "log"
  · have ln := known_name (by decide : "ln" ∈ knownNames)
    rw [if_pos isLog, isLog]
    exact (transparent_without_backslash.applied inside ln).loosest
  · have known : ∀ name ∈ ["sqrt", "abs", "exp", "log", "ln"], name ≠ "log" →
        name ∈ knownNames := by decide
    have named := known_name (known name listed isLog)
    have kept : (if (name = "log" || name = "ln") = true then "ln" else name) = name := by
      rw [decide_eq_false isLog, Bool.false_or]
      split
      next isLn => exact (of_decide_eq_true isLn).symm
      next => rfl
    rw [if_neg isLog, kept]
    exact (transparent_without_backslash.applied inside named).loosest

theorem curve_legible : Legible curve withoutBackslash where
  transparent := transparent_without_backslash
  input := by
    intro name spelled found
    simp only [curve, List.lookup_cons, List.lookup_nil] at found
    split at found
    next isX =>
      rw [beq_iff_eq.mp isX, ← Option.some.inj found]
      exact ⟨by decide, known_name (by decide), by rfl⟩
    next => contradiction
  single accepted := (curve_accepted accepted).2
  call := curve_call

section Legible

variable {label : Type} {spelling : Spelling} {reading : List Char → List Char}
  (legible : Legible spelling reading)

include legible

theorem Legible.symbol {name text : String} (spelled : Pgfmath.symbol spelling name = .ok text) :
    Spells 0 (reading text.toList) (translateNode (.symbol () name)) := by
  unfold Pgfmath.symbol at spelled
  split at spelled
  next given found =>
    have ⟨noBase, named, shown⟩ := legible.input found
    rw [← Except.ok.inj spelled, shown, translateNode, if_neg noBase]
    exact (spells_name named).loosest
  next =>
    split at spelled
    next given found =>
      unfold namedConstant? at found
      split at found
      next isPi =>
        have pi := known_name (by decide : "pi" ∈ knownNames)
        rw [← Except.ok.inj spelled, ← Option.some.inj found, isPi,
          legible.transparent.plain (name_plain pi)]
        exact (spells_name pi).loosest
      next =>
        split at found
        next isBase =>
          have one := legible.transparent.numeral (show IsNumeral "1" from ⟨_, _, rfl, rfl⟩)
          have whole := legible.transparent.applied (one.loosest)
            (known_name (by decide : "exp" ∈ knownNames))
          rw [← Except.ok.inj spelled, ← Option.some.inj found, isBase]
          exact whole.loosest
        next => contradiction
    next => contradiction

theorem Legible.between {sign : Char} {kind : TokenKind} {precedence : Nat} {left right : String}
    {first second : Formula Unit} (before : Spells 0 (reading left.toList) first)
    (behind : Spells 0 (reading right.toList) second)
    (found : precedence? kind = some precedence) (signed : kind.sign.toList = [sign])
    (alone : ∀ rest, front sign ('(' :: rest) = .lexeme kind 0) (noBackslash : sign ≠ '\\')
    (noName : sign ≠ 'x') :
    Spells 0 (reading (parenthesized left ++ kind.sign ++ parenthesized right).toList)
      (.binary () kind first second) := by
  have transparent := legible.transparent
  have bound := precedence_le found
  have spells := before.combined behind found alone
  have shape : (parenthesized left ++ kind.sign ++ parenthesized right).toList =
      (parenthesized left).toList ++ sign :: (parenthesized right).toList := by
    rw [String.toList_append, String.toList_append, signed, List.append_assoc]
    rfl
  rw [shape, transparent.append _ _ noName, transparent.cons _ noBackslash,
    transparent.parenthesized, transparent.parenthesized, List.cons_append, List.append_assoc]
  exact spells.looser (Nat.zero_le _) (Nat.le_trans bound (by decide))

theorem Legible.power {left right : String} {first second : Formula Unit}
    (before : Spells 0 (reading left.toList) first)
    (behind : Spells 0 (reading right.toList) second) :
    Spells 0 (reading (applied "pow" (left ++ "," ++ right)).toList)
      (.call () "pow" [first, second]) := by
  have transparent := legible.transparent
  have pow := known_name (by decide : "pow" ∈ knownNames)
  have spells := before.callBoth behind pow
  have shape : (left ++ "," ++ right).toList = left.toList ++ ',' :: right.toList := by
    rw [String.toList_append, String.toList_append, List.append_assoc]
    rfl
  have inside : reading (left ++ "," ++ right).toList =
      reading left.toList ++ ',' :: reading right.toList := by
    rw [shape, transparent.append _ _ (by decide), transparent.cons _ (by decide)]
  rw [← inside, ← transparent.parenthesized, parenthesized_characters] at spells
  rw [applied, String.toList_append, parenthesized_characters,
    transparent.append _ _ (by decide), transparent.plain (name_plain pow)]
  exact spells.loosest

theorem Legible.combined {operator : TokenKind} {left right text : String}
    {first second : Formula Unit} (written : Pgfmath.combined operator left right = .ok text)
    (before : Spells 0 (reading left.toList) first)
    (behind : Spells 0 (reading right.toList) second) :
    Spells 0 (reading text.toList) (translateNode (.binary () operator first second)) := by
  cases operator with
  | plus | minus | star | slash =>
      rw [← Except.ok.inj written]
      exact legible.between before behind rfl rfl (fun _ => rfl) (by decide) (by decide)
  | caret =>
      rw [← Except.ok.inj written]
      exact legible.power before behind
  | _ => contradiction

/-- What is written is read as the translation of the formula. -/
theorem Legible.convert {formula : Formula label} {text : String}
    (layered : formula.Layered) (converted : formula.convert spelling = .ok text) :
    Spells 0 (reading text.toList) (formula.rebuild translateNode) := by
  induction formula using parts_induction generalizing text with
  | step formula induction =>
      have ⟨root, parts⟩ := (layered_iff formula).mp layered
      cases formula with
      | constant place value lexeme =>
          rw [← Except.ok.inj converted, rebuild, root.2]
          exact (legible.transparent.numeral root.1).loosest
      | symbol place name => exact legible.symbol converted
      | group place inner =>
          exact induction inner List.mem_cons_self (parts inner List.mem_cons_self) converted
      | unary place operator operand =>
          rw [Formula.convert] at converted
          split at converted
          next isMinus =>
            obtain ⟨inner, convertedInner, written⟩ := map_eq_ok_iff.mp converted
            have spells := induction operand List.mem_cons_self (parts operand List.mem_cons_self)
              convertedInner
            have negated := (spells.group.anywhere (by decide)).negation
            rw [← legible.transparent.parenthesized, ← legible.transparent.cons _ (by decide)]
              at negated
            rw [← written, rebuild, isMinus, String.toList_append]
            exact negated.looser (Nat.zero_le _) (by decide)
          next => contradiction
      | binary place operator left right =>
          rw [Formula.convert] at converted
          split at converted
          next => contradiction
          next first convertedLeft =>
            split at converted
            next => contradiction
            next second convertedRight =>
              have before := induction left (by simp [children]) (parts left (by simp [children]))
                convertedLeft
              have behind := induction right (by simp [children])
                (parts right (by simp [children])) convertedRight
              exact legible.combined converted before behind
      | call place name arguments =>
          rw [Formula.convert] at converted
          split at converted
          next => contradiction
          next accepted =>
            have single := legible.single accepted
            obtain ⟨argument, only⟩ := List.length_eq_one_iff.mp single
            subst only
            rw [convertCall] at converted
            split at converted
            next => contradiction
            next inner convertedInner =>
              have spells := induction argument List.mem_cons_self
                (parts argument List.mem_cons_self) convertedInner
              exact legible.call accepted converted spells
      | _ => contradiction

end Legible

/-- The text is read to its end as the tree, however much room for nesting there is beyond some
bound. The reader with its limits reads it so if it keeps within them, and never otherwise. -/
def ReadsAs (text : String) (tree : Formula Unit) : Prop :=
  (∃ tokens formula room, tokenize text = .ok tokens ∧
    (∀ finish wide, room ≤ wide →
      outcome (readAssignment finish wide (beforeEnd tokens)) = .ok (formula, [])) ∧
    (room ≤ mostNested → formula.depth ≤ greatestDepth → Formula.read text = .ok formula) ∧
    formula.core = tree) ∧
  ∀ formula, Formula.read text = .ok formula → formula.core = tree

theorem reads_of_spells {text : String} {tree : Formula Unit} (spells : Spells 0 text.toList tree) :
    ReadsAs text tree := by
  have ⟨senses, lexes, yields⟩ := spells
  constructor
  · have ⟨tokens, tokenized, same⟩ := tokens_of_lexed (lexes 0)
    rw [← same] at yields
    have ⟨room, formula, derived, rebuilt⟩ := yields.of_tokens
    refine ⟨tokens, formula, room, tokenized, ?_, ?_, rebuilt⟩
    · intro finish wide within
      have statement := Statement.range (.single (derived.widen within))
      have whole := Statement.read finish [] statement trivial
      rwa [List.append_nil] at whole
    · intro within shallow
      have whole := (of_tokens_eq_ok_iff tokens formula).mpr ⟨derived.body.widen within, shallow⟩
      simp only [Formula.read, tokenized, whole, map_error_ok]
  · intro formula spelled
    obtain ⟨tokens, lexed, derived, _⟩ := tokens_of_read spelled
    rw [(lexes 0).unique lexed] at yields
    obtain ⟨room, another, again, rebuilt⟩ := yields.of_tokens
    rw [derived.unique again.body rfl]
    exact rebuilt

theorem convert_bare {label : Type} (spelling : Spelling) (formula : Formula label) :
    formula.bare.convert spelling = formula.convert spelling := by
  induction formula using parts_induction with
  | step formula induction =>
      cases formula with
      | group place inner => exact induction inner List.mem_cons_self
      | unary place operator operand =>
          rw [unary_bare, Formula.convert, Formula.convert, induction operand List.mem_cons_self]
      | binary place operator left right =>
          rw [binary_bare, Formula.convert, Formula.convert, induction left (by simp [children]),
            induction right (by simp [children])]
      | call place name arguments =>
          have first : convertCall spelling name (arguments.map bare) =
              convertCall spelling name arguments := by
            cases arguments with
            | nil => rfl
            | cons argument rest =>
                rw [List.map_cons, convertCall, convertCall, induction argument List.mem_cons_self]
          rw [call_bare, Formula.convert, Formula.convert, List.length_map, first]
      | _ => rfl

def squareTokens : List Token :=
  [.ofSense minusSense, .ofSense (.identifier, "x"), .ofSense powerSense, .ofSense (.number, "2")]

theorem square_lexed : Lexed 0 "-x^2".toList (squareTokens.map Token.sense) :=
  .lexeme (by decide) (by decide) (show front '-' ['x', '^', '2'] = .lexeme .minus 0 from rfl)
    (.lexeme (by decide) (by decide) (show front 'x' ['^', '2'] = .lexeme .identifier 0 from rfl)
      (.lexeme (by decide) (by decide) (show front '^' ['2'] = .lexeme .caret 0 from rfl)
        (.lexeme (by decide) (by decide) (show front '2' [] = .lexeme .number 0 from rfl) .nothing)))

/-- The texts of surfaces and curves regroup nothing: they are read as the translation of the
formula. -/
theorem converted_text_reads_back {text : String} {formula : Formula Span}
    (spelled : Formula.read text = .ok formula) :
    (∀ written, formula.convert surface = .ok written →
      ReadsAs written (formula.rebuild translateNode)) ∧
    ∀ written, formula.convert curve = .ok written →
      ReadsAs (String.ofList (withoutBackslash written.toList)) (formula.rebuild translateNode) := by
  have layered := layered_of_read spelled
  constructor
  · intro written converted
    exact reads_of_spells (surface_legible.convert layered converted)
  · intro written converted
    have spells := curve_legible.convert layered converted
    apply reads_of_spells
    rw [String.toList_ofList]
    exact spells

/-- The square is negated, not its base: `-(pow(x,2))`. -/
theorem negated_square_reads_back :
    ∃ formula, Formula.read "-x^2" = .ok formula ∧
      formula.convert surface = .ok "-(pow(x,2))" ∧
      formula.convert curve = .ok "-(pow(\\x,2))" ∧
      formula.rebuild translateNode =
        .unary () .minus (.call () "pow" [.symbol () "x", numeral "2"]) ∧
      ReadsAs "-(pow(x,2))" (formula.rebuild translateNode) := by
  have two : Operand 46 [.ofSense (.number, "2")] _ := .power (.base (.primary (.number rfl)))
  have x : Postfix 46 [.ofSense (.identifier, "x")] _ := .primary (.name rfl)
  have square : Operand 47 _ _ := .power (@Power.raised _ _ _ (.ofSense powerSense) _ _ x rfl two)
  have negated : Operand mostNested squareTokens _ :=
    @Operand.signed _ (.ofSense minusSense) _ _ rfl square
  have level := Level.operand (Nat.lt_succ_self productPrecedence) negated
  have ⟨formula, spelled, same⟩ := read_of_derived square_lexed level.body
    (by rw [depth_unary, depth_binary, depth_leaf rfl, depth_leaf rfl]; decide)
  have onSurface : formula.convert surface = .ok "-(pow(x,2))" := by
    rw [← convert_bare, same]
    rfl
  have onCurve : formula.convert curve = .ok "-(pow(\\x,2))" := by
    rw [← convert_bare, same]
    rfl
  have translated := rebuild_of_bare translateNode same
  exact ⟨formula, spelled, onSurface, onCurve, translated,
    (converted_text_reads_back spelled).1 _ onSurface⟩

end Pgfmath

end FormulaPlot
