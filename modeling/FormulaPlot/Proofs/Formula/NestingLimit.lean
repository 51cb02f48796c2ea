import FormulaPlot.Proofs.Formula.Levels
import FormulaPlot.Proofs.Formula.Spelling
import FormulaPlot.Proofs.Formula.TreeOpenings

/-!
The limit on nesting. Whether a well-formed text is nested too deeply can be told from its tokens:
an operand takes a level of its own besides the openings that it stands in, unless it is a factor
behind another one without a sign. So one opening less than the limit can be nested in each other,
and any number of them behind such factors, until the tree is too deep or the stack does not
reach.
-/

namespace FormulaPlot.Grammar

open FormulaPlot.Formula Cursor

set_option autoImplicit false

/-- A text is refused because something in it is nested too deeply. -/
def TooDeep (tokens : List Token) : Prop := ∃ span, ofTokens tokens = .error (.tooDeep span)

/-- Which well-formed texts are nested too deeply: those with a token in as many openings as the
limit allows, factors without a sign deducted, and those with a tree that is too deep. Of the
latter some exhaust the stack before that is found out. A limit on the openings alone decides only
where there are no such factors, and no token reaches it. -/
structure NestingDecides (tokens : List Token) (formula : Formula Span) : Prop where
  refused : TooDeep tokens ∨ Exhausted tokens ↔
    (∃ enclosure ∈ nesting (beforeEnd tokens),
      mostNested + enclosure.factors ≤ enclosure.openings) ∨ greatestDepth < formula.depth
  accepted : ¬TooDeep tokens → ¬Exhausted tokens → ofTokens tokens = .ok formula
  exhausted : Exhausted tokens → greatestDepth < formula.depth ∧
    ∃ enclosure ∈ nesting (beforeEnd tokens), enclosure.factors ≠ 0
  counted : ∀ bound, (∀ enclosure ∈ nesting (beforeEnd tokens), enclosure.openings ≤ bound) ↔
    formula.openings ≤ bound
  documented : (∀ enclosure ∈ nesting (beforeEnd tokens),
      enclosure.factors = 0 ∧ enclosure.openings ≠ mostNested) →
    (TooDeep tokens ↔
      (∃ enclosure ∈ nesting (beforeEnd tokens), mostNested < enclosure.openings) ∨
        greatestDepth < formula.depth)

theorem TooDeep.not_accepted {tokens : List Token} {formula : Formula Span}
    (deep : TooDeep tokens) : ofTokens tokens ≠ .ok formula := by
  obtain ⟨span, refused⟩ := deep
  rw [refused]
  exact fun equal => by cases equal

section Verdict

variable {room : Nat} {tokens : List Token} {formula : Formula Span}

theorem Body.accepted_of_reached (derived : Body room (beforeEnd tokens) formula)
    (shallow : ¬TooDeep tokens) (reached : ¬Exhausted tokens) : ofTokens tokens = .ok formula :=
  (derived.of_tokens_cramped reached).resolve_right shallow

theorem Body.too_deep_iff (derived : Body room (beforeEnd tokens) formula) :
    TooDeep tokens ∨ Exhausted tokens ↔
      (∃ enclosure ∈ nesting (beforeEnd tokens),
        mostNested + enclosure.factors ≤ enclosure.openings) ∨ greatestDepth < formula.depth := by
  have read : ¬(TooDeep tokens ∨ Exhausted tokens) ↔
      Body mostNested (beforeEnd tokens) formula ∧ formula.depth ≤ greatestDepth := by
    rw [← of_tokens_eq_ok_iff, not_or]
    constructor
    · exact fun ⟨shallow, reached⟩ => derived.accepted_of_reached shallow reached
    · intro read
      refine ⟨fun deep => deep.not_accepted read, fun exhausted => ?_⟩
      rw [Exhausted, read] at exhausted
      contradiction
  rw [derived.derived_iff] at read
  constructor
  · intro refused
    apply Classical.byContradiction
    intro neither
    obtain ⟨shallow, small⟩ := not_or.mp neither
    refine read.mpr ⟨fun enclosure member => ?_, Nat.le_of_not_lt small⟩ refused
    exact Nat.lt_of_not_le fun above => shallow ⟨enclosure, member, above⟩
  · intro exceeds
    apply Classical.byContradiction
    intro accepted
    obtain ⟨shallow, small⟩ := read.mp accepted
    rcases exceeds with ⟨enclosure, member, above⟩ | tall
    · exact absurd (shallow enclosure member) (Nat.not_lt_of_le above)
    · exact absurd small (Nat.not_le_of_lt tall)

theorem Body.exhausted_above (derived : Body room (beforeEnd tokens) formula)
    (exhausted : Exhausted tokens) :
    greatestDepth < formula.depth ∧
      ∃ enclosure ∈ nesting (beforeEnd tokens), enclosure.factors ≠ 0 := by
  constructor
  · exact Nat.lt_of_not_le fun small => derived.not_exhausted small exhausted
  · apply Classical.byContradiction
    intro none
    apply derived.not_exhausted_of_alone _ exhausted
    intro enclosure member
    exact Classical.not_not.mp fun some => none ⟨enclosure, member, some⟩

/-- The tokens of a well-formed text and the depth of its tree decide whether it is nested too
deeply. -/
theorem nesting_decides (derived : Body room (beforeEnd tokens) formula) :
    NestingDecides tokens formula := by
  refine ⟨derived.too_deep_iff, derived.accepted_of_reached, derived.exhausted_above,
    derived.openings_iff, fun apart => ?_⟩
  have reached := derived.not_exhausted_of_alone fun enclosure member => (apart enclosure member).1
  have decided := derived.too_deep_iff
  rw [or_iff_left reached] at decided
  rw [decided]
  apply or_congr_left
  constructor
  · rintro ⟨enclosure, member, deep⟩
    obtain ⟨alone, other⟩ := apart enclosure member
    exact ⟨enclosure, member, by omega⟩
  · rintro ⟨enclosure, member, deep⟩
    obtain ⟨alone, _⟩ := apart enclosure member
    exact ⟨enclosure, member, by omega⟩

end Verdict

/-- Signs in front of a name open a level each, and the name one more. -/
theorem operand_of_signs {signs : List Token} {name : Token}
    (areSigns : ∀ sign ∈ signs, sign.kind.isSign = true) (isName : name.kind = .identifier) :
    ∃ formula, Operand (signs.length + 1) (signs ++ [name]) formula ∧
      formula.depth = signs.length + 1 := by
  induction signs with
  | nil =>
      have named : Postfix 0 [name] _ := .primary (.name isName)
      exact ⟨_, .power (.base named), depth_leaf rfl⟩
  | cons sign rest induction =>
      obtain ⟨isSign, others⟩ := List.forall_mem_cons.mp areSigns
      obtain ⟨formula, operand, depth⟩ := induction others
      exact ⟨_, .signed isSign operand, by rw [depth_unary, depth, List.length_cons]⟩

def signsUpTo (count : Nat) : List Token :=
  (List.range count).map fun column => ⟨.minus, "-", spanOfColumn column⟩

/-- The tokens of a name behind some number of signs. -/
def signedName (count : Nat) : List Token :=
  signsUpTo count ++ [nameAt count] ++
    [⟨.endOfText, "", ⟨(spanOfColumn count).stop, (spanOfColumn count).stop⟩⟩]

theorem signed_name_derived (count : Nat) :
    ∃ formula, Body (count + 1) (beforeEnd (signedName count)) formula ∧
      formula.depth = count + 1 := by
  have areSigns : ∀ sign ∈ signsUpTo count, sign.kind = .minus :=
    List.forall_mem_map.mpr fun _ _ => rfl
  have counted : (signsUpTo count).length = count := by
    rw [signsUpTo, List.length_map, List.length_range]
  have isName : (nameAt count).kind = .identifier := rfl
  have inFront : beforeEnd (signedName count) = signsUpTo count ++ [nameAt count] := by
    apply before_end_append _ rfl
    intro token member
    rcases List.mem_append.mp member with sign | name
    · rw [areSigns token sign]
      decide
    · rw [List.mem_singleton.mp name, isName]
      decide
  obtain ⟨formula, operand, depth⟩ :=
    operand_of_signs (fun sign member => by rw [areSigns sign member]; rfl) isName
  rw [counted] at operand depth
  rw [inFront]
  exact ⟨formula, operand.statement.body, depth⟩

/-- As many signs as openings may be nested in each other are refused in front of a name. -/
theorem signs_refused :
    (∃ room formula, Body room (beforeEnd (signedName mostNested)) formula ∧
        formula.depth ≤ greatestDepth) ∧
      (∀ enclosure ∈ nesting (beforeEnd (signedName mostNested)),
        enclosure.openings ≤ mostNested) ∧
      TooDeep (signedName mostNested) := by
  have refused : (match ofTokens (signedName mostNested) with
      | .error (.tooDeep _) => true
      | _ => false) = true := by decide +kernel
  refine ⟨?_, by decide +kernel, ?_⟩
  · obtain ⟨formula, body, depth⟩ := signed_name_derived mostNested
    exact ⟨_, formula, body, by rw [depth]; decide⟩
  · split at refused
    · exact ⟨_, by assumption⟩
    · contradiction

/-- The verdict on as many signs as openings may be nested. -/
theorem signs_decided :
    ∃ formula, Body (mostNested + 1) (beforeEnd (signedName mostNested)) formula ∧
      NestingDecides (signedName mostNested) formula := by
  obtain ⟨formula, body, _⟩ := signed_name_derived mostNested
  exact ⟨formula, body, nesting_decides body⟩

end FormulaPlot.Grammar
