import FormulaPlot.Formula.Diagnostic
import FormulaPlot.Proofs.Formula.Alike
import FormulaPlot.Proofs.Formula.Exactness

/-!
Formulas from texts: a text spells what the grammar derives from tokens with the senses of its
lexemes.
-/

namespace FormulaPlot

open FormulaPlot.Formula FormulaPlot.Grammar FormulaPlot.Scanning

set_option autoImplicit false

namespace Scanning

theorem lexeme_kind {character : Char} {rest : List Char} {kind : TokenKind} {more : Nat}
    (found : front character rest = .lexeme kind more) : kind ≠ .endOfText := by
  rcases front_cases found with ⟨rfl, _, _⟩ | ⟨rfl, _, _⟩ | ⟨next, tail, _, pair, _⟩ | ⟨single, _⟩
  · decide
  · decide
  · rintro rfl
    unfold TokenKind.ofPair? at pair
    split at pair <;> simp at pair
  · rintro rfl
    unfold TokenKind.ofCharacter? at single
    split at single <;> simp at single

theorem sense_end_iff (kind : TokenKind) (lexeme : String) :
    (senseOf kind lexeme).1 = .endOfText ↔ kind = .endOfText := by
  cases kind <;> simp [senseOf, TokenKind.isPower]

/-- Only the mark of the end has its kind. -/
theorem Lexed.before_end {depth : Nat} {characters : List Char} {senses : List Sense}
    (lexed : Lexed depth characters senses) : ∀ sense ∈ senses, sense.1 ≠ .endOfText := by
  induction lexed with
  | nothing => simp
  | gap blank lexed induction => exact induction
  | folded deep lexed induction => exact induction
  | newline lexed induction => exact List.forall_mem_cons.mpr ⟨by decide, induction⟩
  | lexeme noGap noNewline found lexed induction =>
      refine List.forall_mem_cons.mpr ⟨?_, induction⟩
      rw [ne_eq, sense_end_iff]
      exact lexeme_kind found

end Scanning

theorem tokenize_iff (text : String) (tokens : List Token) :
    tokenize text = .ok tokens ↔ (scan text).fault = none ∧ (scan text).tokens = tokens := by
  unfold tokenize
  cases (scan text).fault with
  | none => simp
  | some fault => simp

theorem senses_of_tokenize {text : String} {tokens : List Token} {senses : List Sense}
    (lexed : Lexed 0 text.toList senses) (tokenized : tokenize text = .ok tokens) :
    tokens.map Token.sense = senses ++ [endSense] := by
  obtain ⟨noFault, scanned⟩ := (tokenize_iff text tokens).mp tokenized
  have whole : (scan text).senses? = some (senses ++ [endSense]) := senses_of_lexed lexed .start
  unfold Scanned.senses? at whole
  rw [noFault, scanned] at whole
  exact Option.some.inj whole

theorem tokens_of_lexed {text : String} {senses : List Sense}
    (lexed : Lexed 0 text.toList senses) :
    ∃ tokens, tokenize text = .ok tokens ∧ (beforeEnd tokens).map Token.sense = senses := by
  have scanned : (scan text).senses? = some (senses ++ [endSense]) :=
    senses_of_lexed lexed .start
  unfold Scanned.senses? at scanned
  split at scanned
  · rename_i noFault
    refine ⟨(scan text).tokens, (tokenize_iff _ _).mpr ⟨noFault, rfl⟩, ?_⟩
    simp only [Option.some.injEq] at scanned
    obtain ⟨front, behind, parted, fronts, behinds⟩ := List.map_eq_append_iff.mp scanned
    obtain ⟨last, nothing, rfl, lasts, empty⟩ := List.map_eq_cons_iff.mp behinds
    rw [List.map_eq_nil_iff.mp empty] at parted
    have ends : last.kind = .endOfText := by
      rw [← sense_end_iff last.kind last.lexeme]
      exact congrArg Prod.fst lasts
    have others : ∀ token ∈ front, token.kind ≠ .endOfText := by
      intro token member same
      have sense : token.sense ∈ senses := by
        rw [← fronts]
        exact List.mem_map_of_mem member
      exact lexed.before_end _ sense ((sense_end_iff token.kind token.lexeme).mpr same)
    rw [parted, before_end_append others ends, fronts]
  · simp at scanned

theorem lexed_of_tokenize {text : String} {tokens : List Token}
    (tokenized : tokenize text = .ok tokens) :
    Lexed 0 text.toList ((beforeEnd tokens).map Token.sense) := by
  obtain ⟨noFault, scanned⟩ := (tokenize_iff text tokens).mp tokenized
  have senses : (scanFrom .start 0 text.toList).senses? = some (tokens.map Token.sense) := by
    rw [← scanned]
    unfold Scanned.senses?
    unfold scan at noFault
    rw [noFault]
    rfl
  obtain ⟨front, _, lexed⟩ := lexed_of_senses senses
  obtain ⟨others, again, same⟩ := tokens_of_lexed lexed
  rw [tokenized, Except.ok.injEq] at again
  rw [again, same]
  exact lexed

namespace Formula

theorem depth_of_bare {first second : Formula Span} (same : first.bare = second.bare) :
    first.depth = second.depth := by
  have depths := congrArg depth same
  unfold bare at depths
  rwa [depth_relabel, depth_relabel] at depths

theorem tokens_of_read {text : String} {formula : Formula Span}
    (spelled : Formula.read text = .ok formula) :
    ∃ tokens, Lexed 0 text.toList (tokens.map Token.sense) ∧ Body mostNested tokens formula ∧
      formula.depth ≤ greatestDepth := by
  unfold Formula.read at spelled
  split at spelled
  · simp at spelled
  · rename_i tokens tokenized
    have read : ofTokens tokens = .ok formula := (map_error_eq_ok_iff _ _ _).mp spelled
    obtain ⟨derived, within⟩ := (of_tokens_eq_ok_iff tokens formula).mp read
    exact ⟨beforeEnd tokens, lexed_of_tokenize tokenized, derived, within⟩

/-- What is derived from tokens is read from every text with their senses. -/
theorem read_of_derived {text : String} {tokens : List Token} {formula : Formula Span}
    (lexed : Lexed 0 text.toList (tokens.map Token.sense))
    (derived : Body mostNested tokens formula) (within : formula.depth ≤ greatestDepth) :
    ∃ another, Formula.read text = .ok another ∧ another.bare = formula.bare := by
  obtain ⟨others, tokenized, same⟩ := tokens_of_lexed lexed
  obtain ⟨another, again, equal⟩ := derived.alike same.symm
  have bounded : another.depth ≤ greatestDepth := by
    rw [depth_of_bare equal]
    exact within
  have read := (of_tokens_eq_ok_iff others another).mpr ⟨again, bounded⟩
  refine ⟨another, ?_, equal⟩
  simp only [Formula.read, tokenized, read, map_error_ok]

end Formula

end FormulaPlot
