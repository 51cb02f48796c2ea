import FormulaPlot.Proofs.Formula.Cuts
import FormulaPlot.Proofs.Formula.Tiling
import Mathlib.Data.List.Forall2

/-!
Layout. A text is made of its tokens and of gaps between them. Wider gaps change neither tokens nor
formulas, and narrower ones do not either, as long as the tokens stay.
-/

namespace FormulaPlot

open FormulaPlot.Text

set_option autoImplicit false

/-- What a token is apart from its place. -/
def Token.content (token : Token) : TokenKind × Float × String :=
  (token.kind, token.number, token.lexeme)

/-- How a token is written. The lexeme that is shown for a line end is not what stands there. -/
def Token.written (token : Token) : String :=
  if token.kind = .newline then "\n" else token.lexeme

def spaced (tokens : List Token) : String := String.intercalate " " (tokens.map Token.written)

/-- Every token behind its gap. -/
def laid (gaps : List (List Char)) (tokens : List Token) : List Char :=
  (List.zipWith (fun gap token => gap ++ token.written.toList) gaps tokens).flatten

namespace Scanning

/-- Characters that only separate tokens: blanks, and line ends inside brackets. -/
def fills (depth : Nat) (character : Char) : Bool :=
  isGap character || (character == '\n' && decide (0 < depth))

/-- There is a gap in front of every token, as the brackets allow it there. -/
inductive Gaps : Nat → List (List Char) → List Token → Prop
  | none {depth : Nat} : Gaps depth [] []
  | cons {depth : Nat} {gap : List Char} {gaps : List (List Char)} {token : Token}
      {tokens : List Token} :
      (∀ character ∈ gap, fills depth character = true) →
      Gaps (depthAfter token.kind depth) gaps tokens →
      Gaps depth (gap :: gaps) (token :: tokens)

/-- Where there was a gap, there is one. -/
def Roomier (gaps others : List (List Char)) : Prop :=
  List.Forall₂ (fun gap other => other = [] → gap = []) gaps others

theorem blank_of_fills {depth : Nat} {character : Char} (filling : fills depth character = true) :
    isBlank character = true := by
  simp only [fills, isGap, Bool.or_eq_true, Bool.and_eq_true, beq_iff_eq] at filling
  rcases filling with ((rfl | rfl) | rfl) | ⟨rfl, _⟩ <;> decide

theorem leads_of_gap {depth : Nat} {gap : List Char}
    (filling : ∀ character ∈ gap, fills depth character = true) (present : gap ≠ [])
    (behind : List Char) : Leads separates (gap ++ behind) := by
  cases gap with
  | nil => contradiction
  | cons character rest =>
      exact blank_separates (blank_of_fills (filling character List.mem_cons_self))

theorem Tiles.skip {depth : Nat} {gap characters : List Char} {tokens : List Token}
    {here : Location} (filling : ∀ character ∈ gap, fills depth character = true)
    (tiles : Tiles (here.after gap) depth characters tokens) :
    Tiles here depth (gap ++ characters) tokens := by
  induction gap generalizing here with
  | nil => exact tiles
  | cons character rest induction =>
      have ⟨first, others⟩ := List.forall_mem_cons.mp filling
      have behind := induction others tiles
      simp only [fills, Bool.or_eq_true, Bool.and_eq_true, beq_iff_eq, decide_eq_true_eq] at first
      rcases first with gap | ⟨rfl, deep⟩
      · exact .gap gap behind
      · exact .folded deep behind

theorem laid_cons (gap : List Char) (gaps : List (List Char)) (token : Token)
    (tokens : List Token) :
    laid (gap :: gaps) (token :: tokens) = gap ++ (token.written.toList ++ laid gaps tokens) :=
  List.append_assoc _ _ _

theorem written_lexeme {kind : TokenKind} {lexeme : List Char} {span : Span}
    (other : kind ≠ .newline) :
    (Token.mk kind (String.ofList lexeme) span).written.toList = lexeme := by
  rw [Token.written, if_neg other, String.toList_ofList]

theorem written_newline (span : Span) :
    (Token.mk .newline newlineLexeme span).written.toList = ['\n'] := by
  rw [Token.written, if_pos rfl]
  decide

/-- A text starts with a part of another one, up to its first gap. -/
def StartsIn (old new : List Char) : Prop :=
  ∃ run behind, new = run ++ behind ∧ run <+: old ∧ Leads separates behind

theorem starts_in_gap {depth : Nat} {gap : List Char}
    (filling : ∀ character ∈ gap, fills depth character = true) (present : gap ≠ [])
    (old behind : List Char) : StartsIn old (gap ++ behind) :=
  ⟨[], gap ++ behind, rfl, List.nil_prefix, leads_of_gap filling present behind⟩

/-- A lexeme is read again in front of a text that starts like the one that was behind it. -/
theorem front_in_front {character : Char} {part old new : List Char} {kind : TokenKind}
    (found : front character (part ++ old) = .lexeme kind part.length)
    (starts : StartsIn old new) : front character (part ++ new) = .lexeme kind part.length := by
  rcases starts with ⟨run, behind, rfl, ⟨rest, rfl⟩, separating⟩
  rw [← List.append_assoc] at found ⊢
  rw [front_append (leads_mono breaks_of_separates separating) character (part ++ run)
    fun _ => unpaired_of_separates separating character]
  exact front_cut found (by rw [List.length_append]; exact Nat.le_add_right _ _)

/-- A text is scanned to the same tokens, places aside. -/
def Scans (here : Location) (depth : Nat) (characters : List Char) (tokens : List Token) : Prop :=
  ∃ again, Tiles here depth characters again ∧
    again.map Token.content = tokens.map Token.content

theorem Scans.skip {depth : Nat} {gap characters : List Char} {tokens : List Token}
    {here : Location} (filling : ∀ character ∈ gap, fills depth character = true)
    (scans : Scans (here.after gap) depth characters tokens) :
    Scans here depth (gap ++ characters) tokens := by
  rcases scans with ⟨again, tiles, same⟩
  exact ⟨again, tiles.skip filling, same⟩

theorem Scans.cons {here there : Location} {depth behind : Nat} {part characters : List Char}
    {token another : Token} {tokens : List Token} (same : another.content = token.content)
    (onward : ∀ {again}, Tiles there behind characters again →
      Tiles here depth (part ++ characters) (another :: again))
    (scans : Scans there behind characters tokens) :
    Scans here depth (part ++ characters) (token :: tokens) := by
  rcases scans with ⟨again, tiles, equal⟩
  refine ⟨another :: again, onward tiles, ?_⟩
  rw [List.map_cons, List.map_cons, same, equal]

/-- The gaps of a text. With other gaps between its tokens it is scanned again, as long as tokens
that were apart stay apart. -/
structure Layout (depth : Nat) (characters : List Char) (tokens : List Token) (gap : List Char)
    (gaps : List (List Char)) : Prop where
  fits : Gaps depth (gap :: gaps) tokens
  parted : characters = laid (gap :: gaps) tokens
  scans : ∀ others, Gaps depth others tokens → Roomier gaps others.tail →
    ∀ here, Scans here depth (laid others tokens) tokens
  starts : ∀ others, Gaps depth others tokens → Roomier (gap :: gaps) others →
    StartsIn characters (laid others tokens)

theorem Roomier.tail {gap : List Char} {gaps others : List (List Char)}
    (room : Roomier (gap :: gaps) others) : Roomier gaps others.tail := by
  cases room with
  | cons stays room => exact room

section Constructors

variable {depth : Nat} {rest : List Char} {tokens : List Token} {gap : List Char}
  {gaps : List (List Char)}

theorem Layout.finished (here : Location) :
    Layout depth [] [⟨.endOfText, "", ⟨here, here⟩⟩] [] [] where
  fits := .cons (by simp) .none
  parted := rfl
  scans := by
    rintro others (_ | ⟨filling, none⟩) room there
    cases none
    rw [laid_cons]
    exact Scans.skip filling ⟨_, .finished, rfl⟩
  starts := by
    rintro others (_ | @⟨_, other, _, _, _, filling, none⟩) room
    cases none
    rw [laid_cons]
    by_cases present : other = []
    · rw [present]
      exact ⟨[], [], rfl, List.nil_prefix, trivial⟩
    · exact starts_in_gap filling present _ _

theorem Layout.widen {character : Char} (filling : fills depth character = true)
    (layout : Layout depth rest tokens gap gaps) :
    Layout depth (character :: rest) tokens (character :: gap) gaps where
  fits := by
    cases layout.fits with
    | cons others fits => exact .cons (List.forall_mem_cons.mpr ⟨filling, others⟩) fits
  parted := by
    rw [layout.parted]
    cases layout.fits
    rfl
  scans := layout.scans
  starts := by
    rintro others (_ | ⟨filling, _⟩) (_ | ⟨stays, _⟩)
    rw [laid_cons]
    exact starts_in_gap filling (fun empty => absurd (stays empty) (List.cons_ne_nil _ _)) _ _

theorem Layout.newline (here : Location) (layout : Layout 0 rest tokens gap gaps) :
    Layout 0 ('\n' :: rest) (⟨.newline, newlineLexeme, ⟨here, here.next '\n'⟩⟩ :: tokens) []
      (gap :: gaps) where
  fits := .cons (by simp) layout.fits
  parted := by
    rw [laid_cons, written_newline, ← layout.parted]
    rfl
  scans := by
    rintro others (_ | ⟨filling, fits⟩) room there
    rw [laid_cons, written_newline]
    apply Scans.skip filling
    refine Scans.cons ?_ .newline (layout.scans _ fits room.tail _)
    rfl
  starts := by
    rintro others (_ | @⟨_, other, _, _, _, filling, fits⟩) room
    rw [laid_cons, written_newline]
    by_cases present : other = []
    · have separating : separates '\n' = true := blank_separates (by decide)
      rw [present]
      exact ⟨[], _, rfl, List.nil_prefix, separating⟩
    · exact starts_in_gap filling present _ _

theorem Layout.lexeme {character : Char} {part : List Char} {kind : TokenKind} (here : Location)
    (found : front character (part ++ rest) = .lexeme kind part.length)
    (layout : Layout (depthAfter kind depth) rest tokens gap gaps) :
    Layout depth (character :: (part ++ rest))
      (⟨kind, String.ofList (character :: part), ⟨here, here.after (character :: part)⟩⟩ ::
        tokens) [] (gap :: gaps) where
  fits := .cons (by simp) layout.fits
  parted := by
    rw [laid_cons, written_lexeme (kind_not_newline found), ← layout.parted]
    rfl
  scans := by
    rintro others (_ | ⟨filling, fits⟩) room there
    rw [laid_cons, written_lexeme (kind_not_newline found)]
    apply Scans.skip filling
    have again := front_in_front found (layout.starts _ fits room)
    refine Scans.cons ?_ (Tiles.part again) (layout.scans _ fits room.tail _)
    rfl
  starts := by
    rintro others (_ | @⟨_, other, _, _, _, filling, fits⟩) (_ | ⟨stays, room⟩)
    rw [laid_cons, written_lexeme (kind_not_newline found)]
    by_cases present : other = []
    · rcases layout.starts _ fits room with ⟨run, behind, shape, ⟨more, rfl⟩, separating⟩
      rw [present, shape]
      refine ⟨(character :: part) ++ run, behind, ?_, ⟨more, ?_⟩, separating⟩
      · rw [List.append_assoc, List.nil_append]
      · rw [List.append_assoc, List.cons_append]
    · exact starts_in_gap filling present _ _

end Constructors

theorem Tiles.layout {here : Location} {depth : Nat} {characters : List Char}
    {tokens : List Token} (tiles : Tiles here depth characters tokens) :
    ∃ gap gaps, Layout depth characters tokens gap gaps := by
  induction tiles with
  | finished => exact ⟨[], [], .finished _⟩
  | gap blank tiles induction =>
      rcases induction with ⟨gap, gaps, layout⟩
      exact ⟨_, gaps, layout.widen (by rw [fills, blank, Bool.true_or])⟩
  | folded deep tiles induction =>
      rcases induction with ⟨gap, gaps, layout⟩
      exact ⟨_, gaps, layout.widen (by simp [fills, deep])⟩
  | newline tiles induction =>
      rcases induction with ⟨gap, gaps, layout⟩
      exact ⟨[], gap :: gaps, layout.newline _⟩
  | @lexeme here depth character rest kind more tokens noGap noNewline found tiles induction =>
      rcases induction with ⟨gap, gaps, layout⟩
      have whole := layout.lexeme here (front_parted found)
      rw [List.take_append_drop] at whole
      exact ⟨[], gap :: gaps, whole⟩

theorem Gaps.length {depth : Nat} {gaps : List (List Char)} {tokens : List Token}
    (fits : Gaps depth gaps tokens) : gaps.length = tokens.length := by
  induction fits with
  | none => rfl
  | cons filling fits induction => exact congrArg Nat.succ induction

theorem single_gaps (depth : Nat) (tokens : List Token) :
    Gaps depth (List.replicate tokens.length [' ']) tokens := by
  induction tokens generalizing depth with
  | nil => exact .none
  | cons token rest induction => exact .cons (by simp [fills, isGap]) (induction _)

theorem roomier_single (gaps : List (List Char)) :
    Roomier gaps (List.replicate gaps.length [' ']) := by
  induction gaps with
  | nil => exact .nil
  | cons gap rest induction => exact .cons nofun induction

end Scanning

open FormulaPlot.Scanning

/-- Tokens behind single blanks, the first one aside. -/
theorem spaced_eq_laid (token : Token) (tokens : List Token) :
    (spaced (token :: tokens)).toList =
      laid ([] :: List.replicate tokens.length [' ']) (token :: tokens) := by
  rw [spaced, String.toList_intercalate, laid_cons, List.nil_append]
  induction tokens generalizing token with
  | nil => simp [laid]
  | cons next rest induction =>
      simp only [List.map_cons, List.intercalate_cons_cons, List.length_cons,
        List.replicate_succ] at induction ⊢
      rw [induction next, laid_cons, List.append_assoc]
      rfl

/-- A text has the same tokens as another one, places aside. -/
def Retold (text : String) (tokens : List Token) : Prop :=
  ∃ again, tokenize text = .ok again ∧ again.map Token.content = tokens.map Token.content

theorem retold_of_scans {characters : List Char} {tokens : List Token}
    (scans : Scans .start 0 characters tokens) : Retold (String.ofList characters) tokens := by
  rcases scans with ⟨again, tiles, same⟩
  rw [← String.toList_ofList (l := characters)] at tiles
  exact ⟨again, (tokenize_eq_ok_iff _ _).mpr tiles, same⟩

theorem senses_of_contents {tokens others : List Token}
    (same : others.map Token.content = tokens.map Token.content) :
    others.map Token.sense = tokens.map Token.sense := by
  have senses := congrArg (List.map fun content => senseOf content.1 content.2.2) same
  rw [List.map_map, List.map_map] at senses
  exact senses

namespace Formula

theorem read_of_senses {first second : String} {tokens others : List Token}
    (tokenized : tokenize first = .ok tokens) (again : tokenize second = .ok others)
    (same : others.map Token.sense = tokens.map Token.sense) {formula : Formula Span}
    (read : Formula.read first = .ok formula) :
    ∃ another, Formula.read second = .ok another ∧ another.bare = formula.bare := by
  rcases tokens_of_read read with ⟨front, lexed, derived, within⟩
  have lexedAgain := lexed_of_tokenize again
  rw [senses_of_tokenize lexed tokenized, senses_of_tokenize lexedAgain again] at same
  rw [List.append_cancel_right same] at lexedAgain
  exact read_of_derived lexedAgain derived within

/-- Formulas of texts with the same tokens are the same, places aside. -/
theorem read_alike_of_senses {first second : String} {tokens others : List Token}
    (tokenized : tokenize first = .ok tokens) (again : tokenize second = .ok others)
    (same : others.map Token.sense = tokens.map Token.sense) :
    (Formula.read second).toOption.map bare = (Formula.read first).toOption.map bare := by
  cases read : Formula.read first with
  | ok formula =>
      rcases read_of_senses tokenized again same read with ⟨another, readAgain, equal⟩
      rw [readAgain]
      exact congrArg some equal
  | error problem =>
      cases readAgain : Formula.read second with
      | ok another =>
          rcases read_of_senses again tokenized same.symm readAgain with ⟨formula, readFirst, _⟩
          rw [read] at readFirst
          contradiction
      | error other => rfl

end Formula

/-- The layout of a text is free, as long as its tokens stay. -/
structure LayoutFree (text : String) (tokens : List Token) : Prop where
  spaced : Retold (spaced tokens) tokens
  gaps : ∃ gap gaps, Gaps 0 (gap :: gaps) tokens ∧ text.toList = laid (gap :: gaps) tokens ∧
    ∀ others, Gaps 0 others tokens → Roomier gaps others.tail →
      Retold (String.ofList (laid others tokens)) tokens
  formula : ∀ other, Retold other tokens →
    (Formula.read other).toOption.map Formula.bare = (Formula.read text).toOption.map Formula.bare

/-- Layout does not matter. The tokens of a text can be written with one blank between them; where
there is a gap between tokens, it can be replaced, and where there is none, it can be made; and all
texts with the same tokens have the same formula. -/
theorem layout_does_not_matter {text : String} {tokens : List Token}
    (tokenized : tokenize text = .ok tokens) : LayoutFree text tokens := by
  have tiles := (tokenize_eq_ok_iff text tokens).mp tokenized
  rcases tiles.layout with ⟨gap, gaps, layout⟩
  have relaid : ∀ others, Gaps 0 others tokens → Roomier gaps others.tail →
      Retold (String.ofList (laid others tokens)) tokens :=
    fun others fits room => retold_of_scans (layout.scans others fits room .start)
  constructor
  case spaced =>
    cases fits : layout.fits with
    | @cons _ _ _ token rest filling behind =>
        have single := relaid ([] :: List.replicate rest.length [' '])
          (.cons (by simp) (single_gaps _ rest)) (behind.length ▸ roomier_single gaps)
        rw [← spaced_eq_laid, String.ofList_toList] at single
        exact single
  case gaps => exact ⟨gap, gaps, layout.fits, layout.parted, relaid⟩
  case formula =>
    rintro other ⟨again, tokenizedAgain, same⟩
    exact Formula.read_alike_of_senses tokenized tokenizedAgain (senses_of_contents same)

/-- A line end inside brackets, a number that ends before a point, and a line end outside. -/
theorem bracketed_lines_spaced :
    tokenize "(2.e\n)\ny" = .ok bracketedLines ∧
      String.intercalate " " (bracketedLines.map Token.written) = "( 2 . e ) \n y " ∧
      Retold "( 2 . e ) \n y " bracketedLines := by
  have tokenized : tokenize "(2.e\n)\ny" = .ok bracketedLines := by decide +kernel
  have written : spaced bracketedLines = "( 2 . e ) \n y " := by decide
  have free := (layout_does_not_matter tokenized).spaced
  rw [written] at free
  exact ⟨tokenized, written, free⟩

end FormulaPlot
