import FormulaPlot.Proofs.Formula.Numerals
import FormulaPlot.Proofs.Formula.Places
import FormulaPlot.Proofs.Formula.Spelling
import Mathlib.Data.List.Induction
import Mathlib.Data.List.Pairwise
import Mathlib.Logic.ExistsUnique

/-!
Tokens tile the text that they are scanned from. Between them stand only blanks, and line ends
inside brackets; every token knows its own place, and every place its line and its column.
-/

namespace FormulaPlot

open FormulaPlot.Text

set_option autoImplicit false

/-- The part of a text between the ends of a span. -/
def Span.slice (span : Span) (characters : List Char) : List Char :=
  (characters.take span.stop.offset).drop span.start.offset

def Span.Covers (span : Span) (index : Nat) : Prop :=
  span.start.offset ≤ index ∧ index < span.stop.offset

/-- A place counts the line ends in front of it, and the characters behind the last of them. -/
structure Location.StandsIn (characters : List Char) (location : Location) : Prop where
  within : location.offset ≤ characters.length
  line : location.line = 1 + (characters.take location.offset).count '\n'
  column : location.column =
    1 + ((characters.take location.offset).reverse.takeWhile (· != '\n')).length

def Token.Apart (first second : Token) : Prop :=
  first.span.stop.offset ≤ second.span.start.offset ∨
    second.span.stop.offset ≤ first.span.start.offset

instance : Std.Symm Token.Apart := ⟨fun _ _ => Or.symm⟩

/-- A line end at some place that is a token of its own. -/
def Token.EndsLine (token : Token) (here : Location) : Prop :=
  token.kind = .newline ∧ token.span = ⟨here, here.next '\n'⟩

namespace Scanning

def opensBracket (character : Char) : Bool :=
  character == '(' || character == '[' || character == '\x7b'

def closesBracket (character : Char) : Bool :=
  character == ')' || character == ']' || character == '\x7d'

def bracketsBehind (depth : Nat) (character : Char) : Nat :=
  if opensBracket character then depth + 1
  else if closesBracket character then depth - 1
  else depth

/-- Opening minus closing brackets, where a bracket that closes nothing does not count. -/
def openBrackets (depth : Nat) (characters : List Char) : Nat :=
  characters.foldl bracketsBehind depth

/-- From some place on, with brackets open to some depth there, a text is made of these tokens. -/
inductive Tiles : Location → Nat → List Char → List Token → Prop
  | finished {here : Location} {depth : Nat} :
      Tiles here depth [] [⟨.endOfText, "", ⟨here, here⟩⟩]
  | gap {here : Location} {depth : Nat} {character : Char} {rest : List Char}
      {tokens : List Token} :
      isGap character = true → Tiles (here.next character) depth rest tokens →
      Tiles here depth (character :: rest) tokens
  | folded {here : Location} {depth : Nat} {rest : List Char} {tokens : List Token} :
      0 < depth → Tiles (here.next '\n') depth rest tokens →
      Tiles here depth ('\n' :: rest) tokens
  | newline {here : Location} {rest : List Char} {tokens : List Token} :
      Tiles (here.next '\n') 0 rest tokens →
      Tiles here 0 ('\n' :: rest)
        (⟨.newline, newlineLexeme, ⟨here, here.next '\n'⟩⟩ :: tokens)
  | lexeme {here : Location} {depth : Nat} {character : Char} {rest : List Char}
      {kind : TokenKind} {more : Nat} {tokens : List Token} :
      isGap character = false → character ≠ '\n' →
      front character rest = .lexeme kind more →
      Tiles (here.after (character :: rest.take more)) (depthAfter kind depth) (rest.drop more)
        tokens →
      Tiles here depth (character :: rest)
        (⟨kind, String.ofList (character :: rest.take more),
          ⟨here, here.after (character :: rest.take more)⟩⟩ :: tokens)

theorem tiles_of_scan (here : Location) (depth : Nat) (characters : List Char)
    (noFault : (scanFrom here depth characters).fault = none) :
    Tiles here depth characters (scanFrom here depth characters).tokens := by
  fun_induction scanFrom here depth characters with
  | case1 here depth => exact .finished
  | case2 here depth character rest next gap induction => exact .gap gap (induction noFault)
  | case3 here depth rest deep next noGap induction => exact .folded deep (induction noFault)
  | case4 here depth rest flat next noGap induction =>
      have outside : depth = 0 := Nat.eq_zero_of_not_pos flat
      subst outside
      exact .newline (induction noFault)
  | case5 here depth character rest noGap noNewline kind more found lexeme stop induction =>
      exact .lexeme (Bool.eq_false_iff.mpr noGap) noNewline found (induction noFault)
  | case6 => contradiction
  | case7 => contradiction

theorem scan_of_tiles {here : Location} {depth : Nat} {characters : List Char}
    {tokens : List Token} (tiles : Tiles here depth characters tokens) :
    scanFrom here depth characters = ⟨tokens, none⟩ := by
  induction tiles with
  | finished =>
      rw [scanFrom]
      rfl
  | gap blank tiles induction => rw [scan_gap _ _ _ blank, induction]
  | folded deep tiles induction => rw [scan_folded _ _ _ deep, induction]
  | newline tiles induction =>
      rw [scan_newline, induction]
      rfl
  | lexeme noGap noNewline found tiles induction =>
      rw [scan_lexeme _ _ _ noGap noNewline found, induction]
      rfl

/-- A lexeme in front of other text. -/
theorem Tiles.part {here : Location} {depth : Nat} {character : Char} {part behind : List Char}
    {kind : TokenKind} {tokens : List Token}
    (found : front character (part ++ behind) = .lexeme kind part.length)
    (tiles : Tiles (here.after (character :: part)) (depthAfter kind depth) behind tokens) :
    Tiles here depth (character :: (part ++ behind))
      (⟨kind, String.ofList (character :: part), ⟨here, here.after (character :: part)⟩⟩ ::
        tokens) := by
  have ⟨noGap, noNewline⟩ := no_gap_of_front found
  have lexeme := @Tiles.lexeme here depth character _ kind _ tokens noGap noNewline found
  rw [List.take_left, List.drop_left] at lexeme
  exact lexeme tiles

end Scanning

open FormulaPlot.Scanning

theorem tokenize_eq_ok_iff (text : String) (tokens : List Token) :
    tokenize text = .ok tokens ↔ Tiles .start 0 text.toList tokens := by
  constructor
  · intro tokenized
    cases found : (scan text).fault with
    | none =>
        rw [tokenize, found, Except.ok.injEq] at tokenized
        rw [← tokenized]
        exact tiles_of_scan .start 0 text.toList found
    | some fault =>
        rw [tokenize, found] at tokenized
        contradiction
  · intro tiles
    have scanned : scan text = ⟨tokens, none⟩ := scan_of_tiles tiles
    rw [tokenize, scanned]

namespace Scanning

theorem open_brackets_append (depth : Nat) (first second : List Char) :
    openBrackets depth (first ++ second) = openBrackets (openBrackets depth first) second :=
  List.foldl_append

theorem brackets_behind_other {character : Char}
    (other : opensBracket character = false ∧ closesBracket character = false) (depth : Nat) :
    bracketsBehind depth character = depth := by
  rw [bracketsBehind, other.1, other.2]
  rfl

theorem open_brackets_other {characters : List Char}
    (others : ∀ character ∈ characters,
      opensBracket character = false ∧ closesBracket character = false) (depth : Nat) :
    openBrackets depth characters = depth := by
  induction characters with
  | nil => rfl
  | cons character rest induction =>
      have ⟨first, behind⟩ := List.forall_mem_cons.mp others
      show openBrackets (bracketsBehind depth character) rest = depth
      rw [brackets_behind_other first, induction behind]

/-- Brackets are neither blanks nor parts of words or numbers. -/
theorem no_bracket_of {class_ : Char → Bool}
    (apart : ['(', '[', '\x7b', ')', ']', '\x7d'].all (fun bracket => !class_ bracket) = true)
    {character : Char} (inside : class_ character = true) :
    opensBracket character = false ∧ closesBracket character = false := by
  have other : ∀ bracket ∈ ['(', '[', '\x7b', ')', ']', '\x7d'],
      (character == bracket) = false := by
    intro bracket member
    rw [beq_eq_false_iff_ne]
    rintro rfl
    have outside := List.all_eq_true.mp apart character member
    simp [inside] at outside
  simp only [List.forall_mem_cons] at other
  simp [opensBracket, closesBracket, other]

theorem brackets_behind_gap {character : Char} (gap : isGap character = true) (depth : Nat) :
    bracketsBehind depth character = depth :=
  brackets_behind_other (no_bracket_of (by decide) gap) depth

/-- A lexeme opens or closes a bracket when its kind does. -/
theorem open_brackets_lexeme {character : Char} {rest : List Char} {kind : TokenKind} {more : Nat}
    (found : front character rest = .lexeme kind more) (depth : Nat) :
    openBrackets depth (character :: rest.take more) = depthAfter kind depth := by
  rcases front_cases found with ⟨rfl, starts, rfl⟩ | ⟨rfl, starts, rfl⟩ |
    ⟨next, tail, rfl, pair, rfl⟩ | ⟨single, rfl⟩
  · exact open_brackets_other
      (fun part member => no_bracket_of (by decide) (numeric_lexeme starts part member)) depth
  · rw [take_while_length]
    apply open_brackets_other
    have words := List.all_eq_true.mp (List.all_takeWhile (l := rest) (p := isWordCharacter))
    exact List.forall_mem_cons.mpr ⟨no_bracket_of (by decide) (word_of_name starts),
      fun part member => no_bracket_of (by decide) (words part member)⟩
  · unfold TokenKind.ofPair? at pair
    split at pair
    case h_6 => contradiction
    all_goals
      cases pair
      rfl
  · unfold TokenKind.ofCharacter? at single
    split at single
    case h_20 => contradiction
    all_goals
      cases single
      rfl

/-- Where a token stands: its part of the text, between what is in front of it and the rest. The
tokens from it on are those of the text from there on. -/
structure Tile (here : Location) (depth : Nat) (characters before part behind : List Char)
    (token : Token) (others : List Token) : Prop where
  parted : characters = before ++ (part ++ behind)
  present : part ≠ []
  span : token.span = ⟨here.after before, here.after (before ++ part)⟩
  shape : (token.kind = .newline ∧ part = ['\n'] ∧ openBrackets depth before = 0) ∨
    (token.kind ≠ .newline ∧ token.lexeme = String.ofList part)
  onward : Tiles (here.after before) (openBrackets depth before) (part ++ behind) (token :: others)

theorem Tile.behind {here : Location} {depth : Nat} {rest before part behind : List Char}
    {token : Token} {others : List Token} (passed : List Char)
    (tile : Tile (here.after passed) (openBrackets depth passed) rest before part behind token
      others) :
    Tile here depth (passed ++ rest) (passed ++ before) part behind token others where
  parted := by rw [tile.parted, List.append_assoc]
  present := tile.present
  span := by rw [tile.span, List.append_assoc, ← Location.after_append, ← Location.after_append]
  shape := by
    rw [open_brackets_append]
    exact tile.shape
  onward := by
    rw [open_brackets_append, Location.after_append]
    exact tile.onward

theorem kind_not_newline {character : Char} {rest : List Char} {kind : TokenKind} {more : Nat}
    (found : front character rest = .lexeme kind more) : kind ≠ .newline := by
  rintro rfl
  rcases front_cases found with ⟨other, _⟩ | ⟨other, _⟩ | ⟨next, tail, _, pair, _⟩ | ⟨single, _⟩
  · contradiction
  · contradiction
  · unfold TokenKind.ofPair? at pair
    split at pair <;> contradiction
  · unfold TokenKind.ofCharacter? at single
    split at single <;> contradiction

/-- Every token but the mark of the end has its part of the text. -/
theorem Tiles.tile {here : Location} {depth : Nat} {characters : List Char}
    {first others : List Token} {token : Token}
    (tiles : Tiles here depth characters (first ++ token :: others))
    (notEnd : token.kind ≠ .endOfText) :
    ∃ before part behind, Tile here depth characters before part behind token others := by
  generalize shape : first ++ token :: others = tokens at tiles
  induction tiles generalizing first with
  | finished =>
      cases first with
      | nil =>
          cases shape
          contradiction
      | cons next more => simp at shape
  | @gap here depth character rest tokens blank tiles induction =>
      have passed : openBrackets depth [character] = depth := brackets_behind_gap blank depth
      rcases induction shape with ⟨before, part, behind, tile⟩
      rw [← passed] at tile
      exact ⟨_, part, behind, tile.behind [character]⟩
  | @folded here depth rest tokens deep tiles induction =>
      rcases induction shape with ⟨before, part, behind, tile⟩
      exact ⟨_, part, behind, tile.behind ['\n']⟩
  | @newline here rest tokens tiles induction =>
      cases first with
      | nil =>
          cases shape
          exact ⟨[], ['\n'], rest, rfl, List.cons_ne_nil _ _, rfl, .inl ⟨rfl, rfl, rfl⟩,
            .newline tiles⟩
      | cons next more =>
          rcases induction (List.cons.inj shape).2 with ⟨before, part, behind, tile⟩
          exact ⟨_, part, behind, tile.behind ['\n']⟩
  | @lexeme here depth character rest kind more tokens noGap noNewline found tiles induction =>
      have whole : character :: rest = character :: rest.take more ++ rest.drop more := by simp
      cases first with
      | nil =>
          cases shape
          refine ⟨[], character :: rest.take more, rest.drop more, whole, List.cons_ne_nil _ _, rfl,
            .inr ⟨kind_not_newline found, rfl⟩, ?_⟩
          rw [← whole]
          exact .lexeme noGap noNewline found tiles
      | cons next more =>
          rcases induction (List.cons.inj shape).2 with ⟨before, part, behind, tile⟩
          rw [← open_brackets_lexeme found depth] at tile
          rw [whole]
          exact ⟨_, part, behind, tile.behind _⟩

theorem Tiles.ends {here : Location} {depth : Nat} {characters : List Char}
    {tokens : List Token} (tiles : Tiles here depth characters tokens) :
    ∃ others, tokens =
        others ++ [⟨.endOfText, "", ⟨here.after characters, here.after characters⟩⟩] ∧
      ∀ token ∈ others, token.kind ≠ .endOfText := by
  induction tiles with
  | finished => exact ⟨[], rfl, fun token member => absurd member List.not_mem_nil⟩
  | gap blank tiles induction => exact induction
  | folded deep tiles induction => exact induction
  | newline tiles induction =>
      rcases induction with ⟨others, rfl, before⟩
      exact ⟨_ :: others, rfl, List.forall_mem_cons.mpr ⟨nofun, before⟩⟩
  | @lexeme here depth character rest kind more tokens noGap noNewline found tiles induction =>
      rcases induction with ⟨others, rfl, before⟩
      rw [← Location.after_append, List.cons_append, List.take_append_drop]
      exact ⟨_ :: others, rfl, List.forall_mem_cons.mpr ⟨lexeme_kind found, before⟩⟩

theorem next_later (here : Location) (character : Char) :
    here.offset ≤ (here.next character).offset := by
  rw [Location.next_offset]
  exact Nat.le_succ _

theorem after_later (here : Location) (characters : List Char) :
    here.offset ≤ (here.after characters).offset := by
  rw [Location.after_offset]
  exact Nat.le_add_right _ _

/-- Tokens follow one another, and none is in front of the text. -/
theorem Tiles.ordered {here : Location} {depth : Nat} {characters : List Char}
    {tokens : List Token} (tiles : Tiles here depth characters tokens) :
    (∀ token ∈ tokens, here.offset ≤ token.span.start.offset) ∧
      tokens.Pairwise fun first second => first.span.stop.offset ≤ second.span.start.offset := by
  induction tiles with
  | finished => exact ⟨by simp, List.pairwise_singleton _ _⟩
  | gap blank tiles induction =>
      exact ⟨fun token member => Nat.le_trans (next_later _ _) (induction.1 token member),
        induction.2⟩
  | folded deep tiles induction =>
      exact ⟨fun token member => Nat.le_trans (next_later _ _) (induction.1 token member),
        induction.2⟩
  | newline tiles induction =>
      refine ⟨List.forall_mem_cons.mpr ⟨Nat.le_refl _, ?_⟩, List.pairwise_cons.mpr induction⟩
      exact fun token member => Nat.le_trans (next_later _ _) (induction.1 token member)
  | lexeme noGap noNewline found tiles induction =>
      refine ⟨List.forall_mem_cons.mpr ⟨Nat.le_refl _, ?_⟩, List.pairwise_cons.mpr induction⟩
      exact fun token member => Nat.le_trans (after_later _ _) (induction.1 token member)

/-- A character belongs to a token, and a line end to a token of its own, or it is a blank or a
line end inside brackets. -/
theorem Tiles.at_character {here : Location} {depth : Nat} {before behind : List Char}
    {character : Char} {tokens : List Token}
    (tiles : Tiles here depth (before ++ character :: behind) tokens) :
    (∃ token ∈ tokens, token.span.Covers (here.after before).offset ∧
        (character = '\n' → token.EndsLine (here.after before))) ∨
      isGap character = true ∨ (character = '\n' ∧ 0 < openBrackets depth before) := by
  generalize shape : before ++ character :: behind = characters at tiles
  induction tiles generalizing before with
  | finished => simp at shape
  | @gap here depth first rest tokens blank tiles induction =>
      cases before with
      | nil =>
          cases shape
          exact .inr (.inl blank)
      | cons next more =>
          have passed := brackets_behind_gap blank depth
          rcases List.cons.inj shape with ⟨rfl, others⟩
          have later := induction others
          rw [← passed] at later
          exact later
  | @folded here depth rest tokens deep tiles induction =>
      cases before with
      | nil =>
          cases shape
          exact .inr (.inr ⟨rfl, deep⟩)
      | cons next more =>
          rcases List.cons.inj shape with ⟨rfl, others⟩
          exact induction others
  | @newline here rest tokens tiles induction =>
      cases before with
      | nil =>
          cases shape
          refine .inl ⟨_, List.mem_cons_self, ⟨Nat.le_refl _, ?_⟩, fun _ => ⟨rfl, rfl⟩⟩
          exact Nat.lt_of_succ_le (Nat.le_of_eq (Location.next_offset here '\n').symm)
      | cons next more =>
          rcases List.cons.inj shape with ⟨rfl, others⟩
          refine (induction others).imp_left ?_
          rintro ⟨token, member, covered⟩
          exact ⟨token, List.mem_cons_of_mem _ member, covered⟩
  | @lexeme here depth first rest kind more tokens noGap noNewline found tiles induction =>
      have size : (first :: rest.take more).length = more + 1 := by
        rw [List.length_cons, List.length_take, Nat.min_eq_left (front_within found)]
      have whole : before ++ character :: behind =
          (first :: rest.take more) ++ rest.drop more := by simp [shape]
      by_cases inside : before.length < more + 1
      · have part : character ∈ first :: rest.take more := by
          have stands := congrArg (fun all => all[before.length]?) whole
          simp only [List.getElem?_append_right (Nat.le_refl _), Nat.sub_self,
            List.getElem?_cons_zero, List.getElem?_append_left (size ▸ inside)] at stands
          exact List.mem_of_getElem? stands.symm
        refine .inl ⟨_, List.mem_cons_self, ⟨after_later _ _, ?_⟩, ?_⟩
        · rw [Location.after_offset, Location.after_offset, size]
          exact Nat.add_lt_add_left inside _
        · rintro rfl
          exact absurd (lexical_of_lexeme found _ part) (by decide)
      · have starts : first :: rest.take more <+: before ++ character :: behind :=
          whole ▸ List.prefix_append _ _
        rcases List.prefix_of_prefix_length_le starts (List.prefix_append _ _)
          (by omega) with ⟨passed, rfl⟩
        rw [List.append_assoc] at whole
        have later := induction (List.append_cancel_left whole)
        rw [← open_brackets_lexeme found depth, ← open_brackets_append,
          ← Location.after_append] at later
        refine later.imp_left ?_
        rintro ⟨token, member, covered⟩
        exact ⟨token, List.mem_cons_of_mem _ member, covered⟩

end Scanning

/-- The place behind the front part of a text stands in the text. -/
theorem stands_in_behind (before behind : List Char) :
    (Location.start.after before).StandsIn (before ++ behind) := by
  have offset : (Location.start.after before).offset = before.length := by
    rw [Location.after_offset]
    exact Nat.zero_add _
  have counted : (Location.start.after before).line = 1 + before.count '\n' ∧
      (Location.start.after before).column =
        1 + (before.reverse.takeWhile (· != '\n')).length := by
    clear offset
    induction before using List.reverseRecOn with
    | nil => exact ⟨rfl, rfl⟩
    | append_singleton first last induction =>
        rw [Location.after_append, List.count_append, List.reverse_append]
        show (Location.next _ last).line = _ ∧ (Location.next _ last).column = _
        rw [Location.next]
        by_cases newline : last = '\n'
        · subst newline
          rw [if_pos rfl, List.count_singleton_self, induction.1]
          exact ⟨rfl, rfl⟩
        · have kept : (last != '\n') = true := bne_iff_ne.mpr newline
          have none : [last].count '\n' = 0 := List.count_singleton.trans (if_neg (by simpa))
          rw [if_neg newline, none, induction.1, induction.2]
          simp [kept, Nat.add_assoc]
  constructor
  · rw [offset, List.length_append]
    exact Nat.le_add_right _ _
  · rw [offset, List.take_left]
    exact counted.1
  · rw [offset, List.take_left]
    exact counted.2

/-- The ends of a span stand in a text, in their order. -/
structure Span.StandsIn (characters : List Char) (span : Span) : Prop where
  start : span.start.StandsIn characters
  stop : span.stop.StandsIn characters
  ordered : span.start.offset ≤ span.stop.offset

theorem span_stands_in (before part behind : List Char) :
    Span.StandsIn (before ++ (part ++ behind))
      ⟨Location.start.after before, Location.start.after (before ++ part)⟩ where
  start := stands_in_behind before _
  stop := by
    rw [← List.append_assoc]
    exact stands_in_behind (before ++ part) behind
  ordered := by
    rw [Location.after_offset, Location.after_offset, List.length_append]
    exact Nat.add_le_add_left (Nat.le_add_right _ _) _

/-- Tokens tile a text. -/
structure Tiling (characters : List Char) (tokens : List Token) : Prop where
  ends : ∃ others finish, tokens = others ++ [⟨.endOfText, "", ⟨finish, finish⟩⟩] ∧
    finish.offset = characters.length ∧ ∀ token ∈ others, token.kind ≠ .endOfText
  ordered : tokens.Pairwise fun first second =>
    first.span.stop.offset ≤ second.span.start.offset
  present : ∀ token ∈ tokens, token.kind ≠ .endOfText →
    token.span.start.offset < token.span.stop.offset
  lexeme : ∀ token ∈ tokens, token.kind ≠ .newline → token.kind ≠ .endOfText →
    token.lexeme = String.ofList (token.span.slice characters)
  between : ∀ index character, characters[index]? = some character →
    (∀ token ∈ tokens, ¬token.span.Covers index) →
    character = ' ' ∨ character = '\t' ∨ character = '\r' ∨
      (character = '\n' ∧ 0 < openBrackets 0 (characters.take index))
  newline : ∀ index, characters[index]? = some '\n' →
    openBrackets 0 (characters.take index) = 0 →
    ∃! token, token ∈ tokens ∧ token.kind = .newline ∧
      token.span.start.offset = index ∧ token.span.stop.offset = index + 1
  newlineToken : ∀ token ∈ tokens, token.kind = .newline →
    characters[token.span.start.offset]? = some '\n' ∧
      token.span.stop.offset = token.span.start.offset + 1 ∧
      openBrackets 0 (characters.take token.span.start.offset) = 0
  located : ∀ token ∈ tokens, token.span.start.StandsIn characters ∧
    token.span.stop.StandsIn characters

namespace Scanning

theorem Tiles.tile_of_mem {characters : List Char} {tokens : List Token}
    (tiles : Tiles .start 0 characters tokens) {token : Token} (member : token ∈ tokens)
    (notEnd : token.kind ≠ .endOfText) :
    ∃ before part behind others, Tile .start 0 characters before part behind token others := by
  rcases List.append_of_mem member with ⟨first, others, rfl⟩
  rcases tiles.tile notEnd with ⟨before, part, behind, tile⟩
  exact ⟨before, part, behind, others, tile⟩

theorem Tile.offsets {characters before part behind : List Char} {token : Token}
    {others : List Token} (tile : Tile .start 0 characters before part behind token others) :
    token.span.start.offset = before.length ∧
      token.span.stop.offset = before.length + part.length := by
  rw [tile.span, Location.after_offset, Location.after_offset, List.length_append]
  exact ⟨Nat.zero_add _, Nat.zero_add _⟩

theorem Tile.slice_eq {characters before part behind : List Char} {token : Token}
    {others : List Token} (tile : Tile .start 0 characters before part behind token others) :
    token.span.slice characters = part := by
  rw [Span.slice, tile.offsets.1, tile.offsets.2, tile.parted, ← List.append_assoc,
    ← List.length_append, List.take_left, List.drop_left]

/-- Every token has its place in the text. -/
theorem Tiles.placed {characters : List Char} {tokens : List Token}
    (tiles : Tiles .start 0 characters tokens) :
    ∀ token ∈ tokens, token.span.StandsIn characters := by
  intro token member
  by_cases isEnd : token.kind = .endOfText
  · rcases tiles.ends with ⟨front, rfl, beforeEnd⟩
    rw [List.mem_append, List.mem_singleton] at member
    rcases member with inFront | rfl
    · exact absurd isEnd (beforeEnd token inFront)
    · have last := span_stands_in characters [] []
      simpa using last
  · rcases tiles.tile_of_mem member isEnd with ⟨before, part, behind, others, tile⟩
    rw [tile.span, tile.parted]
    exact span_stands_in before part behind

/-- What a character of a text belongs to, by its index. -/
theorem Tiles.at_index {characters : List Char} {tokens : List Token}
    (tiles : Tiles .start 0 characters tokens) {index : Nat} {character : Char}
    (stands : characters[index]? = some character) :
    (∃ token ∈ tokens, token.span.Covers index ∧ (character = '\n' → token.kind = .newline ∧
        token.span.start.offset = index ∧ token.span.stop.offset = index + 1)) ∨
      isGap character = true ∨
      (character = '\n' ∧ 0 < openBrackets 0 (characters.take index)) := by
  rcases List.getElem?_eq_some_iff.mp stands with ⟨within, rfl⟩
  have parted := List.take_append_drop index characters
  rw [List.drop_eq_getElem_cons within] at parted
  have offset : (Location.start.after (characters.take index)).offset = index := by
    rw [Location.after_offset, List.length_take, Nat.min_eq_left (Nat.le_of_lt within)]
    exact Nat.zero_add _
  rw [← parted] at tiles
  have found := tiles.at_character
  rw [offset] at found
  refine found.imp_left ?_
  rintro ⟨token, member, covers, ends⟩
  refine ⟨token, member, covers, fun newline => ?_⟩
  have ⟨kind, span⟩ := ends newline
  rw [span, Location.next_offset, offset]
  exact ⟨kind, rfl, rfl⟩

end Scanning

/-- The tokens of a text tile it. -/
theorem tokens_tile_text {text : String} {tokens : List Token}
    (tokenized : tokenize text = .ok tokens) : Tiling text.toList tokens := by
  have tiles := (tokenize_eq_ok_iff text tokens).mp tokenized
  rcases tiles.ends with ⟨front, tokensEq, beforeEnd⟩
  have lineEnd : ∀ token ∈ tokens, token.kind = .newline →
      text.toList[token.span.start.offset]? = some '\n' ∧
        token.span.stop.offset = token.span.start.offset + 1 ∧
        openBrackets 0 (text.toList.take token.span.start.offset) = 0 := by
    intro token member isNewline
    have notEnd : token.kind ≠ .endOfText := by
      rw [isNewline]
      exact nofun
    rcases tiles.tile_of_mem member notEnd with ⟨before, part, behind, others, tile⟩
    rcases tile.shape with ⟨_, rfl, outside⟩ | ⟨other, _⟩
    · rw [tile.offsets.1, tile.offsets.2, tile.parted, List.take_left]
      exact ⟨by simp, rfl, outside⟩
    · contradiction
  constructor
  case ends =>
    refine ⟨front, _, tokensEq, ?_, beforeEnd⟩
    rw [Location.after_offset]
    exact Nat.zero_add _
  case ordered => exact tiles.ordered.2
  case present =>
    intro token member notEnd
    rcases tiles.tile_of_mem member notEnd with ⟨before, part, behind, others, tile⟩
    have size := List.length_pos_iff.mpr tile.present
    rw [tile.offsets.1, tile.offsets.2]
    omega
  case lexeme =>
    intro token member notNewline notEnd
    rcases tiles.tile_of_mem member notEnd with ⟨before, part, behind, others, tile⟩
    rw [tile.slice_eq]
    rcases tile.shape with ⟨isNewline, _⟩ | ⟨_, spelled⟩
    · contradiction
    · exact spelled
  case between =>
    intro index character stands uncovered
    rcases tiles.at_index stands with ⟨token, member, covers, _⟩ | gap | folded
    · exact absurd covers (uncovered token member)
    · simp only [isGap, Bool.or_eq_true, beq_iff_eq, or_assoc] at gap
      exact gap.imp_right fun others => others.imp_right .inl
    · exact .inr (.inr (.inr folded))
  case newline =>
    intro index stands outside
    rcases tiles.at_index stands with ⟨token, member, _, ends⟩ | gap | ⟨_, inside⟩
    · have ⟨kind, start, stop⟩ := ends rfl
      refine ⟨token, ⟨member, kind, start, stop⟩, ?_⟩
      rintro other ⟨otherMember, _, otherStart, otherStop⟩
      by_contra different
      have apart : tokens.Pairwise Token.Apart := tiles.ordered.2.imp .inl
      rcases apart.forall otherMember member different with before | behind <;> omega
    · exact absurd gap (by decide)
    · omega
  case newlineToken => exact lineEnd
  case located =>
    intro token member
    have placed := tiles.placed token member
    exact ⟨placed.start, placed.stop⟩

def bracketedLines : List Token :=
  [⟨.leftParenthesis, "(", ⟨⟨1, 1, 0⟩, ⟨1, 2, 1⟩⟩⟩, ⟨.number, "2", ⟨⟨1, 2, 1⟩, ⟨1, 3, 2⟩⟩⟩,
    ⟨.dot, ".", ⟨⟨1, 3, 2⟩, ⟨1, 4, 3⟩⟩⟩, ⟨.identifier, "e", ⟨⟨1, 4, 3⟩, ⟨1, 5, 4⟩⟩⟩,
    ⟨.rightParenthesis, ")", ⟨⟨2, 1, 5⟩, ⟨2, 2, 6⟩⟩⟩, ⟨.newline, "\\n", ⟨⟨2, 2, 6⟩, ⟨3, 1, 7⟩⟩⟩,
    ⟨.identifier, "y", ⟨⟨3, 1, 7⟩, ⟨3, 2, 8⟩⟩⟩, ⟨.endOfText, "", ⟨⟨3, 2, 8⟩, ⟨3, 2, 8⟩⟩⟩]

/-- A line end inside brackets, a number that ends before a point, and a line end outside. -/
theorem bracketed_lines_tile :
    tokenize "(2.e\n)\ny" = .ok bracketedLines ∧ Tiling "(2.e\n)\ny".toList bracketedLines := by
  have tokenized : tokenize "(2.e\n)\ny" = .ok bracketedLines := by decide +kernel
  exact ⟨tokenized, tokens_tile_text tokenized⟩

end FormulaPlot
