import FormulaPlot.Proofs.Formula.Cuts
import FormulaPlot.Proofs.Formula.Parts
import FormulaPlot.Proofs.Formula.Rooms
import FormulaPlot.Proofs.Formula.Tiling

/-!
The slices of a text that the nodes of its formula span. Parts lie inside their node and apart from
each other, and a slice is read by itself as the node that spans it. Only in a text that is nested
as deeply as may be, at the left edge of the last factor of a product without a sign, may there be
no room for that.
-/

namespace FormulaPlot

set_option autoImplicit false

def Span.Within (inner outer : Span) : Prop :=
  outer.start.offset ≤ inner.start.offset ∧ inner.stop.offset ≤ outer.stop.offset

def Span.Apart (first second : Span) : Prop :=
  first.stop.offset ≤ second.start.offset ∨ second.stop.offset ≤ first.start.offset

/-- A formula ends in front of another one. -/
def Formula.Precedes (first second : Formula Span) : Prop :=
  first.place.stop.offset ≤ second.place.start.offset

/-- A place further on in its line. -/
def Location.ahead (count : Nat) (location : Location) : Location :=
  ⟨location.line, location.column + count, location.offset + count⟩

def Location.back (count : Nat) (location : Location) : Location :=
  ⟨location.line, location.column - count, location.offset - count⟩

theorem after_flat {characters : List Char} (flat : '\n' ∉ characters) (here : Location) :
    here.after characters = here.ahead characters.length := by
  induction characters generalizing here with
  | nil => rfl
  | cons character rest induction =>
      rw [List.mem_cons, not_or] at flat
      have step : here.after (character :: rest) = (here.next character).after rest := rfl
      rw [step, induction flat.2, Location.next, if_neg (Ne.symm flat.1)]
      simp only [Location.ahead, List.length_cons, Location.mk.injEq, true_and]
      omega

theorem after_ahead (count : Nat) {characters : List Char} (flat : '\n' ∉ characters)
    (here : Location) :
    (here.ahead count).after characters = (here.after characters).ahead count := by
  rw [after_flat flat, after_flat flat]
  simp only [Location.ahead, Location.mk.injEq, true_and]
  omega

theorem back_ahead (count : Nat) (location : Location) :
    (location.ahead count).back count = location := by
  simp [Location.ahead, Location.back]

/-- Tokens follow one another. -/
structure Token.InOrder (tokens : List Token) : Prop where
  forward : ∀ token ∈ tokens, token.span.start.offset ≤ token.span.stop.offset
  ordered : tokens.Pairwise fun first second =>
    first.span.stop.offset ≤ second.span.start.offset

namespace Token.InOrder

variable {tokens before part behind : List Token} {first last token : Token}

theorem sublist (order : Token.InOrder tokens) (inside : part.Sublist tokens) :
    Token.InOrder part :=
  ⟨fun token member => order.forward token (inside.subset member), order.ordered.sublist inside⟩

theorem from_first (order : Token.InOrder tokens) (isFirst : tokens.head? = some first)
    (member : token ∈ tokens) : first.span.start.offset ≤ token.span.start.offset := by
  cases tokens with
  | nil => contradiction
  | cons next rest =>
      cases isFirst
      rcases List.mem_cons.mp member with rfl | later
      · exact Nat.le_refl _
      · have forward := order.forward first List.mem_cons_self
        exact Nat.le_trans forward ((List.pairwise_cons.mp order.ordered).1 token later)

theorem to_last (order : Token.InOrder tokens) (isLast : tokens.getLast? = some last)
    (member : token ∈ tokens) : token.span.stop.offset ≤ last.span.stop.offset := by
  rcases List.getLast?_eq_some_iff.mp isLast with ⟨others, rfl⟩
  rcases List.mem_append.mp member with earlier | same
  · have forward := order.forward last (by simp)
    have ordered := (List.pairwise_append.mp order.ordered).2.2 token earlier last (by simp)
    exact Nat.le_trans ordered forward
  · have equal := List.mem_singleton.mp same
    exact Nat.le_of_eq (congrArg (fun token => token.span.stop.offset) equal)

end Token.InOrder

namespace Grammar

open FormulaPlot.Formula

variable {tokens before part behind inner : List Token} {outer first last : Span}

theorem Spans.within (order : Token.InOrder tokens) (whole : Spans tokens outer)
    (spans : Spans part first) (inside : part ⊆ tokens) : first.Within outer := by
  rcases whole with ⟨start, stop, isStart, isStop, rfl⟩
  rcases spans with ⟨_, _, isFirst, isLast, rfl⟩
  have starts := order.from_first isStart (inside (List.mem_of_mem_head? isFirst))
  have ends := order.to_last isStop (inside (List.mem_of_getLast? isLast))
  exact ⟨starts, ends⟩

/-- What spans some tokens ends in front of what spans later ones. -/
theorem Spans.ends_before (order : Token.InOrder (before ++ behind)) (one : Spans part first)
    (early : part ⊆ before) (another : Spans inner last) (late : inner ⊆ behind) :
    first.stop.offset ≤ last.start.offset := by
  rcases one with ⟨_, stop, _, isStop, rfl⟩
  rcases another with ⟨start, _, isStart, _, rfl⟩
  have ends := early (List.mem_of_getLast? isStop)
  have starts := late (List.mem_of_mem_head? isStart)
  exact (List.pairwise_append.mp order.ordered).2.2 stop ends start starts

/-- Parts that are derived one behind the other stand one behind the other. -/
theorem Parts.ordered {formulas : List (Formula Span)} (order : Token.InOrder tokens)
    (parts : Parts (fun part formula => Spans part formula.place) tokens formulas) :
    formulas.Pairwise Precedes := by
  induction parts with
  | none => exact .nil
  | more spans others induction =>
      have rest := order.sublist (List.sublist_append_right _ _)
      refine .cons ?_ (induction (rest.sublist (List.sublist_append_right _ _)))
      intro later member
      rcases others.of_mem member with ⟨gap, inner, tail, rfl, deeper⟩
      exact spans.ends_before rest (List.Subset.refl _) deeper (by simp)

theorem Parts.apart {formulas : List (Formula Span)} (order : Token.InOrder tokens)
    (parts : Parts (fun part formula => Spans part formula.place) tokens formulas) :
    formulas.Pairwise fun first second => first.place.Apart second.place :=
  (parts.ordered order).imp .inl

/-- The parts of a node lie inside it, apart from each other. -/
theorem Spread.places {formula : Formula Span} (order : Token.InOrder tokens)
    (whole : Spans tokens formula.place)
    (spread : Spread (fun part child => Spans part child.place) tokens formula) :
    (∀ child ∈ formula.children, child.place.Within formula.place) ∧
      formula.children.Pairwise fun first second => first.place.Apart second.place := by
  rcases spread with ⟨formulas, permuted, parts⟩
  constructor
  · intro child member
    rcases parts.of_mem (permuted.mem_iff.mpr member) with ⟨before, part, behind, rfl, spans⟩
    exact whole.within order spans (by simp)
  · exact (permuted.pairwise_iff Or.symm).mp (parts.apart order)

end Grammar

namespace Scanning

/-- The front of a text that the first of its tokens are scanned from. -/
structure Cut (here : Location) (depth : Nat) (characters : List Char) (first : List Token)
    (front behind : List Char) : Prop where
  parted : characters = front ++ behind
  ends : here.after front = (first.map fun token => token.span.stop).getLastD here
  tiles : Tiles here depth front
    (first ++ [⟨.endOfText, "", ⟨here.after front, here.after front⟩⟩])

theorem cut_nothing (here : Location) (depth : Nat) (characters : List Char) :
    Cut here depth characters [] [] characters := ⟨rfl, rfl, .finished⟩

theorem Cut.lexeme {here : Location} {depth : Nat} {character : Char}
    {part rest front behind : List Char} {kind : TokenKind} {later : List Token}
    (found : Scanning.front character (part ++ rest) = .lexeme kind part.length)
    (cut : Cut (here.after (character :: part)) (depthAfter kind depth) rest later front behind) :
    Cut here depth (character :: (part ++ rest))
      (⟨kind, String.ofList (character :: part), ⟨here, here.after (character :: part)⟩⟩ :: later)
      (character :: (part ++ front)) behind where
  parted := by rw [cut.parted, List.cons_append, List.append_assoc]
  ends := by
    rw [List.map_cons, List.getLastD_cons, ← cut.ends, ← Location.after_append, List.cons_append]
  tiles := by
    rw [cut.parted, ← List.append_assoc] at found
    have shorter := front_cut found (List.length_append ▸ Nat.le_add_right _ _)
    rw [← List.cons_append, Location.after_append]
    exact Tiles.part shorter cut.tiles

/-- A text can be cut off behind each of its tokens. -/
theorem Tiles.cut {here : Location} {depth : Nat} {characters : List Char}
    {first others : List Token} (tiles : Tiles here depth characters (first ++ others))
    (beforeEnd : ∀ token ∈ first, token.kind ≠ .endOfText) :
    ∃ front behind, Cut here depth characters first front behind := by
  generalize shape : first ++ others = tokens at tiles
  induction tiles generalizing first with
  | finished =>
      cases first with
      | nil => exact ⟨_, _, cut_nothing _ _ _⟩
      | cons token more =>
          cases (List.cons.inj shape).1
          exact absurd rfl (beforeEnd _ List.mem_cons_self)
  | @gap here depth character rest tokens blank tiles induction =>
      cases first with
      | nil => exact ⟨_, _, cut_nothing _ _ _⟩
      | cons token more =>
          rcases induction beforeEnd shape with ⟨front, behind, rfl, ends, again⟩
          exact ⟨character :: front, behind, rfl, ends, .gap blank again⟩
  | @folded here depth rest tokens deep tiles induction =>
      cases first with
      | nil => exact ⟨_, _, cut_nothing _ _ _⟩
      | cons token more =>
          rcases induction beforeEnd shape with ⟨front, behind, rfl, ends, again⟩
          exact ⟨'\n' :: front, behind, rfl, ends, .folded deep again⟩
  | @newline here rest tokens tiles induction =>
      cases first with
      | nil => exact ⟨_, _, cut_nothing _ _ _⟩
      | cons token more =>
          cases shape
          have others := (List.forall_mem_cons.mp beforeEnd).2
          rcases induction others rfl with ⟨front, behind, rfl, ends, again⟩
          refine ⟨'\n' :: front, behind, rfl, ?_, .newline again⟩
          rw [List.map_cons, List.getLastD_cons]
          exact ends
  | @lexeme here depth character rest kind more tokens noGap noNewline found tiles induction =>
      cases first with
      | nil => exact ⟨_, _, cut_nothing _ _ _⟩
      | cons token later =>
          cases shape
          have others := (List.forall_mem_cons.mp beforeEnd).2
          rcases induction others rfl with ⟨front, behind, cut⟩
          have whole := cut.lexeme (front_parted found)
          rw [List.take_append_drop] at whole
          exact ⟨_, behind, whole⟩

/-- A text without line ends is made of the same tokens wherever it stands, and with any brackets
open there. -/
theorem Tiles.elsewhere {count depth : Nat} {here : Location} {characters : List Char}
    {tokens : List Token} (other : Nat) (flat : '\n' ∉ characters)
    (tiles : Tiles (here.ahead count) depth characters tokens) :
    ∃ again, Tiles here other characters again ∧
      again.map (Token.moved (Location.ahead count)) = tokens := by
  generalize shape : here.ahead count = there at tiles
  induction tiles generalizing here other with
  | finished =>
      cases shape
      exact ⟨_, .finished, rfl⟩
  | gap blank tiles induction =>
      cases shape
      rw [← List.singleton_append, List.mem_append, not_or] at flat
      rcases induction _ flat.2 (after_ahead count flat.1 here).symm with ⟨again, same, equal⟩
      exact ⟨again, .gap blank same, equal⟩
  | folded deep tiles induction => exact absurd List.mem_cons_self flat
  | newline tiles induction => exact absurd List.mem_cons_self flat
  | @lexeme there depth character rest kind more tokens noGap noNewline found tiles induction =>
      cases shape
      have whole : character :: rest = character :: rest.take more ++ rest.drop more := by simp
      rw [whole, List.mem_append, not_or] at flat
      rcases induction _ flat.2 (after_ahead count flat.1 here).symm with ⟨again, same, equal⟩
      refine ⟨_ :: again, .lexeme noGap noNewline found same, ?_⟩
      rw [List.map_cons, equal, after_ahead count flat.1]
      rfl

/-- The slice that some tokens of a text span is made of these tokens. -/
theorem Tiles.slice {characters : List Char} {before part behind : List Token} {span : Span}
    (flat : '\n' ∉ characters) (tiles : Tiles .start 0 characters (before ++ (part ++ behind)))
    (beforeEnd : ∀ token ∈ part, token.kind ≠ .endOfText) (spans : Grammar.Spans part span) :
    ∃ again finish, Tiles .start 0 (span.slice characters)
        (again ++ [⟨.endOfText, "", ⟨finish, finish⟩⟩]) ∧
      again.map (Token.moved (Location.ahead span.start.offset)) = part := by
  rcases spans with ⟨first, last, isFirst, isLast, rfl⟩
  rcases List.head?_eq_some_iff.mp isFirst with ⟨rest, rfl⟩
  rcases tiles.tile (beforeEnd first List.mem_cons_self) with ⟨passed, piece, others, tile⟩
  rcases tile.onward.cut beforeEnd with ⟨front, tail, parted, ends, cut⟩
  have whole := tile.parted
  rw [parted] at whole
  have start : (first.span.through last.span).start.offset = passed.length := tile.offsets.1
  have stop : (first.span.through last.span).stop.offset = passed.length + front.length := by
    rw [List.getLastD_eq_getLast?, List.getLast?_map, isLast, ← Location.after_append] at ends
    have offsets := congrArg Location.offset ends
    rw [Location.after_offset, List.length_append] at offsets
    exact offsets.symm.trans (Nat.zero_add _)
  have slice : (first.span.through last.span).slice characters = front := by
    rw [Span.slice, start, stop, whole, ← List.append_assoc, ← List.length_append, List.take_left,
      List.drop_left]
  rw [whole, List.mem_append, List.mem_append, not_or, not_or] at flat
  rw [after_flat flat.1] at cut
  rcases cut.elsewhere 0 flat.2.1 with ⟨again, tiles, moved⟩
  rcases tiles.ends with ⟨tokens, rfl, _⟩
  rw [List.map_append, List.map_singleton] at moved
  rw [slice, start]
  exact ⟨tokens, _, tiles, (List.append_inj' moved rfl).1⟩

theorem Tiles.in_order {here : Location} {depth : Nat} {characters : List Char}
    {tokens : List Token} (tiles : Tiles here depth characters tokens) : Token.InOrder tokens := by
  refine ⟨?_, tiles.ordered.2⟩
  induction tiles with
  | finished => exact List.forall_mem_singleton.mpr (Nat.le_refl _)
  | gap blank tiles induction => exact induction
  | folded deep tiles induction => exact induction
  | newline tiles induction => exact List.forall_mem_cons.mpr ⟨next_later _ _, induction⟩
  | lexeme noGap noNewline found tiles induction =>
      exact List.forall_mem_cons.mpr ⟨after_later _ _, induction⟩

end Scanning

open FormulaPlot.Formula FormulaPlot.Grammar FormulaPlot.Scanning

theorem mem_slice_iff {span : Span} {characters : List Char} {character : Char} :
    character ∈ span.slice characters ↔
      ∃ index, span.Covers index ∧ characters[index]? = some character := by
  unfold Span.slice Span.Covers
  rw [List.mem_iff_getElem?]
  constructor
  · rintro ⟨index, found⟩
    rw [List.getElem?_drop, List.getElem?_take] at found
    split at found
    · exact ⟨_, ⟨Nat.le_add_right _ _, by assumption⟩, found⟩
    · contradiction
  · rintro ⟨index, ⟨start, stop⟩, found⟩
    refine ⟨index - span.start.offset, ?_⟩
    rw [List.getElem?_drop, Nat.add_sub_cancel' start, List.getElem?_take, if_pos stop]
    exact found

/-- Only blanks stand between two spans that touch. -/
theorem Grammar.Touch.blanks {characters : List Char} {tokens : List Token} {finish : Token}
    {first last : Span} (flat : '\n' ∉ characters)
    (tiles : Tiles .start 0 characters (tokens ++ [finish]))
    (touch : Touch tokens first last) :
    ∀ character ∈ Span.slice ⟨first.stop, last.start⟩ characters, isGap character = true := by
  intro character member
  rcases mem_slice_iff.mp member with ⟨index, ⟨start, stop⟩, stands⟩
  rcases tiles.at_index stands with ⟨token, isToken, covers, _⟩ | gap | ⟨rfl, _⟩
  · rcases touch with ⟨before, head, tail, behind, rfl, ⟨_, left, _, isLeft, rfl⟩,
      ⟨right, _, isRight, _, rfl⟩⟩
    have parted : before ++ (head ++ (tail ++ behind)) ++ [finish] =
        (before ++ head) ++ (tail ++ (behind ++ [finish])) := by simp only [List.append_assoc]
    have order := tiles.in_order
    rw [parted] at order isToken
    rcases List.mem_append.mp isToken with early | late
    · have isLast : (before ++ head).getLast? = some left := by
        rw [List.getLast?_append, isLeft]
        rfl
      have ends := (order.sublist (List.sublist_append_left _ _)).to_last isLast early
      exact absurd (Nat.lt_of_lt_of_le covers.2 ends) (Nat.not_lt_of_le start)
    · have isFirst : (tail ++ (behind ++ [finish])).head? = some right := by
        rw [List.head?_append, isRight]
        rfl
      have starts := (order.sublist (List.sublist_append_right _ _)).from_first isFirst late
      exact absurd stop (Nat.not_lt_of_le (Nat.le_trans starts covers.1))
  · exact gap
  · exact absurd (List.mem_of_getElem? stands) flat

theorem read_of_tiles {text : String} {tokens : List Token}
    (tiles : Tiles .start 0 text.toList tokens) :
    Formula.read text = (Formula.ofTokens tokens).mapError .syntactic := by
  rw [Formula.read, (tokenize_eq_ok_iff text tokens).mpr tiles]

/-- An accepted text has tokens that its formula is derived from. -/
theorem tiles_of_read {text : String} {formula : Formula Span}
    (read : Formula.read text = .ok formula) :
    ∃ tokens finish, Tiles .start 0 text.toList (tokens ++ [⟨.endOfText, "", ⟨finish, finish⟩⟩]) ∧
      (∀ token ∈ tokens, token.kind ≠ .endOfText) ∧ Body Formula.mostNested tokens formula ∧
      formula.depth ≤ Formula.greatestDepth := by
  cases tokenized : tokenize text with
  | error fault =>
      rw [Formula.read, tokenized] at read
      contradiction
  | ok tokens =>
      have tiles := (tokenize_eq_ok_iff text tokens).mp tokenized
      rw [read_of_tiles tiles, map_error_eq_ok_iff, of_tokens_eq_ok_iff] at read
      rcases tiles.ends with ⟨others, rfl, inFront⟩
      rw [before_end_append inFront rfl] at read
      exact ⟨others, _, tiles, inFront, read⟩

theorem back_of_ahead (count : Nat) (tokens : List Token) :
    (tokens.map (Token.moved (Location.ahead count))).map (Token.moved (Location.back count)) =
      tokens := by
  rw [List.map_map]
  refine (List.map_congr_left fun token _ => ?_).trans (List.map_id _)
  simp [Token.moved, Span.moved, back_ahead]

/-- A formula that is derived further on can be moved back and forth. -/
theorem ahead_of_back {room count : Nat} {tokens : List Token} {formula : Formula Span}
    (derived : Body room (tokens.map (Token.moved (Location.ahead count))) formula) :
    (formula.moved (Location.back count)).moved (Location.ahead count) = formula := by
  have back : Body room _ (formula.moved (Location.back count)) := derived.moved
  rw [back_of_ahead] at back
  exact back.moved.unique derived rfl

/-- The text that a node spans. -/
def Span.source (span : Span) (text : String) : String :=
  String.ofList (span.slice text.toList)

/-- What a node spans is read by itself as that node, at its distance from the start. -/
def ReadAlone (text : String) (node : Formula Span) : Prop :=
  ∃ another, Formula.read (node.place.source text) = .ok another ∧
    another.moved (Location.ahead node.place.start.offset) = node

def TooDeepAlone (text : String) (node : Formula Span) : Prop :=
  ∃ span, Formula.read (node.place.source text) = .error (.syntactic (.tooDeep span))

/-- Starting where the last factor of a product without a sign does, inside that factor. -/
def StartsFactor (text : String) (formula node : Formula Span) : Prop :=
  ∃ place left right, .binary place .star left right ∈ formula.walk ∧
    (∀ character ∈ Span.slice ⟨left.place.stop, right.place.start⟩ text.toList,
      isGap character = true) ∧
    node ∈ right.walk ∧ node.place.start = right.place.start

/-- A text that needs all the room for nesting that there is. -/
def NestedFully (text : String) (formula : Formula Span) : Prop :=
  ∀ tokens room, tokenize text = .ok tokens → Body room (beforeEnd tokens) formula →
    mostNested ≤ room

/-- The spans of the nodes of a formula. -/
structure ExactSpans (text : String) (formula : Formula Span) : Prop where
  within : ∀ node ∈ formula.walk, ∀ child ∈ node.children, child.place.Within node.place
  apart : ∀ node ∈ formula.walk,
    node.children.Pairwise fun first second => first.place.Apart second.place
  alone : '\n' ∉ text.toList → ∀ node ∈ formula.walk,
    ReadAlone text node ∨
      (StartsFactor text formula node ∧ NestedFully text formula ∧ TooDeepAlone text node)

section Alone

variable {text : String} {before part behind : List Token} {finish : Token}
  {formula node : Formula Span}

theorem source_of_tiles (flat : '\n' ∉ text.toList)
    (tiles : Tiles .start 0 text.toList (before ++ (part ++ behind) ++ [finish]))
    (inFront : ∀ token ∈ part, token.kind ≠ .endOfText) (spans : Spans part node.place) :
    ∃ tokens,
      Formula.read (node.place.source text) = (Formula.ofTokens tokens).mapError .syntactic ∧
      (beforeEnd tokens).map (Token.moved (Location.ahead node.place.start.offset)) = part := by
  rw [List.append_assoc, List.append_assoc] at tiles
  rcases tiles.slice flat inFront spans with ⟨again, last, slice, moved⟩
  refine ⟨again ++ [⟨.endOfText, "", ⟨last, last⟩⟩], read_of_tiles ?_, ?_⟩
  · rw [Span.source, String.toList_ofList]
    exact slice
  · have others : ∀ token ∈ again, token.kind ≠ .endOfText := by
      intro token member
      have kind := inFront (token.moved (Location.ahead node.place.start.offset))
      rw [← moved] at kind
      exact kind (List.mem_map_of_mem member)
    rw [before_end_append others rfl]
    exact moved

theorem depth_moved {change : Location → Location} {bound : Nat} (within : node.depth ≤ bound) :
    (node.moved change).depth ≤ bound := by
  rw [Formula.moved, depth_relabel]
  exact within

theorem Grammar.Body.read_alone (flat : '\n' ∉ text.toList)
    (tiles : Tiles .start 0 text.toList (before ++ (part ++ behind) ++ [finish]))
    (inFront : ∀ token ∈ part, token.kind ≠ .endOfText) (spans : Spans part node.place)
    (derived : Body mostNested part node) (within : node.depth ≤ greatestDepth) :
    ReadAlone text node := by
  rcases source_of_tiles flat tiles inFront spans with ⟨tokens, read, rfl⟩
  have back : Body mostNested _ (node.moved (Location.back node.place.start.offset)) :=
    derived.moved
  rw [back_of_ahead] at back
  have accepted := (of_tokens_eq_ok_iff tokens _).mpr ⟨back, depth_moved within⟩
  rw [accepted] at read
  exact ⟨_, read, ahead_of_back derived⟩

theorem Grammar.Statement.read_alone_or_deep {room : Nat} (flat : '\n' ∉ text.toList)
    (tiles : Tiles .start 0 text.toList (before ++ (part ++ behind) ++ [finish]))
    (inFront : ∀ token ∈ part, token.kind ≠ .endOfText) (derived : Statement room part node)
    (within : node.depth ≤ greatestDepth) : ReadAlone text node ∨ TooDeepAlone text node := by
  rcases source_of_tiles flat tiles inFront derived.spans with ⟨tokens, read, rfl⟩
  have back : Statement room _ (node.moved (Location.back node.place.start.offset)) :=
    derived.moved
  rw [back_of_ahead] at back
  have reached := back.body.not_exhausted (depth_moved within)
  rcases back.body.of_tokens_cramped reached with accepted | ⟨span, deep⟩
  · rw [accepted] at read
    exact .inl ⟨_, read, ahead_of_back derived.body⟩
  · rw [deep] at read
    exact .inr ⟨span, read⟩

/-- With one level to spare, every node is read alone. -/
theorem Grammar.Body.node_read_alone {room : Nat} {tokens : List Token} (flat : '\n' ∉ text.toList)
    (tiles : Tiles .start 0 text.toList (tokens ++ [finish]))
    (inFront : ∀ token ∈ tokens, token.kind ≠ .endOfText) (derived : Body room tokens formula)
    (spare : room < mostNested) (member : node ∈ formula.walk)
    (within : node.depth ≤ greatestDepth) : ReadAlone text node := by
  rcases derived.nodes_inside member with ⟨before, part, behind, rfl, found⟩
  have partInFront : ∀ token ∈ part, token.kind ≠ .endOfText :=
    fun token inside => inFront token (by simp [inside])
  rcases found with ⟨body, spans⟩ | ⟨power, _⟩
  · have wide := body.widen (Nat.le_of_lt spare)
    exact wide.read_alone flat tiles partInFront spans within
  · have wide := power.statement.widen spare
    exact wide.body.read_alone flat tiles partInFront power.spans within

theorem nested_fully_of_deep (flat : '\n' ∉ text.toList) (read : Formula.read text = .ok formula)
    (member : node ∈ formula.walk) (deep : TooDeepAlone text node) : NestedFully text formula := by
  intro tokens room tokenized derived
  by_contra less
  rcases tiles_of_read read with ⟨others, last, tiles, inFront, _, within⟩
  rw [(tokenize_eq_ok_iff _ _).mpr tiles, Except.ok.injEq] at tokenized
  rw [← tokenized, before_end_append inFront rfl] at derived
  have shallow := Nat.le_trans (depth_of_mem_walk member) within
  rcases derived.node_read_alone flat tiles inFront (Nat.lt_of_not_le less) member shallow with
    ⟨another, accepted, _⟩
  rcases deep with ⟨span, refused⟩
  rw [accepted] at refused
  contradiction

end Alone

/-- The spans of an accepted text are exact. -/
theorem spans_are_exact {text : String} {formula : Formula Span}
    (read : Formula.read text = .ok formula) : ExactSpans text formula := by
  rcases tiles_of_read read with ⟨tokens, finish, tiles, inFront, derived, within⟩
  have order := tiles.in_order.sublist (List.sublist_append_left _ _)
  have places : ∀ node ∈ formula.walk,
      (∀ child ∈ node.children, child.place.Within node.place) ∧
        node.children.Pairwise fun first second => first.place.Apart second.place := by
    intro node member
    rcases derived.nodes_inside member with ⟨before, part, behind, rfl, found⟩
    have inner := order.sublist ((List.sublist_append_left part behind).trans
      (List.sublist_append_right before _))
    exact Spread.places inner found.spans found.spread
  refine ⟨fun node member => (places node member).1, fun node member => (places node member).2, ?_⟩
  intro flat node member
  rcases derived.nodes_inside member with ⟨before, part, behind, rfl, found⟩
  have partInFront : ∀ token ∈ part, token.kind ≠ .endOfText :=
    fun token inside => inFront token (by simp [inside])
  have shallow := Nat.le_trans (depth_of_mem_walk member) within
  rcases found with ⟨body, spans⟩ | ⟨power, leads⟩
  · exact .inl (body.read_alone flat tiles partInFront spans shallow)
  · rcases power.statement.read_alone_or_deep flat tiles partInFront shallow with alone | deep
    · exact .inl alone
    · rcases leads with ⟨place, left, right, isProduct, touch, inside, starts⟩
      have blanks := touch.blanks flat tiles
      have full := nested_fully_of_deep flat read member deep
      exact .inr ⟨⟨place, left, right, isProduct, blanks, inside, starts⟩, full, deep⟩

/-- A product without a sign whose last factor is indexed and raised, as a value in a block. -/
theorem product_spans_exact :
    ∃ formula, Formula.read "z = 2 (x + 1)[1:3] ^ -y; 5" = .ok formula ∧
      ExactSpans "z = 2 (x + 1)[1:3] ^ -y; 5" formula := by
  cases read : Formula.read "z = 2 (x + 1)[1:3] ^ -y; 5" with
  | error problem =>
      have accepted : (Formula.read "z = 2 (x + 1)[1:3] ^ -y; 5").isOk = true := by decide +kernel
      rw [read] at accepted
      contradiction
  | ok formula => exact ⟨formula, rfl, spans_are_exact read⟩

/-- A name in some number of groups. -/
def nestedGroups (count : Nat) : String :=
  String.ofList (List.replicate count '(' ++ 'x' :: List.replicate count ')')

/-- As many groups as may be nested stand behind a factor, but not alone. -/
theorem groups_behind_factor :
    '\n' ∉ ("2" ++ nestedGroups mostNested).toList ∧
      ∃ formula node, Formula.read ("2" ++ nestedGroups mostNested) = .ok formula ∧
        node ∈ formula.walk ∧
        node.place.source ("2" ++ nestedGroups mostNested) = nestedGroups mostNested ∧
        ¬ReadAlone ("2" ++ nestedGroups mostNested) node := by
  have flat : '\n' ∉ ("2" ++ nestedGroups mostNested).toList := by decide +kernel
  have refused : (Formula.read (nestedGroups mostNested)).isOk = false := by decide +kernel
  have spanned : (match Formula.read ("2" ++ nestedGroups mostNested) with
      | .ok formula => formula.children.any fun node =>
          node.place.source ("2" ++ nestedGroups mostNested) == nestedGroups mostNested
      | .error _ => false) = true := by decide +kernel
  refine ⟨flat, ?_⟩
  cases read : Formula.read ("2" ++ nestedGroups mostNested) with
  | error problem =>
      rw [read] at spanned
      contradiction
  | ok formula =>
      rw [read] at spanned
      rcases List.any_eq_true.mp spanned with ⟨node, member, same⟩
      have source := beq_iff_eq.mp same
      refine ⟨formula, node, rfl, walk_child member (mem_walk_self node), source, ?_⟩
      rintro ⟨another, accepted, _⟩
      rw [source] at accepted
      rw [accepted] at refused
      contradiction

end FormulaPlot
