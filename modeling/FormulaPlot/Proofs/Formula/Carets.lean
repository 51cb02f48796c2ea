import FormulaPlot.Proofs.Formula.Slices

/-!
Carets below a quoted text. What a text is refused for is said of a span that lies in it. The
printed diagnostic quotes the whole text behind a bar, and sets carets behind another bar one line
below, moved to the column of the span. They stand below the characters of the span exactly when
the text is a single line: behind a line end, the text has no bar in front of it.
-/

namespace FormulaPlot

open FormulaPlot.Scanning

set_option autoImplicit false

/-! Lines and columns -/

namespace Location

theorem line_after (location : Location) (characters : List Char) :
    (location.after characters).line = location.line + characters.count '\n' := by
  induction characters generalizing location with
  | nil => rfl
  | cons character rest ih =>
      show ((location.next character).after rest).line = _
      rw [ih, next, List.count_cons]
      by_cases newline : character = '\n'
      · rw [if_pos newline, newline]
        simp [Nat.add_assoc, Nat.add_comm 1]
      · rw [if_neg newline]
        simp [newline]

variable {before last : List Char} {index : Nat}

/-- What stands on the last line of a text stands behind the last line end. -/
theorem on_last_line_iff (flat : '\n' ∉ last) (here : Location)
    (within : index ≤ (before ++ '\n' :: last).length) :
    (here.after ((before ++ '\n' :: last).take index)).line =
        (here.after (before ++ '\n' :: last)).line ↔ before.length < index := by
  have noMore : last.count '\n' = 0 := List.count_eq_zero_of_not_mem flat
  rw [line_after, line_after, List.count_append, List.count_cons_self, noMore]
  constructor
  · intro same
    by_contra inFront
    have sublist := List.take_sublist index before
    have fewer := sublist.count_le '\n'
    rw [List.take_append_of_le_length (Nat.not_lt.mp inFront)] at same
    omega
  · intro behind
    obtain ⟨more, rfl⟩ := Nat.exists_eq_add_of_lt behind
    have none : (last.take more).count '\n' = 0 :=
      List.count_eq_zero_of_not_mem fun inside => flat (List.mem_of_mem_take inside)
    rw [Nat.add_assoc, List.take_length_add_append, List.take_succ_cons, List.count_append,
      List.count_cons_self, none]

theorem column_on_last_line (flat : '\n' ∉ last) (here : Location)
    (within : index ≤ (before ++ '\n' :: last).length) (behind : before.length < index) :
    (here.after ((before ++ '\n' :: last).take index)).column = index - before.length := by
  obtain ⟨more, rfl⟩ := Nat.exists_eq_add_of_lt behind
  have flatFront : '\n' ∉ last.take more := fun inside => flat (List.mem_of_mem_take inside)
  have fits : more ≤ last.length := by
    rw [List.length_append, List.length_cons] at within
    omega
  have next : (here.after before).after ('\n' :: last.take more) =
      ((here.after before).next '\n').ahead more := by
    show ((here.after before).next '\n').after (last.take more) = _
    rw [after_flat flatFront, List.length_take_of_le fits]
  rw [Nat.add_assoc, List.take_length_add_append, List.take_succ_cons, after_append, next,
    Location.ahead, Location.next, if_pos rfl]
  dsimp only
  omega

end Location

/-- A text with line ends has a last line behind the last of them. -/
theorem exists_last_line {characters : List Char} (lines : '\n' ∈ characters) :
    ∃ before last, characters = before ++ '\n' :: last ∧ '\n' ∉ last := by
  obtain ⟨behind, inFront, parted, flat⟩ :=
    List.eq_append_cons_of_mem (List.mem_reverse.mpr lines)
  refine ⟨inFront.reverse, behind.reverse, ?_, fun inside => flat (List.mem_reverse.mp inside)⟩
  rw [← List.reverse_reverse characters, parted]
  simp

/-! Spans of faults -/

namespace Scanning

/-- A lexical fault is said of a part of the text. -/
theorem fault_span {here : Location} {depth : Nat} {characters : List Char} {fault : LexicalFault}
    (found : (scanFrom here depth characters).fault = some fault) :
    ∃ before part behind, characters = before ++ (part ++ behind) ∧
      fault.span = ⟨here.after before, here.after (before ++ part)⟩ := by
  fun_induction scanFrom here depth characters with
  | case1 here depth => contradiction
  | case2 here depth character rest next gap induction =>
      obtain ⟨before, part, behind, rfl, span⟩ := induction found
      exact ⟨character :: before, part, behind, rfl, span⟩
  | case3 here depth rest deep next noGap induction =>
      obtain ⟨before, part, behind, rfl, span⟩ := induction found
      exact ⟨'\n' :: before, part, behind, rfl, span⟩
  | case4 here depth rest flat next noGap induction =>
      obtain ⟨before, part, behind, rfl, span⟩ := induction found
      exact ⟨'\n' :: before, part, behind, rfl, span⟩
  | case5 here depth character rest noGap noNewline kind more front lexeme stop induction =>
      obtain ⟨before, part, behind, parted, span⟩ := induction found
      refine ⟨lexeme ++ before, part, behind, ?_, ?_⟩
      · rw [List.append_assoc, ← parted]
        exact congrArg _ (List.take_append_drop more rest).symm
      · rw [List.append_assoc, Location.after_append, Location.after_append]
        exact span
  | case6 here depth character rest noGap noNewline more front lexeme =>
      injection found with same
      rw [← same]
      exact ⟨[], lexeme, rest.drop more,
        congrArg _ (List.take_append_drop more rest).symm, rfl⟩
  | case7 here depth character rest next noGap noNewline front =>
      injection found with same
      rw [← same]
      exact ⟨[], [character], rest, rfl, rfl⟩

end Scanning

/-- What spans tokens of a text lies in the text. -/
theorem Grammar.Spans.stands {characters : List Char} {tokens part : List Token} {span : Span}
    (spans : Grammar.Spans part span) (inside : part <:+: tokens)
    (placed : ∀ token ∈ tokens, token.span.StandsIn characters)
    (order : Token.InOrder tokens) : span.StandsIn characters := by
  obtain ⟨first, last, isFirst, isLast, rfl⟩ := spans
  have member := List.mem_of_mem_head? isFirst
  have one := placed first (inside.subset member)
  have other := placed last (inside.subset (List.mem_of_getLast? isLast))
  have last := (order.sublist inside.sublist).to_last isLast member
  exact ⟨one.start, other.stop, Nat.le_trans one.ordered last⟩

/-- Tokens are blamed with spans of the text that they are scanned from. -/
theorem Formula.Blames.stands {characters : List Char} {finish : Span} {tokens : List Token}
    {fault : SyntaxFault} (blames : Formula.Blames finish tokens fault)
    (placed : ∀ token ∈ tokens, token.span.StandsIn characters)
    (order : Token.InOrder tokens) (ends : finish.StandsIn characters) :
    ∃ span, fault.span? = some span ∧ span.StandsIn characters := by
  cases fault with
  | unexpectedToken what found span =>
      obtain ⟨-, token, member, -, rfl⟩ := blames
      exact ⟨_, rfl, placed token member⟩
  | unexpectedEnd what span =>
      rw [show span = finish from blames]
      exact ⟨_, rfl, ends⟩
  | invalidTarget span =>
      obtain ⟨part, inside, spans⟩ := blames
      exact ⟨_, rfl, spans.stands inside placed order⟩
  | tooDeep span =>
      rcases blames with rfl | ⟨part, inside, spans⟩
      · exact ⟨_, rfl, ends⟩
      · exact ⟨_, rfl, spans.stands inside placed order⟩
  | exhausted => exact blames.elim

namespace Formula

/-- The span of what a text is refused for. -/
def faultSpan? : Problem → Option Span
  | .lexical fault => some fault.span
  | .syntactic fault => fault.span?
  | _ => none

theorem fault_stands {text : String} {problem : Problem}
    (refused : Formula.read text = .error problem) (reported : problem ≠ .syntactic .exhausted) :
    ∃ span, faultSpan? problem = some span ∧ span.StandsIn text.toList := by
  unfold Formula.read at refused
  split at refused
  · next fault scanned =>
      injection refused with same
      rw [← same]
      refine ⟨_, rfl, ?_⟩
      unfold tokenize at scanned
      split at scanned
      · next here =>
          injection scanned with same
          obtain ⟨before, part, behind, parted, span⟩ := fault_span here
          rw [← same, span, parted]
          exact span_stands_in before part behind
      · contradiction
  · next tokens scanned =>
      have tiles := (tokenize_eq_ok_iff text tokens).mp scanned
      cases read : ofTokens tokens with
      | ok formula =>
          rw [read] at refused
          contradiction
      | error fault =>
          rw [read] at refused
          injection refused with same
          rw [← same] at reported ⊢
          have blames := of_tokens_blames read fun same => reported (congrArg _ same)
          apply blames.stands tiles.placed tiles.in_order
          obtain ⟨others, rfl, ordinary⟩ := tiles.ends
          rw [textEnd, before_end_append ordinary rfl, List.drop_left]
          exact tiles.placed _ (List.mem_append_right others List.mem_cons_self)

end Formula

/-! The printed diagnostic -/

/-- Where a character of a printed text stands, or the end behind them all. -/
def placeIn (printed : List Char) (index : Nat) : Location :=
  Location.start.after (printed.take index)

/-- The line end and the bar in front of quoted text. -/
def bar : List Char := "\n  | ".toList

/-- What stands below a quoted text: blanks that move the carets, the carets, and the hints. -/
def caretLine (blanks carets : Nat) (behind : List Char) : List Char :=
  List.replicate blanks ' ' ++ (List.replicate carets '^' ++ behind)

theorem place_behind (front behind : List Char) (more : Nat) :
    placeIn (front ++ behind) (front.length + more) =
      (Location.start.after front).after (behind.take more) := by
  rw [placeIn, List.take_length_add_append, Location.after_append]

theorem caret_at_iff {blanks carets index : Nat} {behind : List Char} (plain : '^' ∉ behind) :
    (bar ++ caretLine blanks carets behind)[index]? = some '^' ↔
      5 + blanks ≤ index ∧ index < 5 + blanks + carets := by
  have absent : ∀ place, behind[place]? ≠ some '^' :=
    fun place found => plain (List.mem_of_getElem? found)
  have noCaret : ∀ place, bar[place]? ≠ some '^' :=
    fun place found => absurd (List.mem_of_getElem? found) (by decide)
  have size : bar.length = 5 := by decide
  grind [caretLine]

theorem place_in_caret_line {blanks carets index : Nat} {behind : List Char} (here : Location)
    (from5 : 5 ≤ index) (within : index ≤ 5 + blanks + carets) :
    here.after ((bar ++ caretLine blanks carets behind).take index) =
      ⟨here.line + 1, index, here.offset + index⟩ := by
  obtain ⟨more, rfl⟩ := Nat.exists_eq_add_of_le from5
  have flat : '\n' ∉ (caretLine blanks carets behind).take more := by
    grind [caretLine]
  have size : ((caretLine blanks carets behind).take more).length = more := by
    grind [caretLine]
  have behindBar : here.after bar = ⟨here.line + 1, 5, here.offset + 5⟩ := rfl
  have barSize : bar.length = 5 := by decide
  rw [← barSize, List.take_length_add_append, Location.after_append, behindBar,
    after_flat flat, size, barSize, Location.ahead, Nat.add_assoc]

theorem intercalate_to_list (separator first : String) (others : List String) :
    (separator.intercalate (first :: others)).toList =
      first.toList ++ others.flatMap fun other => separator.toList ++ other.toList := by
  induction others generalizing first with
  | nil => rw [String.intercalate_singleton, List.flatMap_nil, List.append_nil]
  | cons next rest induction =>
      rw [String.intercalate_cons_cons, String.toList_append, String.toList_append, induction,
        List.flatMap_cons, List.append_assoc, List.append_assoc]

namespace Diagnostic

/-- What is printed in front of the quoted text. -/
def opening (diagnostic : Diagnostic) : List Char := diagnostic.headline.toList ++ bar

theorem format_parts {diagnostic : Diagnostic} {source : String} {span : Span}
    (quoted : diagnostic.sourceLine = some source) (marked : diagnostic.span = some span) :
    (diagnostic.format true).toList =
      diagnostic.opening ++ (source.toList ++ (bar ++
        caretLine (span.start.column - 1) (markCount source span)
          (diagnostic.hints.flatMap fun hint => "\n  = hint: ".toList ++ hint.toList))) := by
  have lines : diagnostic.sourceLines = Diagnostic.marked source span := by
    rw [sourceLines, quoted, marked]
  rw [format, if_pos rfl, lines, List.cons_append, intercalate_to_list]
  simp [Diagnostic.marked, opening, caretLine, bar, List.flatMap_map]

end Diagnostic

namespace Location.StandsIn

variable {characters : List Char} {location : Location}

theorem eq_after (stands : location.StandsIn characters) :
    location = Location.start.after (characters.take location.offset) := by
  have other := stands_in_behind (characters.take location.offset)
    (characters.drop location.offset)
  rw [List.take_append_drop] at other
  have offset : (Location.start.after (characters.take location.offset)).offset =
      location.offset := by
    rw [Location.after_offset, List.length_take_of_le stands.within]
    exact Nat.zero_add _
  have line := other.line
  have column := other.column
  rw [offset, ← stands.line] at line
  rw [offset, ← stands.column] at column
  cases location
  exact Location.mk.injEq .. ▸ ⟨line.symm, column.symm, offset.symm⟩

theorem of_flat (stands : location.StandsIn characters) (flat : '\n' ∉ characters) :
    location.line = 1 ∧ location.column = 1 + location.offset := by
  have front : '\n' ∉ characters.take location.offset :=
    fun inside => flat (List.mem_of_mem_take inside)
  have same := stands.eq_after
  rw [after_flat front, List.length_take_of_le stands.within] at same
  exact ⟨congrArg Location.line same, congrArg Location.column same⟩

end Location.StandsIn

namespace Span

/-- The characters of a span, or its place if it has none. -/
def Marks (span : Span) (index : Nat) : Prop :=
  span.Covers index ∨ (span.start.offset = span.stop.offset ∧ index = span.start.offset)

theorem marks_iff (span : Span) (ordered : span.start.offset ≤ span.stop.offset) (index : Nat) :
    span.Marks index ↔ span.start.offset ≤ index ∧
      index < span.start.offset + max 1 (span.stop.offset - span.start.offset) := by
  unfold Marks Covers
  omega

end Span

namespace Diagnostic

/-- A caret below the quoted text, by its line and its column in the printed diagnostic. -/
def CaretAt (diagnostic : Diagnostic) (source : List Char) (line column : Nat) : Prop :=
  let printed := (diagnostic.format true).toList
  ∃ index, diagnostic.opening.length + source.length ≤ index ∧ printed[index]? = some '^' ∧
    (placeIn printed index).line = line ∧ (placeIn printed index).column = column

/-- What a span of the quoted text marks, by its line and its column in the printed diagnostic. -/
def MarkedAt (diagnostic : Diagnostic) (span : Span) (line column : Nat) : Prop :=
  let place := placeIn (diagnostic.format true).toList
  ∃ index, span.Marks index ∧ (place (diagnostic.opening.length + index)).line = line ∧
    (place (diagnostic.opening.length + index)).column = column

/-- The carets stand one line below the characters of a span, in their columns. -/
def Underlines (diagnostic : Diagnostic) (source : List Char) (span : Span) : Prop :=
  ∀ line column, diagnostic.CaretAt source (line + 1) column ↔ diagnostic.MarkedAt span line column

/-- The line on which the quoted text ends. -/
def lastLine (diagnostic : Diagnostic) (source : List Char) : Nat :=
  ((Location.start.after diagnostic.opening).after source).line

variable {diagnostic : Diagnostic} {source : String} {span : Span}

theorem caret_at (quoted : diagnostic.sourceLine = some source)
    (marked : diagnostic.span = some span) (plain : ∀ hint ∈ diagnostic.hints, '^' ∉ hint.toList)
    (line column : Nat) :
    diagnostic.CaretAt source.toList line column ↔
      line = diagnostic.lastLine source.toList + 1 ∧ 5 + (span.start.column - 1) ≤ column ∧
        column < 5 + (span.start.column - 1) + markCount source span := by
  have noCaret : '^' ∉ diagnostic.hints.flatMap
      fun hint => "\n  = hint: ".toList ++ hint.toList := by
    have fixed : '^' ∉ "\n  = hint: ".toList := by decide
    simp only [List.mem_flatMap, List.mem_append, not_exists, not_and, not_or]
    exact fun hint member => ⟨fixed, plain hint member⟩
  have size : diagnostic.opening.length + source.toList.length =
      (diagnostic.opening ++ source.toList).length := List.length_append.symm
  rw [CaretAt, format_parts quoted marked, ← List.append_assoc, size]
  constructor
  · rintro ⟨index, behind, caret, rfl, rfl⟩
    obtain ⟨more, rfl⟩ := Nat.exists_eq_add_of_le behind
    rw [List.getElem?_append_right behind, Nat.add_sub_cancel_left, caret_at_iff noCaret] at caret
    rw [place_behind, place_in_caret_line _ (by omega) (by omega), Location.after_append]
    exact ⟨rfl, caret⟩
  · rintro ⟨rfl, caret⟩
    refine ⟨_, Nat.le_add_right _ column, ?_, ?_⟩
    · rw [List.getElem?_append_right (Nat.le_add_right _ _), Nat.add_sub_cancel_left]
      exact (caret_at_iff noCaret).mpr caret
    · rw [place_behind, place_in_caret_line _ (by omega) (by omega), Location.after_append]
      exact ⟨rfl, rfl⟩

/-- Where the characters of the quoted text are printed, and the end behind them. -/
theorem place_quoted (quoted : diagnostic.sourceLine = some source)
    (marked : diagnostic.span = some span) {index : Nat} (within : index ≤ source.toList.length) :
    placeIn (diagnostic.format true).toList (diagnostic.opening.length + index) =
      (Location.start.after diagnostic.opening).after (source.toList.take index) := by
  rw [format_parts quoted marked, place_behind, List.take_append_of_le_length within]

theorem opening_column : (Location.start.after diagnostic.opening).column = 5 := by
  rw [opening, Location.after_append]
  rfl

theorem mark_within (stands : span.StandsIn source.toList) {index : Nat}
    (marks : span.Marks index) : index ≤ source.toList.length := by
  rcases marks with covered | ⟨-, rfl⟩
  · exact Nat.le_of_lt (Nat.lt_of_lt_of_le covered.2 stands.stop.within)
  · exact stands.start.within

/-- In a text of one line, columns are counted as offsets are. -/
theorem underlines_of_flat (quoted : diagnostic.sourceLine = some source)
    (marked : diagnostic.span = some span) (plain : ∀ hint ∈ diagnostic.hints, '^' ∉ hint.toList)
    (stands : span.StandsIn source.toList) (flat : '\n' ∉ source.toList) :
    diagnostic.Underlines source.toList span := by
  obtain ⟨startLine, startColumn⟩ := stands.start.of_flat flat
  obtain ⟨stopLine, stopColumn⟩ := stands.stop.of_flat flat
  have count : markCount source span = max 1 (span.stop.offset - span.start.offset) := by
    rw [markCount, startLine, stopLine, if_pos rfl, startColumn, stopColumn]
    exact congrArg (max 1) (Nat.add_sub_add_left _ _ _)
  have place : ∀ index, span.Marks index →
      placeIn (diagnostic.format true).toList (diagnostic.opening.length + index) =
        (Location.start.after diagnostic.opening).ahead index := by
    intro index marks
    have within := mark_within stands marks
    have front : '\n' ∉ source.toList.take index := fun inside => flat (List.mem_of_mem_take inside)
    rw [place_quoted quoted marked within, after_flat front, List.length_take_of_le within]
  have last : diagnostic.lastLine source.toList =
      (Location.start.after diagnostic.opening).line := by
    rw [lastLine, after_flat flat, Location.ahead]
  intro line column
  rw [caret_at quoted marked plain, last, count, startColumn]
  constructor
  · rintro ⟨sameLine, from5, within⟩
    have marks : span.Marks (column - 5) := (span.marks_iff stands.ordered _).mpr (by omega)
    refine ⟨_, marks, ?_⟩
    rw [place _ marks]
    refine ⟨(Nat.succ.inj sameLine).symm, ?_⟩
    show (Location.start.after diagnostic.opening).column + (column - 5) = column
    rw [opening_column]
    omega
  · rintro ⟨index, marks, rfl, rfl⟩
    have bounds := (span.marks_iff stands.ordered _).mp marks
    rw [place _ marks]
    refine ⟨rfl, ?_⟩
    rw [Location.ahead, opening_column]
    dsimp only
    omega

section LastLine

variable {before last : List Char}

/-- Where a span reaches the last line, what it marks there begins with the line or with the
span. -/
theorem first_mark_on_last_line (quoted : diagnostic.sourceLine = some source)
    (marked : diagnostic.span = some span) (stands : span.StandsIn source.toList)
    (parts : source.toList = before ++ '\n' :: last) (flat : '\n' ∉ last) {column : Nat}
    (reaches : diagnostic.MarkedAt span (diagnostic.lastLine source.toList) column) :
    diagnostic.MarkedAt span (diagnostic.lastLine source.toList)
      (max span.start.offset (before.length + 1) - before.length) := by
  obtain ⟨index, marks, onLast, -⟩ := reaches
  have within := mark_within stands marks
  rw [place_quoted quoted marked within, lastLine, parts,
    Location.on_last_line_iff flat _ (parts ▸ within)] at onLast
  have bounds := (span.marks_iff stands.ordered _).mp marks
  have first : span.Marks (max span.start.offset (before.length + 1)) :=
    (span.marks_iff stands.ordered _).mpr (by omega)
  have firstWithin := mark_within stands first
  have place := place_quoted quoted marked firstWithin
  have behind : before.length < max span.start.offset (before.length + 1) :=
    Nat.lt_of_lt_of_le (Nat.lt_succ_self _) (Nat.le_max_right _ _)
  rw [parts] at place firstWithin
  refine ⟨_, first, ?_, ?_⟩
  · rw [place, lastLine, parts]
    exact (Location.on_last_line_iff flat _ firstWithin).mpr behind
  · rw [place]
    exact Location.column_on_last_line flat _ firstWithin behind

/-- A span that begins on the last line begins in its own column there. -/
theorem start_column_on_last_line (stands : span.StandsIn source.toList)
    (parts : source.toList = before ++ '\n' :: last) (flat : '\n' ∉ last)
    (behind : before.length < span.start.offset) :
    span.start.column = span.start.offset - before.length := by
  have within := stands.start.within
  have place := congrArg Location.column stands.start.eq_after
  rw [parts] at within place
  rw [Location.column_on_last_line flat _ within behind] at place
  exact place

end LastLine

/-- Behind a line end nothing moves the quoted text, and the bar moves the carets. -/
theorem not_underlined_of_line_end (quoted : diagnostic.sourceLine = some source)
    (marked : diagnostic.span = some span) (plain : ∀ hint ∈ diagnostic.hints, '^' ∉ hint.toList)
    (stands : span.StandsIn source.toList) (lines : '\n' ∈ source.toList) :
    ∃ line, (∃ column, diagnostic.CaretAt source.toList (line + 1) column) ∧
      ¬∀ column, diagnostic.CaretAt source.toList (line + 1) column ↔
        diagnostic.MarkedAt span line column := by
  obtain ⟨before, last, parts, flat⟩ := exists_last_line lines
  have someCarets : 1 ≤ markCount source span := Nat.le_max_left _ _
  have caret := caret_at quoted marked plain (diagnostic.lastLine source.toList + 1)
  have firstCaret := (caret _).mpr ⟨rfl, Nat.le_refl _, by omega⟩
  refine ⟨diagnostic.lastLine source.toList, ⟨_, firstCaret⟩, fun below => ?_⟩
  have reaches := (below _).mp firstCaret
  have first := first_mark_on_last_line quoted marked stands parts flat reaches
  have right := ((caret _).mp ((below _).mpr first)).2.1
  by_cases behind : before.length < span.start.offset
  · have column := start_column_on_last_line stands parts flat behind
    omega
  · omega

end Diagnostic

namespace Formula

/-- Faults of a text quote it, and no hint has a caret. -/
theorem quoted_fault {problem : Problem} {span : Span} (text : String)
    (isSpan : faultSpan? problem = some span) :
    (problem.diagnostic (some text)).sourceLine = some text ∧
      (problem.diagnostic (some text)).span = some span ∧
      ∀ hint ∈ (problem.diagnostic (some text)).hints, '^' ∉ hint.toList := by
  cases problem with
  | lexical fault =>
      refine ⟨rfl, isSpan, ?_⟩
      cases fault with
      | unexpectedCharacter character place => exact List.forall_mem_nil _
      | invalidNumber lexeme place => exact List.forall_mem_singleton.mpr (by decide)
  | syntactic fault => exact ⟨rfl, isSpan, List.forall_mem_nil _⟩
  | violation found place => contradiction
  | form fault => contradiction

/-- A text is refused for a span of it. The carets below the printed text stand below that span
exactly if the text has no line end; if it has one, they do not even fit the line above them. Only
what exhausts the stack is not reported. -/
theorem carets_below_span {text : String} {problem : Problem}
    (refused : Formula.read text = .error problem) (reported : problem ≠ .syntactic .exhausted) :
    let diagnostic := problem.diagnostic (some text)
    ∃ span, diagnostic.span = some span ∧
      span.start.offset ≤ span.stop.offset ∧ span.stop.offset ≤ text.toList.length ∧
      text.toList <+: (diagnostic.format true).toList.drop diagnostic.opening.length ∧
      (diagnostic.Underlines text.toList span ↔ '\n' ∉ text.toList) ∧
      ('\n' ∈ text.toList →
        ∃ line, (∃ column, diagnostic.CaretAt text.toList (line + 1) column) ∧
          ¬∀ column, diagnostic.CaretAt text.toList (line + 1) column ↔
            diagnostic.MarkedAt span line column) := by
  obtain ⟨span, isSpan, stands⟩ := fault_stands refused reported
  obtain ⟨quoted, marked, plain⟩ := quoted_fault text isSpan
  have shifted := Diagnostic.not_underlined_of_line_end quoted marked plain stands
  refine ⟨span, marked, stands.ordered, stands.stop.within, ?_, ⟨?_, ?_⟩, shifted⟩
  · rw [Diagnostic.format_parts quoted marked, List.drop_left]
    exact List.prefix_append _ _
  · intro below lines
    obtain ⟨line, -, misplaced⟩ := shifted lines
    exact misplaced (below line)
  · exact Diagnostic.underlines_of_flat quoted marked plain stands

/-- Where nothing stands behind an operator, a single caret stands behind the text. -/
theorem caret_behind_open_sum :
    ∃ problem, Formula.read "2 +" = .error problem ∧
      (problem.diagnostic (some "2 +")).format true =
        "1:4: error[E102]: Unexpected end of expression, expected expression\n  | 2 +\n  |    ^" ∧
      ∃ span, (problem.diagnostic (some "2 +")).span = some span ∧
        (problem.diagnostic (some "2 +")).Underlines "2 +".toList span := by
  have fault : (Formula.read "2 +").map (fun _ => ()) =
      .error (.syntactic (.unexpectedEnd "expression" ⟨⟨1, 4, 3⟩, ⟨1, 4, 3⟩⟩)) := by
    decide +kernel
  cases read : Formula.read "2 +" with
  | ok formula =>
      rw [read] at fault
      contradiction
  | error problem =>
      rw [read] at fault
      injection fault with same
      have reported : problem ≠ .syntactic .exhausted := by
        rw [same]
        nofun
      obtain ⟨span, marked, -, -, -, below, -⟩ := carets_below_span read reported
      refine ⟨problem, rfl, ?_, span, marked, below.mpr (by decide)⟩
      rw [same]
      decide +kernel

/-- In front of a line end, a character is marked below the line that follows. -/
theorem caret_below_next_line :
    ∃ problem, Formula.read "$\nx" = .error problem ∧
      (problem.diagnostic (some "$\nx")).format true =
        "1:1: error[E001]: Unexpected character '$' at position 0\n  | $\nx\n  | ^" ∧
      ∃ span, (problem.diagnostic (some "$\nx")).span = some span ∧
        ¬(problem.diagnostic (some "$\nx")).Underlines "$\nx".toList span := by
  have fault : (Formula.read "$\nx").map (fun _ => ()) =
      .error (.lexical (.unexpectedCharacter '$' ⟨⟨1, 1, 0⟩, ⟨1, 2, 1⟩⟩)) := by
    decide +kernel
  cases read : Formula.read "$\nx" with
  | ok formula =>
      rw [read] at fault
      contradiction
  | error problem =>
      rw [read] at fault
      injection fault with same
      have reported : problem ≠ .syntactic .exhausted := by
        rw [same]
        nofun
      obtain ⟨span, isSpan, stands⟩ := fault_stands read reported
      obtain ⟨quoted, marked, plain⟩ := quoted_fault "$\nx" isSpan
      obtain ⟨line, -, misplaced⟩ :=
        Diagnostic.not_underlined_of_line_end quoted marked plain stands (by decide)
      refine ⟨problem, rfl, ?_, span, marked, fun below => misplaced (below line)⟩
      rw [same]
      decide +kernel

end Formula

end FormulaPlot
