import FormulaPlot.Proofs.Formula.Front
import FormulaPlot.Proofs.Text.Blanks

/-!
Tokens without their places. What a text is scanned to depends, places aside, on the depth of its
brackets only, and a text is scanned piece by piece when the pieces start with breaking characters.
-/

namespace FormulaPlot

open FormulaPlot.Text

set_option autoImplicit false

abbrev Sense := TokenKind × String

/-- What a token means: its kind and its lexeme. The two signs for powers mean the same. -/
def senseOf (kind : TokenKind) (lexeme : String) : Sense :=
  if kind.isPower then (.caret, "^") else (kind, lexeme)

def Token.sense (token : Token) : Sense := senseOf token.kind token.lexeme

def endSense : Sense := (.endOfText, "")

/-- The senses of all tokens of a text without a fault. -/
def Scanned.senses? (scanned : Scanned) : Option (List Sense) :=
  match scanned.fault with
  | none => some (scanned.tokens.map Token.sense)
  | some _ => none

namespace Scanning

/-- A text whose brackets are at some depth is made of lexemes, the mark of its end aside. -/
inductive Lexed : Nat → List Char → List Sense → Prop
  | nothing {depth : Nat} : Lexed depth [] []
  | gap {depth : Nat} {character : Char} {rest : List Char} {senses : List Sense} :
      isGap character = true → Lexed depth rest senses → Lexed depth (character :: rest) senses
  | folded {depth : Nat} {rest : List Char} {senses : List Sense} :
      0 < depth → Lexed depth rest senses → Lexed depth ('\n' :: rest) senses
  | newline {rest : List Char} {senses : List Sense} :
      Lexed 0 rest senses → Lexed 0 ('\n' :: rest) ((.newline, newlineLexeme) :: senses)
  | lexeme {depth : Nat} {character : Char} {rest : List Char} {kind : TokenKind} {more : Nat}
      {senses : List Sense} :
      isGap character = false → character ≠ '\n' →
      front character rest = .lexeme kind more →
      Lexed (depthAfter kind depth) (rest.drop more) senses →
      Lexed depth (character :: rest)
        (senseOf kind (String.ofList (character :: rest.take more)) :: senses)

theorem senses_cons (token : Token) (scanned : Scanned) :
    (Scanned.cons token scanned).senses? = scanned.senses?.map (token.sense :: ·) := by
  unfold Scanned.senses? Scanned.cons
  cases scanned.fault <;> rfl

section Steps

variable (here : Location) (depth : Nat) {character : Char} (rest : List Char)

theorem scan_gap (gap : isGap character = true) :
    scanFrom here depth (character :: rest) = scanFrom (here.next character) depth rest := by
  rw [scanFrom]
  exact if_pos gap

theorem scan_folded (deep : 0 < depth) :
    scanFrom here depth ('\n' :: rest) = scanFrom (here.next '\n') depth rest := by
  rw [scanFrom]
  simp [deep]

theorem scan_newline :
    scanFrom here 0 ('\n' :: rest) =
      .cons ⟨.newline, newlineLexeme, ⟨here, here.next '\n'⟩⟩
        (scanFrom (here.next '\n') 0 rest) := by
  rw [scanFrom]
  simp [isGap]

theorem scan_lexeme {kind : TokenKind} {more : Nat} (noGap : isGap character = false)
    (noNewline : character ≠ '\n') (found : front character rest = .lexeme kind more) :
    scanFrom here depth (character :: rest) =
      .cons ⟨kind, String.ofList (character :: rest.take more),
          ⟨here, here.after (character :: rest.take more)⟩⟩
        (scanFrom (here.after (character :: rest.take more)) (depthAfter kind depth)
          (rest.drop more)) := by
  rw [scanFrom]
  simp [noGap, noNewline, found]

end Steps

theorem senses_of_lexed {depth : Nat} {characters : List Char} {senses : List Sense}
    (lexed : Lexed depth characters senses) (here : Location) :
    (scanFrom here depth characters).senses? = some (senses ++ [endSense]) := by
  induction lexed generalizing here with
  | nothing =>
      rw [scanFrom]
      rfl
  | gap blank lexed induction => rw [scan_gap here _ _ blank, induction]
  | folded deep lexed induction => rw [scan_folded here _ _ deep, induction]
  | newline lexed induction =>
      rw [scan_newline, senses_cons, induction]
      rfl
  | lexeme noGap noNewline found lexed induction =>
      rw [scan_lexeme here _ _ noGap noNewline found, senses_cons, induction]
      rfl

theorem lexed_of_senses {here : Location} {depth : Nat} {characters : List Char}
    {senses : List Sense}
    (scanned : (scanFrom here depth characters).senses? = some senses) :
    ∃ front, senses = front ++ [endSense] ∧ Lexed depth characters front := by
  cases shape : characters with
  | nil =>
      rw [shape, scanFrom] at scanned
      simp only [Scanned.senses?, Scanned.finished, Option.some.injEq] at scanned
      exact ⟨[], scanned.symm, .nothing⟩
  | cons character rest =>
      rw [shape] at scanned
      cases gap : isGap character with
      | true =>
          rw [scan_gap here depth rest gap] at scanned
          obtain ⟨front, same, lexed⟩ := lexed_of_senses scanned
          exact ⟨front, same, .gap gap lexed⟩
      | false =>
          by_cases newline : character = '\n'
          · subst newline
            by_cases deep : 0 < depth
            · rw [scan_folded here depth rest deep] at scanned
              obtain ⟨front, same, lexed⟩ := lexed_of_senses scanned
              exact ⟨front, same, .folded deep lexed⟩
            · have flat : depth = 0 := by omega
              subst flat
              rw [scan_newline, senses_cons, Option.map_eq_some_iff] at scanned
              obtain ⟨others, scannedRest, rfl⟩ := scanned
              obtain ⟨front, rfl, lexed⟩ := lexed_of_senses scannedRest
              exact ⟨_, rfl, .newline lexed⟩
          · cases found : front character rest with
            | lexeme kind more =>
                rw [scan_lexeme here depth rest gap newline found, senses_cons,
                  Option.map_eq_some_iff] at scanned
                obtain ⟨others, scannedRest, rfl⟩ := scanned
                obtain ⟨front, rfl, lexed⟩ := lexed_of_senses scannedRest
                exact ⟨_, rfl, .lexeme gap newline found lexed⟩
            | badNumber more =>
                rw [scanFrom] at scanned
                simp [gap, newline, found, Scanned.senses?, Scanned.failed] at scanned
            | badCharacter =>
                rw [scanFrom] at scanned
                simp [gap, newline, found, Scanned.senses?, Scanned.failed] at scanned
termination_by characters.length
decreasing_by
  all_goals subst shape
  all_goals simp only [List.length_cons, List.length_drop]; omega

theorem Lexed.unique {depth : Nat} {characters : List Char} {first second : List Sense}
    (lexed : Lexed depth characters first) (again : Lexed depth characters second) :
    first = second := by
  have same := senses_of_lexed lexed .start
  rw [senses_of_lexed again .start, Option.some.injEq] at same
  exact (List.append_inj_left' same rfl).symm

/-- A character that goes on with no lexeme in front of it. -/
def separates (character : Char) : Bool :=
  breaks character && character != '*' && character != '='

theorem breaks_of_separates (character : Char) (separating : separates character = true) :
    breaks character = true := by
  simp only [separates, Bool.and_eq_true] at separating
  exact separating.1.1

theorem unpaired_of_separates {behind : List Char} (separating : Leads separates behind)
    (character : Char) : behind.head?.bind (TokenKind.ofPair? character) = none := by
  cases behind with
  | nil => rfl
  | cons next rest =>
      simp only [Leads, separates, Bool.and_eq_true, bne_iff_ne, ne_eq] at separating
      rw [List.head?_cons, Option.bind_some]
      unfold TokenKind.ofPair?
      split <;> simp at separating ⊢

/-- The depth behind tokens. -/
def deepened (depth : Nat) (senses : List Sense) : Nat :=
  senses.foldl (fun depth sense => depthAfter sense.1 depth) depth

theorem deepened_append (depth : Nat) (first second : List Sense) :
    deepened depth (first ++ second) = deepened (deepened depth first) second :=
  List.foldl_append

theorem depth_after_sense (kind : TokenKind) (lexeme : String) (depth : Nat) :
    depthAfter (senseOf kind lexeme).1 depth = depthAfter kind depth := by
  cases kind <;> rfl

theorem Lexed.append {depth : Nat} {first behind : List Char} {senses others : List Sense}
    (separating : Leads separates behind) (lexed : Lexed depth first senses)
    (lexedBehind : Lexed (deepened depth senses) behind others) :
    Lexed depth (first ++ behind) (senses ++ others) := by
  have breaking := leads_mono breaks_of_separates separating
  induction lexed with
  | nothing => exact lexedBehind
  | gap blank lexed induction => exact .gap blank (induction lexedBehind)
  | folded deep lexed induction => exact .folded deep (induction lexedBehind)
  | newline lexed induction => exact .newline (induction lexedBehind)
  | @lexeme depth character rest kind more senses noGap noNewline found lexed induction =>
      have within := front_within found
      have same := front_append breaking character rest
        fun _ => unpaired_of_separates separating character
      rw [deepened, List.foldl_cons, depth_after_sense] at lexedBehind
      have whole := induction lexedBehind
      rw [← List.drop_append_of_le_length within] at whole
      have taken : (rest ++ behind).take more = rest.take more :=
        List.take_append_of_le_length within
      rw [← taken]
      exact .lexeme noGap noNewline (same.trans found) whole

theorem Lexed.split {depth : Nat} {first behind : List Char} {senses : List Sense}
    (separating : Leads separates behind) (lexed : Lexed depth (first ++ behind) senses) :
    ∃ start others, senses = start ++ others ∧ Lexed depth first start ∧
      Lexed (deepened depth start) behind others := by
  have breaking := leads_mono breaks_of_separates separating
  cases shape : first with
  | nil =>
      rw [shape] at lexed
      exact ⟨[], senses, rfl, .nothing, lexed⟩
  | cons character rest =>
      rw [shape, List.cons_append] at lexed
      cases lexed with
      | gap blank lexed =>
          obtain ⟨start, others, same, lexedFirst, lexedBehind⟩ := Lexed.split separating lexed
          exact ⟨start, others, same, .gap blank lexedFirst, lexedBehind⟩
      | folded deep lexed =>
          obtain ⟨start, others, same, lexedFirst, lexedBehind⟩ := Lexed.split separating lexed
          exact ⟨start, others, same, .folded deep lexedFirst, lexedBehind⟩
      | newline lexed =>
          obtain ⟨start, others, rfl, lexedFirst, lexedBehind⟩ := Lexed.split separating lexed
          exact ⟨_ :: start, others, rfl, .newline lexedFirst, lexedBehind⟩
      | @lexeme _ _ _ kind more senses noGap noNewline found lexed =>
          rw [front_append breaking character rest
            fun _ => unpaired_of_separates separating character] at found
          have within := front_within found
          rw [List.drop_append_of_le_length within] at lexed
          obtain ⟨start, others, rfl, lexedFirst, lexedBehind⟩ := Lexed.split separating lexed
          rw [← depth_after_sense kind (String.ofList (character :: rest.take more))]
            at lexedBehind
          rw [List.take_append_of_le_length within]
          exact ⟨_ :: start, others, rfl, .lexeme noGap noNewline found lexedFirst, lexedBehind⟩
termination_by first.length
decreasing_by
  all_goals subst shape
  all_goals simp only [List.length_cons, List.length_drop]; omega

/-- Without line ends the depth of brackets does not matter. -/
theorem Lexed.at_depth {depth : Nat} {characters : List Char} {senses : List Sense}
    (lexed : Lexed depth characters senses) (oneLine : '\n' ∉ characters) (other : Nat) :
    Lexed other characters senses := by
  induction lexed generalizing other with
  | nothing => exact .nothing
  | gap blank lexed induction =>
      rw [List.mem_cons, not_or] at oneLine
      exact .gap blank (induction oneLine.2 other)
  | folded deep lexed induction => exact absurd List.mem_cons_self oneLine
  | newline lexed induction => exact absurd List.mem_cons_self oneLine
  | lexeme noGap noNewline found lexed induction =>
      rw [List.mem_cons, not_or] at oneLine
      exact .lexeme noGap noNewline found
        (induction (fun member => oneLine.2 (List.mem_of_mem_drop member)) _)

theorem blank_separates {character : Char} (blank : isBlank character = true) :
    separates character = true := by
  have noWord := blank_not_word blank
  have other : ∀ sign, isBlank sign = false → (character != sign) = true := by
    intro sign noBlank
    rw [bne_iff_ne]
    rintro rfl
    simp [blank] at noBlank
  simp only [separates, breaks, noWord, other '.' (by decide), other '+' (by decide),
    other '-' (by decide), other '*' (by decide), other '=' (by decide)]
  rfl

theorem pair_not_blank {first second : Char} {kind : TokenKind}
    (pair : TokenKind.ofPair? first second = some kind) : isBlank first = false := by
  unfold TokenKind.ofPair? at pair
  split at pair
  case h_6 => simp at pair
  all_goals decide

theorem sign_not_blank {character : Char} {kind : TokenKind}
    (single : TokenKind.ofCharacter? character = some kind) : isBlank character = false := by
  unfold TokenKind.ofCharacter? at single
  split at single
  case h_20 => simp at single
  all_goals decide

theorem numeric_not_blank {character : Char} (numeric : isNumeric character = true) :
    isBlank character = false := by
  cases blank : isBlank character with
  | false => rfl
  | true =>
      have noWord := blank_not_word blank
      simp only [isNumeric, Bool.or_eq_true, List.contains_iff_mem] at numeric
      rcases numeric with digit | member
      · rw [word_of_digit digit] at noWord
        simp at noWord
      · have signs : ['.', 'e', 'E', '+', '-'].all (fun sign => !isBlank sign) = true := by decide
        have visible := List.all_eq_true.mp signs character member
        simp [blank] at visible

/-- No lexeme starts with white space. -/
theorem front_not_blank {character : Char} {rest : List Char} {kind : TokenKind} {more : Nat}
    (found : front character rest = .lexeme kind more) : isBlank character = false := by
  rcases front_cases found with ⟨_, starts, _⟩ | ⟨_, starts, _⟩ | ⟨next, tail, _, pair, _⟩ |
    ⟨single, _⟩
  · exact numeric_not_blank (numeric_of_start starts)
  · cases blank : isBlank character with
    | false => rfl
    | true =>
        have noWord := blank_not_word blank
        rw [word_of_name starts] at noWord
        simp at noWord
  · exact pair_not_blank pair
  · exact sign_not_blank single

theorem Lexed.of_nil {depth : Nat} {senses : List Sense} (lexed : Lexed depth [] senses) :
    senses = [] := by
  cases lexed
  rfl

theorem Lexed.drop_blank {depth : Nat} {character : Char} {rest : List Char} {senses : List Sense}
    (lexed : Lexed depth (character :: rest) senses) (blank : isBlank character = true)
    (oneLine : character ≠ '\n') : Lexed depth rest senses := by
  cases lexed with
  | gap gap lexed => exact lexed
  | folded deep lexed => exact absurd rfl oneLine
  | newline lexed => exact absurd rfl oneLine
  | lexeme noGap noNewline found lexed =>
      rw [front_not_blank found] at blank
      simp at blank

theorem Lexed.drop_blanks {depth : Nat} {characters : List Char} {senses : List Sense}
    (lexed : Lexed depth characters senses) (oneLine : '\n' ∉ characters) :
    Lexed depth (characters.dropWhile isBlank) senses := by
  induction characters with
  | nil => exact lexed
  | cons character rest induction =>
      rw [List.mem_cons, not_or] at oneLine
      cases blank : isBlank character with
      | true =>
          rw [List.dropWhile_cons_of_pos blank]
          exact induction (lexed.drop_blank blank (Ne.symm oneLine.1)) oneLine.2
      | false =>
          rw [List.dropWhile_cons_of_neg (by simp [blank])]
          exact lexed

theorem Lexed.trim_end {depth : Nat} {characters : List Char} {senses : List Sense}
    (lexed : Lexed depth characters senses) (oneLine : '\n' ∉ characters) :
    Lexed depth (characters.reverse.dropWhile isBlank).reverse senses := by
  generalize shape : characters.reverse = reversed
  induction reversed generalizing characters senses with
  | nil =>
      have empty := List.reverse_eq_nil_iff.mp shape
      rw [empty] at lexed
      exact lexed
  | cons character rest induction =>
      have parted : characters = rest.reverse ++ [character] := by
        rw [← List.reverse_cons, ← shape, List.reverse_reverse]
      cases blank : isBlank character with
      | false =>
          rw [List.dropWhile_cons_of_neg (by simp [blank]), List.reverse_cons, ← parted]
          exact lexed
      | true =>
          rw [List.dropWhile_cons_of_pos blank]
          rw [parted] at lexed oneLine
          rw [List.mem_append, not_or, List.mem_singleton] at oneLine
          have separating : Leads separates [character] := blank_separates blank
          obtain ⟨start, others, rfl, lexedFront, lexedLast⟩ := lexed.split separating
          have nothing := (lexedLast.drop_blank blank (Ne.symm oneLine.2)).of_nil
          rw [nothing, List.append_nil]
          exact induction lexedFront oneLine.1 (List.reverse_reverse rest)

theorem Lexed.strip {depth : Nat} {characters : List Char} {senses : List Sense}
    (lexed : Lexed depth characters senses) (oneLine : '\n' ∉ characters) :
    Lexed depth (Text.strip characters) senses := by
  have shorter : '\n' ∉ characters.dropWhile isBlank := fun member =>
    oneLine ((List.dropWhile_suffix isBlank).subset member)
  have trimmed := (lexed.drop_blanks oneLine).trim_end shorter
  simpa [Text.strip, stripAll, trimEnd] using trimmed

/-- A sign that makes no pairs is a lexeme by itself, whatever stands behind it. -/
theorem front_alone {character : Char} {kind : TokenKind}
    (noWord : isWordCharacter character = false)
    (single : TokenKind.ofCharacter? character = some kind)
    (unpaired : ∀ next, TokenKind.ofPair? character next = none) (noPoint : character ≠ '.')
    (rest : List Char) : front character rest = .lexeme kind 0 := by
  have noDigit : isDigit character = false := by
    cases digit : isDigit character with
    | false => rfl
    | true => simp [word_of_digit digit] at noWord
  have noNumber : startsNumber (character :: rest) = false := by
    rw [startsNumber, starts_with_fraction_cons]
    simp [startsWithDigit, noDigit, noPoint]
  have noName : startsName character = false := by
    cases starts : startsName character with
    | false => rfl
    | true => simp [word_of_name starts] at noWord
  have noPair : rest.head?.bind (TokenKind.ofPair? character) = none := by
    cases rest with
    | nil => rfl
    | cons next more => exact unpaired next
  simp [front, operatorFront, noNumber, noName, noPair, single]

theorem lexed_sign_iff {depth : Nat} {character : Char} {kind : TokenKind} {rest : List Char}
    {senses : List Sense} (noGap : isGap character = false) (noNewline : character ≠ '\n')
    (alone : front character rest = .lexeme kind 0) :
    Lexed depth (character :: rest) senses ↔
      ∃ others, senses = senseOf kind (String.ofList [character]) :: others ∧
        Lexed (depthAfter kind depth) rest others := by
  constructor
  · intro lexed
    cases lexed with
    | gap blank lexed => simp [blank] at noGap
    | folded deep lexed => exact absurd rfl noNewline
    | newline lexed => exact absurd rfl noNewline
    | lexeme _ _ found lexed =>
        rw [alone, Front.lexeme.injEq] at found
        obtain ⟨rfl, rfl⟩ := found
        exact ⟨_, rfl, lexed⟩
  · rintro ⟨others, rfl, lexed⟩
    exact .lexeme noGap noNewline alone lexed

theorem lexed_gap_iff {depth : Nat} {character : Char} {rest : List Char} {senses : List Sense}
    (blank : isGap character = true) (noNewline : character ≠ '\n') :
    Lexed depth (character :: rest) senses ↔ Lexed depth rest senses := by
  constructor
  · intro lexed
    cases lexed with
    | gap _ lexed => exact lexed
    | folded deep lexed => exact absurd rfl noNewline
    | newline lexed => exact absurd rfl noNewline
    | lexeme noGap _ _ lexed => simp [blank] at noGap
  · exact .gap blank

def openSense : Sense := (.leftParenthesis, "(")

def closeSense : Sense := (.rightParenthesis, ")")

def minusSense : Sense := (.minus, "-")

theorem lexed_open_iff (depth : Nat) (rest : List Char) (senses : List Sense) :
    Lexed depth ('(' :: rest) senses ↔
      ∃ others, senses = openSense :: others ∧ Lexed (depth + 1) rest others := by
  have alone : front '(' rest = .lexeme .leftParenthesis 0 :=
    front_alone (by decide) rfl (fun _ => rfl) (by decide) rest
  exact lexed_sign_iff (by decide) (by decide) alone

theorem lexed_close_iff (depth : Nat) (rest : List Char) (senses : List Sense) :
    Lexed depth (')' :: rest) senses ↔
      ∃ others, senses = closeSense :: others ∧ Lexed (depth - 1) rest others := by
  have alone : front ')' rest = .lexeme .rightParenthesis 0 :=
    front_alone (by decide) rfl (fun _ => rfl) (by decide) rest
  exact lexed_sign_iff (by decide) (by decide) alone

theorem lexed_minus_iff (depth : Nat) (rest : List Char) (senses : List Sense) :
    Lexed depth ('-' :: rest) senses ↔
      ∃ others, senses = minusSense :: others ∧ Lexed depth rest others := by
  have alone : front '-' rest = .lexeme .minus 0 :=
    front_alone (by decide) rfl (fun _ => rfl) (by decide) rest
  exact lexed_sign_iff (by decide) (by decide) alone

theorem lexed_blank_iff (depth : Nat) (rest : List Char) (senses : List Sense) :
    Lexed depth (' ' :: rest) senses ↔ Lexed depth rest senses :=
  lexed_gap_iff (by decide) (by decide)

/-- A text in parentheses in front of others. -/
theorem lexed_group_iff (depth : Nat) (inside behind : List Char) (senses : List Sense) :
    Lexed depth ('(' :: (inside ++ ')' :: behind)) senses ↔
      ∃ inner others, senses = openSense :: (inner ++ closeSense :: others) ∧
        Lexed (depth + 1) inside inner ∧
        Lexed (deepened (depth + 1) inner - 1) behind others := by
  have separating : Leads separates (')' :: behind) := by
    show separates ')' = true
    decide
  rw [lexed_open_iff]
  constructor
  · rintro ⟨rest, rfl, lexed⟩
    obtain ⟨inner, others, rfl, lexedInside, lexedBehind⟩ := lexed.split separating
    rw [lexed_close_iff] at lexedBehind
    obtain ⟨others, rfl, lexedBehind⟩ := lexedBehind
    exact ⟨inner, others, rfl, lexedInside, lexedBehind⟩
  · rintro ⟨inner, others, rfl, lexedInside, lexedBehind⟩
    refine ⟨_, rfl, lexedInside.append separating ?_⟩
    exact (lexed_close_iff _ _ _).mpr ⟨others, rfl, lexedBehind⟩

end Scanning

end FormulaPlot
