import FormulaPlot.Proofs.Formula.Grammar
import FormulaPlot.Proofs.Formula.Lexemes

/-!
Parentheses pair up: in every text of the grammar, and in its characters as in its tokens.
-/

namespace FormulaPlot

open FormulaPlot.Text

set_option autoImplicit false

/-- The number of open parentheses behind one more item, if it closes none that is not open. -/
def unclosedBehind {item : Type} (opens closes : item → Bool) (depth : Nat) (next : item) :
    Option Nat :=
  if opens next then some (depth + 1)
  else if closes next then
    match depth with
    | 0 => none
    | depth + 1 => some depth
  else some depth

def unclosed {item : Type} (opens closes : item → Bool) (depth : Nat) : List item → Option Nat
  | [] => some depth
  | next :: rest =>
      match unclosedBehind opens closes depth next with
      | none => none
      | some depth => unclosed opens closes depth rest

section Unclosed

variable {item : Type} {opens closes : item → Bool}

theorem unclosed_append (depth : Nat) (first second : List item) :
    unclosed opens closes depth (first ++ second) =
      (unclosed opens closes depth first).bind fun depth => unclosed opens closes depth second := by
  induction first generalizing depth with
  | nil => rfl
  | cons next rest induction =>
      rw [List.cons_append, unclosed, unclosed]
      cases unclosedBehind opens closes depth next with
      | none => rfl
      | some depth => exact induction depth

theorem unclosed_cons {next : item} (none : opens next = false ∧ closes next = false)
    (depth : Nat) (rest : List item) :
    unclosed opens closes depth (next :: rest) = unclosed opens closes depth rest := by
  simp [unclosed, unclosedBehind, none.1, none.2]

theorem unclosed_of_none {items : List item}
    (none : ∀ item ∈ items, opens item = false ∧ closes item = false) (depth : Nat) :
    unclosed opens closes depth items = some depth := by
  induction items with
  | nil => rfl
  | cons next rest induction =>
      rw [List.forall_mem_cons] at none
      rw [unclosed_cons none.1, induction none.2]

end Unclosed

namespace Equation

/-- Every parenthesis that is opened is closed, and none is closed before. -/
def Balanced (characters : List Char) : Prop :=
  unclosed (· == '(') (· == ')') 0 characters = some 0

instance (characters : List Char) : Decidable (Balanced characters) :=
  inferInstanceAs (Decidable (_ = _))

end Equation

def Sense.opens (sense : Sense) : Bool := sense.1 == .leftParenthesis

def Sense.closes (sense : Sense) : Bool := sense.1 == .rightParenthesis

theorem opens_sense (kind : TokenKind) (lexeme : String) :
    Sense.opens (senseOf kind lexeme) = (kind == .leftParenthesis) := by
  cases kind <;> rfl

theorem closes_sense (kind : TokenKind) (lexeme : String) :
    Sense.closes (senseOf kind lexeme) = (kind == .rightParenthesis) := by
  cases kind <;> rfl

namespace Scanning

theorem word_no_parenthesis {character : Char} (word : isWordCharacter character = true) :
    (character == '(') = false ∧ (character == ')') = false := by
  constructor <;>
    · rw [beq_eq_false_iff_ne]
      rintro rfl
      exact absurd word (by decide)

theorem numeric_no_parenthesis {character : Char} (numeric : isNumeric character = true) :
    (character == '(') = false ∧ (character == ')') = false := by
  constructor <;>
    · rw [beq_eq_false_iff_ne]
      rintro rfl
      exact absurd numeric (by decide)

/-- A parenthesis is a lexeme by itself and stands in no other. -/
theorem unclosed_lexeme {character : Char} {rest : List Char} {kind : TokenKind} {more : Nat}
    (found : front character rest = .lexeme kind more) (depth : Nat) :
    unclosed (· == '(') (· == ')') depth (character :: rest.take more) =
      unclosed Sense.opens Sense.closes depth
        [senseOf kind (String.ofList (character :: rest.take more))] := by
  rcases front_cases found with ⟨rfl, starts, rfl⟩ | ⟨rfl, starts, rfl⟩ |
    ⟨next, tail, rfl, pair, rfl⟩ | ⟨single, rfl⟩
  · rw [unclosed_of_none fun part member =>
      numeric_no_parenthesis (numeric_lexeme starts part member)]
    rfl
  · rw [take_while_length, unclosed_of_none]
    · rfl
    · rw [List.forall_mem_cons]
      refine ⟨word_no_parenthesis (word_of_name starts), ?_⟩
      intro part member
      exact word_no_parenthesis (List.all_eq_true.mp List.all_takeWhile part member)
  · unfold TokenKind.ofPair? at pair
    split at pair
    case h_6 => simp at pair
    all_goals
      simp only [Option.some.injEq] at pair
      rw [← pair]
      rfl
  · unfold TokenKind.ofCharacter? at single
    split at single
    case h_20 => simp at single
    all_goals
      simp only [Option.some.injEq] at single
      rw [← single]
      rfl

theorem unclosed_of_lexed {depth : Nat} {characters : List Char} {senses : List Sense}
    (lexed : Lexed depth characters senses) (opened : Nat) :
    unclosed (· == '(') (· == ')') opened characters =
      unclosed Sense.opens Sense.closes opened senses := by
  induction lexed generalizing opened with
  | nothing => rfl
  | @gap depth character rest senses blank lexed induction =>
      have noParenthesis : (character == '(') = false ∧ (character == ')') = false := by
        simp only [isGap, Bool.or_eq_true, beq_iff_eq] at blank
        rcases blank with (rfl | rfl) | rfl <;> decide
      rw [← induction]
      exact unclosed_cons noParenthesis opened rest
  | folded deep lexed induction => exact induction opened
  | newline lexed induction => exact induction opened
  | @lexeme depth character rest kind more senses noGap noNewline found lexed induction =>
      have parted : character :: rest = (character :: rest.take more) ++ rest.drop more := by simp
      rw [parted, unclosed_append, unclosed_lexeme found]
      simp only [induction]
      rw [← unclosed_append]
      rfl

end Scanning

namespace Grammar

open FormulaPlot.Formula FormulaPlot.Scanning

/-- Tokens whose brackets pair up. -/
structure Paired (tokens : List Token) : Prop where
  parentheses : ∀ depth,
    unclosed Sense.opens Sense.closes depth (tokens.map Token.sense) = some depth
  brackets : ∀ depth, deepened depth (tokens.map Token.sense) = depth

theorem paired_nil : Paired [] := ⟨fun _ => rfl, fun _ => rfl⟩

theorem paired_append {first second : List Token} (firstPaired : Paired first)
    (secondPaired : Paired second) : Paired (first ++ second) := by
  constructor
  · intro depth
    rw [List.map_append, unclosed_append, firstPaired.parentheses]
    exact secondPaired.parentheses depth
  · intro depth
    rw [List.map_append, deepened_append, firstPaired.brackets]
    exact secondPaired.brackets depth

def isBracket (kind : TokenKind) : Bool := kind.opens || kind.closes

theorem no_parenthesis_of_other {token : Token} {kind : TokenKind} (isKind : token.kind = kind)
    (other : kind ≠ .leftParenthesis ∧ kind ≠ .rightParenthesis) :
    Sense.opens token.sense = false ∧ Sense.closes token.sense = false := by
  rw [Token.sense, opens_sense, closes_sense, isKind, beq_eq_false_iff_ne, beq_eq_false_iff_ne]
  exact other

theorem depth_behind_token (token : Token) (depth : Nat) (rest : List Token) :
    deepened depth ((token :: rest).map Token.sense) =
      deepened (depthAfter token.kind depth) (rest.map Token.sense) := by
  rw [List.map_cons, deepened, List.foldl_cons, Token.sense, depth_after_sense]
  rfl

theorem paired_cons {token : Token} {kind : TokenKind} {rest : List Token}
    (isKind : token.kind = kind) (other : isBracket kind = false) (paired : Paired rest) :
    Paired (token :: rest) := by
  have apart : kind ≠ .leftParenthesis ∧ kind ≠ .rightParenthesis := by
    constructor <;>
      · rintro rfl
        simp [isBracket, TokenKind.opens, TokenKind.closes] at other
  constructor
  · intro depth
    rw [List.map_cons, unclosed_cons (no_parenthesis_of_other isKind apart)]
    exact paired.parentheses depth
  · intro depth
    simp only [isBracket, Bool.or_eq_false_iff] at other
    rw [depth_behind_token, isKind, depthAfter, other.1, other.2]
    exact paired.brackets depth

/-- Tokens with some other token between them. -/
theorem paired_around {head tail : List Token} {token : Token} {kind : TokenKind}
    (headPaired : Paired head) (isKind : token.kind = kind) (other : isBracket kind = false)
    (tailPaired : Paired tail) : Paired (head ++ token :: tail) :=
  paired_append headPaired (paired_cons isKind other tailPaired)

theorem brackets_within {opening closing : Token} {tokens : List Token}
    (opens : opening.kind.opens = true) (paired : Paired tokens)
    (closes : closing.kind.closes = true) (depth : Nat) :
    deepened depth ((opening :: (tokens ++ [closing])).map Token.sense) = depth := by
  have noOpening : closing.kind.opens = false := by
    cases kind : closing.kind <;> simp [kind, TokenKind.closes] at closes <;> rfl
  rw [depth_behind_token, depthAfter, if_pos opens, List.map_append, deepened_append,
    paired.brackets, List.map_cons, ← List.map_cons, depth_behind_token, depthAfter, noOpening,
    closes]
  rfl

theorem paired_within {opening closing : Token} {tokens : List Token}
    (opens : opening.kind = .leftParenthesis) (paired : Paired tokens)
    (closes : closing.kind = .rightParenthesis) : Paired (opening :: (tokens ++ [closing])) := by
  have isOpening : Sense.opens opening.sense = true := by
    rw [Token.sense, opens_sense, opens]
    rfl
  have noOpening : Sense.opens closing.sense = false := by
    rw [Token.sense, opens_sense, closes]
    rfl
  have isClosing : Sense.closes closing.sense = true := by
    rw [Token.sense, closes_sense, closes]
    rfl
  constructor
  · intro depth
    rw [List.map_cons, List.map_append, unclosed]
    simp only [unclosedBehind, isOpening, if_true]
    rw [unclosed_append, paired.parentheses (depth + 1)]
    simp [unclosed, unclosedBehind, noOpening, isClosing]
  · exact brackets_within (by rw [opens]; rfl) paired (by rw [closes]; rfl)

/-- Brackets of the other kinds. -/
theorem paired_bracketed {opening closing : Token} {kind last : TokenKind} {tokens : List Token}
    (opens : opening.kind = kind) (paired : Paired tokens) (closes : closing.kind = last)
    (brackets : kind.opens = true ∧ last.closes = true)
    (other : kind ≠ .leftParenthesis ∧ last ≠ .rightParenthesis) :
    Paired (opening :: (tokens ++ [closing])) := by
  have apart : kind ≠ .rightParenthesis ∧ last ≠ .leftParenthesis := by
    constructor <;>
      · rintro rfl
        simp [TokenKind.opens, TokenKind.closes] at brackets
  have first := no_parenthesis_of_other opens ⟨other.1, apart.1⟩
  have second := no_parenthesis_of_other closes ⟨apart.2, other.2⟩
  constructor
  · intro depth
    rw [List.map_cons, List.map_append, unclosed_cons first, unclosed_append, paired.parentheses]
    exact unclosed_cons second depth []
  · exact brackets_within (by rw [opens]; exact brackets.1) paired
      (by rw [closes]; exact brackets.2)

theorem other_of_precedence {kind : TokenKind} {precedence : Nat}
    (found : precedence? kind = some precedence) : isBracket kind = false := by
  cases kind <;> simp [precedence?] at found <;> rfl

theorem other_of_sign {kind : TokenKind} (isSign : kind.isSign = true) :
    isBracket kind = false := by
  cases kind <;> simp [TokenKind.isSign] at isSign <;> rfl

theorem other_of_power {kind : TokenKind} (isPower : kind.isPower = true) :
    isBracket kind = false := by
  cases kind <;> simp [TokenKind.isPower] at isPower <;> rfl

theorem other_of_separator {kind : TokenKind} (separates : kind.isSeparator = true) :
    isBracket kind = false := by
  cases kind <;> simp [TokenKind.isSeparator] at separates <;> rfl

mutual

theorem Statement.paired {room : Nat} {tokens : List Token} {formula : Formula Span} :
    Statement room tokens formula → Paired tokens
  | .range derived => derived.paired
  | .assignment target _ isAssign value =>
      paired_around target.paired isAssign rfl value.paired
  | .definition head _ isAssign body =>
      paired_around head.paired isAssign rfl body.paired

theorem Range.paired {room : Nat} {tokens : List Token} {formula : Formula Span} :
    Range room tokens formula → Paired tokens
  | .single derived => derived.paired
  | .range first isColon last => paired_around first.paired isColon rfl last.paired
  | .stepped first isColon step isSecond last =>
      paired_around first.paired isColon rfl
        (paired_around step.paired isSecond rfl last.paired)

theorem Level.paired {room level : Nat} {tokens : List Token} {formula : Formula Span} :
    Level room level tokens formula → Paired tokens
  | .operand _ derived => derived.paired
  | .tighter derived => derived.paired
  | .operation left found right =>
      paired_around left.paired rfl (other_of_precedence found) right.paired
  | .product left right _ _ => paired_append left.paired right.paired

theorem Operand.paired {room : Nat} {tokens : List Token} {formula : Formula Span} :
    Operand room tokens formula → Paired tokens
  | .power derived => derived.paired
  | .signed isSign operand => paired_cons rfl (other_of_sign isSign) operand.paired

theorem Power.paired {room : Nat} {tokens : List Token} {formula : Formula Span} :
    Power room tokens formula → Paired tokens
  | .base derived => derived.paired
  | .raised base isPower exponent =>
      paired_around base.paired rfl (other_of_power isPower) exponent.paired

theorem Postfix.paired {room : Nat} {tokens : List Token} {formula : Formula Span} :
    Postfix room tokens formula → Paired tokens
  | .primary derived => derived.paired
  | .call head opens items closes =>
      paired_append head.paired (paired_within opens items.paired closes)
  | .index target opens items closes =>
      paired_append target.paired
        (paired_bracketed opens items.paired closes (by decide) (by decide))
  | .member target isDot isName =>
      paired_around target.paired isDot rfl (paired_cons isName rfl paired_nil)

theorem Primary.paired {room : Nat} {tokens : List Token} {formula : Formula Span} :
    Primary room tokens formula → Paired tokens
  | .number isNumber => paired_cons isNumber rfl paired_nil
  | .name isName => paired_cons isName rfl paired_nil
  | .group opens inner closes => paired_within opens inner.paired closes
  | .array opens items closes =>
      paired_bracketed opens items.paired closes (by decide) (by decide)
  | .emptyObject opens closes =>
      paired_bracketed opens paired_nil closes (by decide) (by decide)
  | .object opens entries closes =>
      paired_bracketed opens entries.paired closes (by decide) (by decide)

theorem Items.paired {room : Nat} {tokens : List Token} {formulas : List (Formula Span)} :
    Items room tokens formulas → Paired tokens
  | .none => paired_nil
  | .some derived => derived.paired

theorem Sequence.paired {room : Nat} {tokens : List Token} {formulas : List (Formula Span)} :
    Sequence room tokens formulas → Paired tokens
  | .last derived => derived.paired
  | .more derived isComma others =>
      paired_around derived.paired isComma rfl others.paired

theorem Entries.paired {room : Nat} {tokens : List Token}
    {entries : List (String × Formula Span)} :
    Entries room tokens entries → Paired tokens
  | .last isName isColon value =>
      paired_cons isName rfl (paired_cons isColon rfl value.paired)
  | .more isName isColon value isComma others =>
      paired_cons isName rfl (paired_cons isColon rfl
        (paired_around value.paired isComma rfl others.paired))

end

theorem Separators.paired {tokens : List Token} (separators : Separators tokens) :
    Paired tokens := by
  induction tokens with
  | nil => exact paired_nil
  | cons token rest induction =>
      obtain ⟨separates, others⟩ := List.forall_mem_cons.mp separators
      exact paired_cons rfl (other_of_separator separates) (induction others)

theorem Following.paired {room : Nat} {tokens : List Token} {statements : List (Formula Span)}
    (derived : Following room tokens statements) : Paired tokens := by
  induction derived with
  | none separators => exact separators.paired
  | more separators present statement others induction =>
      exact paired_append separators.paired (paired_append statement.paired induction)

theorem Body.paired {room : Nat} {tokens : List Token} {formula : Formula Span}
    (derived : Body room tokens formula) : Paired tokens := by
  cases derived with
  | statement separators statement => exact paired_append separators.paired statement.paired
  | block separators statement others =>
      exact paired_append separators.paired (paired_append statement.paired others.paired)

/-- Whether the parentheses of some tokens pair up among themselves. -/
def BalancedTokens (tokens : List Token) : Prop :=
  unclosed Sense.opens Sense.closes 0 (tokens.map Token.sense) = some 0

/-- Behind balanced tokens nothing is left to be closed. -/
theorem not_balanced_behind {tokens rest : List Token} {closing : Token}
    (balanced : BalancedTokens tokens) (closes : closing.kind = .rightParenthesis) :
    ¬BalancedTokens (tokens ++ closing :: rest) := by
  have noOpening : Sense.opens closing.sense = false := by
    rw [Token.sense, opens_sense, closes]
    rfl
  have isClosing : Sense.closes closing.sense = true := by
    rw [Token.sense, closes_sense, closes]
    rfl
  unfold BalancedTokens at balanced ⊢
  rw [List.map_append, unclosed_append, balanced, List.map_cons]
  simp [unclosed, unclosedBehind, noOpening, isClosing]

theorem balanced_front_unique {first second behind rest : List Token} {closing last : Token}
    (closes : closing.kind = .rightParenthesis) (ends : last.kind = .rightParenthesis)
    (firstBalanced : BalancedTokens first) (secondBalanced : BalancedTokens second)
    (same : first ++ closing :: behind = second ++ last :: rest) :
    first = second ∧ closing = last ∧ behind = rest := by
  rcases List.append_eq_append_iff.mp same with ⟨more, longer, parted⟩ | ⟨more, longer, parted⟩
  · cases more with
    | nil =>
        simp only [List.nil_append, List.cons.injEq] at parted
        exact ⟨by simpa using longer.symm, parted⟩
    | cons next more =>
        simp only [List.cons_append, List.cons.injEq] at parted
        rw [longer, ← parted.1] at secondBalanced
        exact absurd secondBalanced (not_balanced_behind firstBalanced closes)
  · cases more with
    | nil =>
        simp only [List.nil_append, List.cons.injEq] at parted
        exact ⟨by simpa using longer, parted.1.symm, parted.2.symm⟩
    | cons next more =>
        simp only [List.cons_append, List.cons.injEq] at parted
        rw [longer, ← parted.1] at firstBalanced
        exact absurd firstBalanced (not_balanced_behind secondBalanced ends)

end Grammar

end FormulaPlot
