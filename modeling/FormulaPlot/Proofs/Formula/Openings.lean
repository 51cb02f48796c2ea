import FormulaPlot.Proofs.Formula.Completeness

/-!
How deep the tokens of a text are nested, read off from left to right. A bracket encloses what
stands in front of its partner, a sign its operand, a power sign its exponent, and the sign of an
assignment the value behind it. What a derivation needs of the room for nesting can be told from
these openings alone: one level for each opening and one for the operand in it, and none for the
factor behind a product without a sign.
-/

namespace FormulaPlot.Grammar

open FormulaPlot.Formula

set_option autoImplicit false

/-- What a token is enclosed in: openings, and factors that follow another one without a sign. -/
structure Enclosure where
  openings : Nat
  factors : Nat
  deriving DecidableEq

namespace Enclosure

def nothing : Enclosure := ⟨0, 0⟩

def opened (enclosure : Enclosure) : Enclosure :=
  { enclosure with openings := enclosure.openings + 1 }

def multiplied (enclosure : Enclosure) : Enclosure :=
  { enclosure with factors := enclosure.factors + 1 }

/-- The levels of nesting around an operand. -/
def level (enclosure : Enclosure) : Int := enclosure.openings - enclosure.factors

@[simp] theorem level_nothing : nothing.level = 0 := rfl

@[simp] theorem level_opened (enclosure : Enclosure) :
    enclosure.opened.level = enclosure.level + 1 := by
  simp only [level, opened]
  omega

@[simp] theorem level_multiplied (enclosure : Enclosure) :
    enclosure.multiplied.level = enclosure.level - 1 := by
  simp only [level, multiplied]
  omega

end Enclosure

/-- What stands in front of a token. An operand starts behind an operator or an opening. -/
inductive Spot where
  | start
  | name
  | operand
  | dot
  deriving DecidableEq

/-- What is left open between two tokens: around the operators of a statement, around the operand
that is being read, and both for every open bracket further out. -/
structure Cursor where
  outer : List (Enclosure × Enclosure)
  statement : Enclosure
  operand : Enclosure
  spot : Spot

namespace Cursor

def start : Cursor := ⟨[], .nothing, .nothing, .start⟩

/-- Behind an operator, a comma or a colon, where all signs and exponents have ended. -/
def next (cursor : Cursor) : Cursor := { cursor with operand := cursor.statement, spot := .start }

/-- Behind a sign or a power sign. -/
def deeper (cursor : Cursor) : Cursor :=
  { cursor with operand := cursor.operand.opened, spot := .start }

/-- In front of a factor that follows another one without a sign. -/
def factor (cursor : Cursor) : Cursor :=
  { cursor with operand := cursor.statement.multiplied, spot := .start }

/-- Behind the sign of an assignment. -/
def assigned (cursor : Cursor) : Cursor :=
  { cursor with
    statement := cursor.statement.opened
    operand := cursor.statement.opened
    spot := .start }

def inside (cursor : Cursor) : Cursor :=
  ⟨(cursor.statement, cursor.operand) :: cursor.outer, cursor.operand.opened,
    cursor.operand.opened, .start⟩

def outside (cursor : Cursor) : Cursor :=
  match cursor.outer with
  | [] => cursor
  | (statement, operand) :: outer => ⟨outer, statement, operand, .operand⟩

/-- Whether the next token is a factor behind another one. A parenthesis behind a name is a
call. -/
def meetsFactor (cursor : Cursor) (kind : TokenKind) : Bool :=
  startsFactor kind &&
    (cursor.spot == .operand || (cursor.spot == .name && kind != .leftParenthesis))

/-- What a token inside an operand or between operands is enclosed in, and what is open behind
it. -/
def pass (cursor : Cursor) : TokenKind → Enclosure × Cursor
  | .number => (cursor.operand, { cursor with spot := .operand })
  | .identifier =>
      (cursor.operand, { cursor with spot := if cursor.spot = .dot then .operand else .name })
  | .dot => (cursor.operand, { cursor with spot := .dot })
  | .leftParenthesis | .leftBracket | .leftBrace => (cursor.operand, cursor.inside)
  | .rightParenthesis | .rightBracket | .rightBrace => (cursor.outside.operand, cursor.outside)
  | .caret | .doubleStar => (cursor.operand, cursor.deeper)
  | .plus | .minus =>
      if cursor.spot = .start then (cursor.operand, cursor.deeper)
      else (cursor.statement, cursor.next)
  | .assign => (cursor.statement, cursor.assigned)
  | .semicolon | .newline => (.nothing, .start)
  | _ => (cursor.statement, cursor.next)

def step (cursor : Cursor) (kind : TokenKind) : Enclosure × Cursor :=
  if cursor.meetsFactor kind then cursor.factor.pass kind else cursor.pass kind

def past (cursor : Cursor) (tokens : List Token) : Cursor :=
  tokens.foldl (fun cursor token => (cursor.step token.kind).2) cursor

/-- What each of some tokens is enclosed in. -/
def enclosures (cursor : Cursor) : List Token → List Enclosure
  | [] => []
  | token :: rest => (cursor.step token.kind).1 :: (cursor.step token.kind).2.enclosures rest

/-- No token is enclosed in more than a bound, by some measure. -/
def Within (cursor : Cursor) (measure : Enclosure → Int) (bound : Int) (tokens : List Token) :
    Prop := ∀ enclosure ∈ cursor.enclosures tokens, measure enclosure ≤ bound

section Passing

variable (cursor : Cursor) (measure : Enclosure → Int) (bound : Int)

@[simp] theorem past_nil : cursor.past [] = cursor := rfl

@[simp] theorem past_cons (token : Token) (rest : List Token) :
    cursor.past (token :: rest) = (cursor.step token.kind).2.past rest := rfl

@[simp] theorem past_append (head tail : List Token) :
    cursor.past (head ++ tail) = (cursor.past head).past tail := List.foldl_append

theorem enclosures_append (head tail : List Token) :
    cursor.enclosures (head ++ tail) =
      cursor.enclosures head ++ (cursor.past head).enclosures tail := by
  induction head generalizing cursor with
  | nil => rfl
  | cons token rest induction =>
      rw [List.cons_append, enclosures, enclosures, induction, past_cons, List.cons_append]

@[simp] theorem within_nil : cursor.Within measure bound [] :=
  fun _ member => absurd member List.not_mem_nil

@[simp] theorem within_cons (token : Token) (rest : List Token) :
    cursor.Within measure bound (token :: rest) ↔
      measure (cursor.step token.kind).1 ≤ bound ∧
        (cursor.step token.kind).2.Within measure bound rest :=
  List.forall_mem_cons

@[simp] theorem within_append (head tail : List Token) :
    cursor.Within measure bound (head ++ tail) ↔
      cursor.Within measure bound head ∧ (cursor.past head).Within measure bound tail := by
  unfold Within
  rw [enclosures_append, List.forall_mem_append]

end Passing

/-- A bracket and one that closes it. -/
structure Brackets (opening closing : Token) : Prop where
  opens : opening.kind.opens = true
  closes : closing.kind.closes = true

theorem Brackets.of_kinds {opening closing : Token} {first last : TokenKind}
    (opens : opening.kind = first) (closes : closing.kind = last)
    (pair : first.opens = true ∧ last.closes = true) : Brackets opening closing := by
  rw [← opens, ← closes] at pair
  exact ⟨pair.1, pair.2⟩

/-- Whether an operand of a statement starts here, with no sign in front of it. -/
structure Fresh (cursor : Cursor) : Prop where
  spot : cursor.spot = .start
  level : cursor.operand = cursor.statement

theorem fresh_start : start.Fresh := ⟨rfl, rfl⟩

theorem fresh_inside (cursor : Cursor) : cursor.inside.Fresh := ⟨rfl, rfl⟩

theorem fresh_assigned (cursor : Cursor) : cursor.assigned.Fresh := ⟨rfl, rfl⟩

/-- The same brackets are open, around the same operators. -/
def Beside (cursor other : Cursor) : Prop :=
  other.outer = cursor.outer ∧ other.statement = cursor.statement

/-- What a token behind a formula finds in front of it. -/
def spotBehind (formula : Formula Span) : Spot :=
  if formula.endsInName = true then .name else .operand

/-- Behind a formula whose operands start at a cursor. -/
structure Behind (cursor : Cursor) (formula : Formula Span) (other : Cursor) : Prop where
  beside : cursor.Beside other
  spot : other.spot = spotBehind formula

section Steps

variable {cursor other : Cursor} {kind : TokenKind} {formula : Formula Span}

theorem Beside.next (beside : cursor.Beside other) (fresh : cursor.Fresh) :
    other.next = cursor := by
  obtain ⟨outer, statement, operand, spot⟩ := cursor
  obtain ⟨rfl, rfl⟩ := beside
  cases fresh.spot
  cases fresh.level
  rfl

theorem Beside.factor (beside : cursor.Beside other) : other.factor = cursor.factor := by
  obtain ⟨outer, statement, operand, spot⟩ := cursor
  obtain ⟨rfl, rfl⟩ := beside
  rfl

theorem Beside.assigned (beside : cursor.Beside other) : other.assigned = cursor.assigned := by
  obtain ⟨outer, statement, operand, spot⟩ := cursor
  obtain ⟨rfl, rfl⟩ := beside
  rfl

theorem outside_of_outer (same : other.outer = cursor.inside.outer) :
    other.outside = { cursor with spot := .operand } := by
  rw [outside, same]
  rfl

theorem spot_behind_ne_start (formula : Formula Span) : spotBehind formula ≠ .start := by
  unfold spotBehind
  split <;> decide

theorem meets_factor_of_start (starts : cursor.spot = .start) (kind : TokenKind) :
    cursor.meetsFactor kind = false := by
  simp [meetsFactor, starts]

theorem step_plain (plain : cursor.meetsFactor kind = false) :
    cursor.step kind = cursor.pass kind := by
  rw [step, plain]
  rfl

theorem step_of_start (starts : cursor.spot = .start) : cursor.step kind = cursor.pass kind :=
  step_plain (meets_factor_of_start starts kind)

/-- A factor behind another one is passed like the start of an operand. -/
theorem step_factor (spot : cursor.spot = spotBehind formula) (isFactor : startsFactor kind = true)
    (apart : ¬(kind = .leftParenthesis ∧ formula.endsInName = true)) :
    cursor.step kind = cursor.factor.step kind := by
  have meets : cursor.meetsFactor kind = true := by
    unfold spotBehind at spot
    split at spot <;> simp_all [meetsFactor]
  have starts : cursor.factor.spot = .start := rfl
  rw [step_of_start starts, step, if_pos meets]

theorem step_number (starts : cursor.spot = .start) (isNumber : kind = .number) :
    cursor.step kind = (cursor.operand, { cursor with spot := .operand }) := by
  rw [step_of_start starts, isNumber]
  rfl

theorem step_name (starts : cursor.spot = .start) (isName : kind = .identifier) :
    cursor.step kind = (cursor.operand, { cursor with spot := .name }) := by
  rw [step_of_start starts, isName, pass, starts]
  rfl

theorem step_dot (isDot : kind = .dot) :
    cursor.step kind = (cursor.operand, { cursor with spot := .dot }) := by
  rw [isDot]
  rfl

theorem step_member (behind : cursor.spot = .dot) (isName : kind = .identifier) :
    cursor.step kind = (cursor.operand, { cursor with spot := .operand }) := by
  have plain : cursor.meetsFactor kind = false := by simp [meetsFactor, behind]
  rw [step_plain plain, isName, pass, behind]
  rfl

theorem step_opens (plain : cursor.meetsFactor kind = false) (opens : kind.opens = true) :
    cursor.step kind = (cursor.operand, cursor.inside) := by
  rw [step_plain plain]
  cases kind <;> first | rfl | contradiction

theorem step_closes (closes : kind.closes = true) :
    cursor.step kind = (cursor.outside.operand, cursor.outside) := by
  cases kind <;> first | rfl | contradiction

theorem step_sign (starts : cursor.spot = .start) (isSign : kind.isSign = true) :
    cursor.step kind = (cursor.operand, cursor.deeper) := by
  rw [step_of_start starts]
  cases kind <;> first | contradiction | exact if_pos starts

theorem step_power (isPower : kind.isPower = true) :
    cursor.step kind = (cursor.operand, cursor.deeper) := by
  cases kind <;> first | rfl | contradiction

theorem step_operator {precedence : Nat} (spot : cursor.spot = spotBehind formula)
    (found : precedence? kind = some precedence) :
    cursor.step kind = (cursor.statement, cursor.next) := by
  have ended := spot_behind_ne_start formula
  rw [← spot] at ended
  cases kind <;> first | rfl | contradiction | exact if_neg ended

theorem step_colon (isColon : kind = .colon) :
    cursor.step kind = (cursor.statement, cursor.next) := by
  rw [isColon]
  rfl

theorem step_comma (isComma : kind = .comma) :
    cursor.step kind = (cursor.statement, cursor.next) := by
  rw [isComma]
  rfl

theorem step_assign (isAssign : kind = .assign) :
    cursor.step kind = (cursor.statement, cursor.assigned) := by
  rw [isAssign]
  rfl

theorem step_separator (separates : kind.isSeparator = true) :
    cursor.step kind = (.nothing, .start) := by
  cases kind <;> first | rfl | contradiction

/-- The first token of an operand is enclosed in what the operand is. -/
theorem step_first (starts : cursor.spot = .start)
    (isFirst : (startsPrimary kind || kind.isSign) = true) :
    (cursor.step kind).1 = cursor.operand := by
  rw [step_of_start starts]
  cases kind <;> first | rfl | contradiction | simp [pass, starts]

/-- Behind a pair of brackets everything is open that was open in front of them. -/
theorem past_bracketed {opening closing : Token} {tokens : List Token}
    (plain : cursor.meetsFactor opening.kind = false) (brackets : Brackets opening closing)
    (same : (cursor.inside.past tokens).outer = cursor.inside.outer) :
    cursor.past (opening :: (tokens ++ [closing])) = { cursor with spot := .operand } := by
  rw [past_cons, step_opens plain brackets.opens, past_append, past_cons,
    step_closes brackets.closes, past_nil, outside_of_outer same]

theorem within_bracketed {opening closing : Token} {tokens : List Token}
    {measure : Enclosure → Int} {bound : Int}
    (plain : cursor.meetsFactor opening.kind = false) (brackets : Brackets opening closing)
    (same : (cursor.inside.past tokens).outer = cursor.inside.outer) :
    cursor.Within measure bound (opening :: (tokens ++ [closing])) ↔
      measure cursor.operand ≤ bound ∧ cursor.inside.Within measure bound tokens := by
  rw [within_cons, step_opens plain brackets.opens, within_append, within_cons,
    step_closes brackets.closes, outside_of_outer same]
  exact ⟨fun ⟨first, inner, _⟩ => ⟨first, inner⟩,
    fun ⟨first, inner⟩ => ⟨first, inner, first, within_nil _ _ _⟩⟩

/-- The key of a property and the colon behind it leave everything as it is. -/
theorem step_key {key colon : Token} (fresh : cursor.Fresh) (isName : key.kind = .identifier)
    (isColon : colon.kind = .colon) :
    (cursor.step key.kind).1 = cursor.operand ∧
      (cursor.step key.kind).2.step colon.kind = (cursor.operand, cursor) := by
  have back : ({ cursor with spot := .name } : Cursor).next = cursor :=
    Beside.next ⟨rfl, rfl⟩ fresh
  rw [step_name fresh.spot isName, step_colon isColon, back, fresh.level]
  exact ⟨rfl, rfl⟩

theorem past_key {key colon : Token} (fresh : cursor.Fresh) (isName : key.kind = .identifier)
    (isColon : colon.kind = .colon) (tokens : List Token) :
    cursor.past (key :: colon :: tokens) = cursor.past tokens := by
  rw [past_cons, past_cons, (step_key fresh isName isColon).2]

theorem within_key {key colon : Token} {measure : Enclosure → Int} {bound : Int}
    (fresh : cursor.Fresh)
    (isName : key.kind = .identifier) (isColon : colon.kind = .colon) (tokens : List Token) :
    cursor.Within measure bound (key :: colon :: tokens) ↔
      measure cursor.operand ≤ bound ∧ cursor.Within measure bound tokens := by
  have ⟨first, second⟩ := step_key fresh isName isColon
  rw [within_cons, within_cons, first, second]
  exact ⟨fun ⟨key, _, value⟩ => ⟨key, value⟩, fun ⟨key, value⟩ => ⟨key, key, value⟩⟩

end Steps

end Cursor

open Cursor

mutual

theorem Statement.past {room : Nat} {tokens : List Token} {formula : Formula Span}
    {cursor : Cursor} (fresh : cursor.Fresh) :
    Statement room tokens formula → (cursor.past tokens).outer = cursor.outer
  | .range derived => (derived.past fresh).1
  | .assignment target _ isAssign value => by
      rw [past_append, past_cons, step_assign isAssign, (target.past fresh).assigned]
      exact value.past cursor.fresh_assigned
  | .definition head _ isAssign body => by
      rw [past_append, past_cons, step_assign isAssign, (head.past fresh).assigned]
      exact body.past cursor.fresh_assigned

theorem Range.past {room : Nat} {tokens : List Token} {formula : Formula Span}
    {cursor : Cursor} (fresh : cursor.Fresh) :
    Range room tokens formula → cursor.Beside (cursor.past tokens)
  | .single derived => (derived.past fresh).beside
  | .range first isColon last => by
      rw [past_append, past_cons, step_colon isColon, (first.past fresh).beside.next fresh]
      exact (last.past fresh).beside
  | .stepped first isColon step isSecond last => by
      rw [past_append, past_cons, step_colon isColon, (first.past fresh).beside.next fresh,
        past_append, past_cons, step_colon isSecond, (step.past fresh).beside.next fresh]
      exact (last.past fresh).beside

theorem Level.past {room level : Nat} {tokens : List Token} {formula : Formula Span}
    {cursor : Cursor} (fresh : cursor.Fresh) :
    Level room level tokens formula → cursor.Behind formula (cursor.past tokens)
  | .operand _ derived => derived.past fresh.spot
  | .tighter derived => derived.past fresh
  | .operation left found right => by
      have behind := left.past fresh
      have last := right.past fresh
      rw [past_append, past_cons, step_operator behind.spot found, behind.beside.next fresh]
      exact ⟨last.beside, last.spot⟩
  | .product left right isFactor apart => by
      have behind := left.past fresh
      have last : cursor.factor.Behind _ _ := right.past rfl
      rw [past_append, past_cons, step_factor behind.spot isFactor apart, behind.beside.factor]
      exact ⟨last.beside, last.spot⟩

theorem Operand.past {room : Nat} {tokens : List Token} {formula : Formula Span}
    {cursor : Cursor} (starts : cursor.spot = .start) :
    Operand room tokens formula → cursor.Behind formula (cursor.past tokens)
  | .power derived => derived.past starts
  | .signed isSign operand => by
      have last : cursor.deeper.Behind _ _ := operand.past rfl
      rw [past_cons, step_sign starts isSign]
      exact ⟨last.beside, last.spot⟩

theorem Power.past {room : Nat} {tokens : List Token} {formula : Formula Span}
    {cursor : Cursor} (starts : cursor.spot = .start) :
    Power room tokens formula → cursor.Behind formula (cursor.past tokens)
  | .base derived => by
      rw [derived.past starts]
      exact ⟨⟨rfl, rfl⟩, rfl⟩
  | .raised base isPower exponent => by
      have last : cursor.deeper.Behind _ _ := exponent.past rfl
      rw [past_append, base.past starts, past_cons, step_power isPower]
      exact ⟨last.beside, last.spot⟩

theorem Postfix.past {room : Nat} {tokens : List Token} {formula : Formula Span}
    {cursor : Cursor} (starts : cursor.spot = .start) :
    Postfix room tokens formula →
      cursor.past tokens = { cursor with spot := spotBehind formula }
  | .primary derived => derived.past starts
  | .call head opens items closes => by
      rw [past_append, head.past starts]
      exact past_bracketed (by rw [opens]; rfl) (.of_kinds opens closes ⟨rfl, rfl⟩)
        (items.past cursor.fresh_inside)
  | .index target opens items closes => by
      rw [past_append, target.past starts]
      exact past_bracketed (by rw [opens]; rfl) (.of_kinds opens closes ⟨rfl, rfl⟩)
        (items.past cursor.fresh_inside)
  | .member target isDot isName => by
      rw [past_append, target.past starts, past_cons, step_dot isDot, past_cons,
        step_member rfl isName]
      rfl

theorem Primary.past {room : Nat} {tokens : List Token} {formula : Formula Span}
    {cursor : Cursor} (starts : cursor.spot = .start) :
    Primary room tokens formula →
      cursor.past tokens = { cursor with spot := spotBehind formula }
  | .number isNumber => by
      rw [past_cons, step_number starts isNumber]
      rfl
  | .name isName => by
      rw [past_cons, step_name starts isName]
      rfl
  | .group opens inner closes =>
      past_bracketed (meets_factor_of_start starts _) (.of_kinds opens closes ⟨rfl, rfl⟩)
        (inner.past cursor.fresh_inside)
  | .array opens items closes =>
      past_bracketed (meets_factor_of_start starts _) (.of_kinds opens closes ⟨rfl, rfl⟩)
        (items.past cursor.fresh_inside)
  | .emptyObject opens closes => by
      rw [← List.nil_append [_]]
      exact past_bracketed (meets_factor_of_start starts _) (.of_kinds opens closes ⟨rfl, rfl⟩)
        rfl
  | .object opens entries closes =>
      past_bracketed (meets_factor_of_start starts _) (.of_kinds opens closes ⟨rfl, rfl⟩)
        (entries.past cursor.fresh_inside)

theorem Items.past {room : Nat} {tokens : List Token} {formulas : List (Formula Span)}
    {cursor : Cursor} (fresh : cursor.Fresh) :
    Items room tokens formulas → (cursor.past tokens).outer = cursor.outer
  | .none => rfl
  | .some derived => derived.past fresh

theorem Sequence.past {room : Nat} {tokens : List Token} {formulas : List (Formula Span)}
    {cursor : Cursor} (fresh : cursor.Fresh) :
    Sequence room tokens formulas → (cursor.past tokens).outer = cursor.outer
  | .last derived => (derived.past fresh).1
  | .more derived isComma others => by
      rw [past_append, past_cons, step_comma isComma, (derived.past fresh).next fresh]
      exact others.past fresh

theorem Entries.past {room : Nat} {tokens : List Token}
    {entries : List (String × Formula Span)} {cursor : Cursor} (fresh : cursor.Fresh) :
    Entries room tokens entries → (cursor.past tokens).outer = cursor.outer
  | .last isName isColon value => by
      rw [past_key fresh isName isColon]
      exact (value.past fresh).beside.1
  | .more isName isColon value isComma others => by
      rw [past_key fresh isName isColon, past_append, past_cons, step_comma isComma,
        (value.past fresh).beside.next fresh]
      exact others.past fresh

end

/-- An operand starts with the first of some tokens. -/
def StartsOperand (tokens : List Token) : Prop :=
  ∃ first rest, tokens = first :: rest ∧ (startsPrimary first.kind || first.kind.isSign) = true

theorem StartsOperand.append {head : List Token} (starts : StartsOperand head)
    (tail : List Token) : StartsOperand (head ++ tail) := by
  obtain ⟨first, rest, rfl, isFirst⟩ := starts
  exact ⟨first, rest ++ tail, rfl, isFirst⟩

theorem Power.starts_operand {room : Nat} {tokens : List Token} {formula : Formula Span}
    (derived : Power room tokens formula) : StartsOperand tokens := (Operand.power derived).starts

theorem Postfix.starts_operand {room : Nat} {tokens : List Token} {formula : Formula Span}
    (derived : Postfix room tokens formula) : StartsOperand tokens :=
  (Power.base derived).starts_operand

namespace Cursor

variable {cursor other : Cursor} {measure : Enclosure → Int} {bound wider : Int}
  {head tail tokens : List Token} {formula : Formula Span}

theorem Within.mono (within : cursor.Within measure bound tokens) (below : bound ≤ wider) :
    cursor.Within measure wider tokens :=
  fun enclosure member => Int.le_trans (within enclosure member) below

/-- Tokens that start with an operand are nested at least as deep as the operand is. -/
theorem Within.reaches (within : cursor.Within measure bound tokens) (starts : cursor.spot = .start)
    (first : StartsOperand tokens) : measure cursor.operand ≤ bound := by
  obtain ⟨first, rest, rfl, isFirst⟩ := first
  have own := ((within_cons _ _ _ _ _).mp within).1
  rwa [step_first starts isFirst] at own

theorem within_joined {between : Token} (fresh : cursor.Fresh) (first : StartsOperand head)
    (beside : cursor.Beside (cursor.past head))
    (step : (cursor.past head).step between.kind =
      ((cursor.past head).statement, (cursor.past head).next)) :
    cursor.Within measure bound (head ++ between :: tail) ↔
      cursor.Within measure bound head ∧ cursor.Within measure bound tail := by
  rw [within_append, within_cons, step, beside.next fresh, beside.2, ← fresh.level]
  exact ⟨fun ⟨left, _, right⟩ => ⟨left, right⟩,
    fun ⟨left, right⟩ => ⟨left, left.reaches fresh.spot first, right⟩⟩

theorem within_factor {first : Token} (behind : cursor.Behind formula (cursor.past head))
    (isFactor : startsFactor first.kind = true)
    (apart : ¬(first.kind = .leftParenthesis ∧ formula.endsInName = true)) :
    cursor.Within measure bound (head ++ first :: tail) ↔
      cursor.Within measure bound head ∧ cursor.factor.Within measure bound (first :: tail) := by
  rw [within_append, within_cons, step_factor behind.spot isFactor apart, behind.beside.factor,
    ← within_cons]

theorem within_assigned {sign : Token} (fresh : cursor.Fresh) (first : StartsOperand head)
    (beside : cursor.Beside (cursor.past head)) (isAssign : sign.kind = .assign) :
    cursor.Within measure bound (head ++ sign :: tail) ↔
      cursor.Within measure bound head ∧ cursor.assigned.Within measure bound tail := by
  rw [within_append, within_cons, step_assign isAssign, beside.assigned, beside.2, ← fresh.level]
  exact ⟨fun ⟨left, _, right⟩ => ⟨left, right⟩,
    fun ⟨left, right⟩ => ⟨left, left.reaches fresh.spot first, right⟩⟩

theorem within_sign {sign : Token} (starts : cursor.spot = .start)
    (isSign : sign.kind.isSign = true) :
    cursor.Within measure bound (sign :: tokens) ↔
      measure cursor.operand ≤ bound ∧ cursor.deeper.Within measure bound tokens := by
  rw [within_cons, step_sign starts isSign]

theorem within_power {room : Nat} {sign : Token} (starts : cursor.spot = .start)
    (base : Postfix room head formula) (isPower : sign.kind.isPower = true) :
    cursor.Within measure bound (head ++ sign :: tail) ↔
      cursor.Within measure bound head ∧ cursor.deeper.Within measure bound tail := by
  rw [within_append, base.past starts, within_cons, step_power isPower]
  exact ⟨fun ⟨left, _, right⟩ => ⟨left, right⟩,
    fun ⟨left, right⟩ => ⟨left, left.reaches starts base.starts_operand, right⟩⟩

/-- Brackets behind a primary, around arguments or indices. -/
theorem within_suffix {room : Nat} {opening closing : Token} {formulas : List (Formula Span)}
    (starts : cursor.spot = .start) (target : Postfix room head formula)
    (plain : ({ cursor with spot := spotBehind formula } : Cursor).meetsFactor opening.kind = false)
    (brackets : Brackets opening closing) (items : Items room tail formulas) :
    cursor.Within measure bound (head ++ opening :: (tail ++ [closing])) ↔
      cursor.Within measure bound head ∧ cursor.inside.Within measure bound tail := by
  rw [within_append, target.past starts,
    within_bracketed plain brackets (items.past cursor.fresh_inside)]
  exact ⟨fun ⟨left, _, right⟩ => ⟨left, right⟩,
    fun ⟨left, right⟩ => ⟨left, left.reaches starts target.starts_operand, right⟩⟩

theorem within_member {room : Nat} {dot name : Token} (starts : cursor.spot = .start)
    (target : Postfix room head formula) (isDot : dot.kind = .dot)
    (isName : name.kind = .identifier) :
    cursor.Within measure bound (head ++ [dot, name]) ↔ cursor.Within measure bound head := by
  rw [within_append, target.past starts, within_cons, step_dot isDot, within_cons,
    step_member rfl isName]
  refine ⟨And.left, fun left => ⟨left, ?_⟩⟩
  have reached := left.reaches starts target.starts_operand
  exact ⟨reached, reached, within_nil _ _ _⟩

theorem within_property {key colon : Token} (fresh : cursor.Fresh)
    (isName : key.kind = .identifier) (isColon : colon.kind = .colon)
    (first : StartsOperand tokens) :
    cursor.Within measure bound (key :: colon :: tokens) ↔ cursor.Within measure bound tokens := by
  rw [within_key fresh isName isColon]
  exact ⟨And.right, fun value => ⟨value.reaches fresh.spot first, value⟩⟩

end Cursor

section Separators

variable {separators tokens : List Token} {cursor : Cursor}
  {measure : Enclosure → Int} {bound : Int}

theorem Separators.past_start (all : Separators separators) :
    Cursor.start.past separators = .start := by
  induction separators with
  | nil => rfl
  | cons next rest induction =>
      have ⟨first, others⟩ := List.forall_mem_cons.mp all
      rw [past_cons, step_separator first]
      exact induction others

theorem Separators.past (all : Separators separators) (present : separators ≠ []) :
    cursor.past separators = .start := by
  cases separators with
  | nil => exact absurd rfl present
  | cons next rest =>
      have ⟨first, others⟩ := List.forall_mem_cons.mp all
      rw [past_cons, step_separator first]
      exact Separators.past_start others

theorem Separators.within (all : Separators separators) (within : measure .nothing ≤ bound) :
    cursor.Within measure bound separators := by
  induction separators generalizing cursor with
  | nil => exact within_nil _ _ _
  | cons next rest induction =>
      have ⟨first, others⟩ := List.forall_mem_cons.mp all
      rw [within_cons, step_separator first]
      exact ⟨within, induction others⟩

/-- Separators in front of a statement are nested less deep than the statement. -/
theorem Separators.within_append_iff (all : Separators separators)
    (back : cursor.past separators = .start) (first : StartsOperand tokens) :
    cursor.Within measure bound (separators ++ tokens) ↔
      Cursor.start.Within measure bound tokens := by
  rw [within_append, back]
  exact ⟨And.right, fun within => ⟨all.within (within.reaches rfl first), within⟩⟩

end Separators

/-- What each token of a text is enclosed in. -/
def nesting (tokens : List Token) : List Enclosure := Cursor.start.enclosures tokens

end FormulaPlot.Grammar
