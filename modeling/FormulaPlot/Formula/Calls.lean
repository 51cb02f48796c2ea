import FormulaPlot.Formula.Reading

/-!
Formulas from tokens, as far as the stack reaches. The functions that read assignments, ranges,
operators, signs, powers, suffixes, arguments, lists, primaries and objects call each other, and
each call stays on the stack until it returns. The loops over operators, suffixes, items and
properties belong to the calls that run them. What a reading does not come to takes no calls.
-/

namespace FormulaPlot.Formula

set_option autoImplicit false

def greatestDepth : Nat := 256

/-- The nested calls that the stack has room for, those around the reading set aside. -/
def mostCalls : Nat := 988

/-- The calls behind what has been read, if it could be. -/
def callsBehind {α : Type} {bound : Nat} (reading : Except SyntaxFault (Taken α bound))
    (calls : α → (rest : List Token) → rest.length < bound → Nat) : Nat :=
  match reading with
  | .error _ => 0
  | .ok ⟨value, rest, within⟩ => calls value rest within

mutual

/-- How many calls are nested in each other, the first one included. -/
def assignmentCalls (finish : Span) (room : Nat) (tokens : List Token) : Nat :=
  1 + max (rangeCalls finish room tokens)
    (callsBehind (readRange finish room tokens) fun
      | _, [], _ => 0
      | _, sign :: rest, _ =>
          if sign.kind = .assign then
            match room with
            | 0 => 0
            | room + 1 => assignmentCalls finish room rest
          else 0)
termination_by 16 * tokens.length + 8
decreasing_by
  all_goals (try simp only [List.length_cons] at *); omega

def rangeCalls (finish : Span) (room : Nat) (tokens : List Token) : Nat :=
  1 + max (binaryCalls finish room 0 tokens)
    (callsBehind (readBinary finish room 0 tokens) fun
      | _, [], _ => 0
      | _, colon :: rest, _ =>
          if colon.kind = .colon then
            max (binaryCalls finish room 0 rest)
              (callsBehind (readBinary finish room 0 rest) fun
                | _, [], _ => 0
                | _, next :: behind, _ =>
                    if next.kind = .colon then binaryCalls finish room 0 behind else 0)
          else 0)
termination_by 16 * tokens.length + 7
decreasing_by
  all_goals (try simp only [List.length_cons] at *); omega

def binaryCalls (finish : Span) (room least : Nat) (tokens : List Token) : Nat :=
  1 + max (unaryCalls finish room tokens)
    (callsBehind (readUnary finish room tokens) fun _ rest _ =>
      operatorsCalls finish room least rest)
termination_by 16 * tokens.length + 6
decreasing_by
  all_goals omega

def operatorsCalls (finish : Span) (room least : Nat) (tokens : List Token) : Nat :=
  match tokens with
  | [] => 0
  | next :: rest =>
      match precedence? next.kind with
      | none =>
          if startsFactor next.kind && decide (least ≤ productPrecedence) then
            max (powerCalls finish room (next :: rest))
              (callsBehind (readPower finish room (next :: rest)) fun _ behind _ =>
                operatorsCalls finish room least behind)
          else 0
      | some precedence =>
          if precedence < least then 0
          else
            max (binaryCalls finish room (precedence + 1) rest)
              (callsBehind (readBinary finish room (precedence + 1) rest) fun _ behind _ =>
                operatorsCalls finish room least behind)
termination_by 16 * tokens.length + 5
decreasing_by
  all_goals (try simp only [List.length_cons] at *); omega

def unaryCalls (finish : Span) (room : Nat) (tokens : List Token) : Nat :=
  match room with
  | 0 => 1
  | room + 1 =>
      match tokens with
      | [] => 1 + powerCalls finish room []
      | sign :: rest =>
          if sign.kind.isSign then 1 + unaryCalls finish room rest
          else 1 + powerCalls finish room (sign :: rest)
termination_by 16 * tokens.length + 5
decreasing_by
  all_goals (try simp only [List.length_cons] at *); omega

def powerCalls (finish : Span) (room : Nat) (tokens : List Token) : Nat :=
  1 + max (postfixCalls finish room tokens)
    (callsBehind (readPostfix finish room tokens) fun
      | _, [], _ => 0
      | _, sign :: rest, _ =>
          if sign.kind.isPower then unaryCalls finish room rest else 0)
termination_by 16 * tokens.length + 4
decreasing_by
  all_goals (try simp only [List.length_cons] at *); omega

def postfixCalls (finish : Span) (room : Nat) (tokens : List Token) : Nat :=
  1 + max (primaryCalls finish room tokens)
    (callsBehind (readPrimary finish room tokens) fun formula rest _ =>
      suffixesCalls finish room formula.isSymbol rest)
termination_by 16 * tokens.length + 3
decreasing_by
  all_goals omega

/-- Arguments are read by a call of their own, which calls the one that reads the list. -/
def suffixesCalls (finish : Span) (room : Nat) (named : Bool) (tokens : List Token) : Nat :=
  match tokens with
  | [] => 0
  | next :: rest =>
      match named, next.kind with
      | true, .leftParenthesis =>
          max (1 + itemsCalls finish room .rightParenthesis rest)
            (callsBehind (readItems finish room .rightParenthesis "')'" rest)
              fun _ behind _ => suffixesCalls finish room false behind)
      | _, .leftBracket =>
          max (itemsCalls finish room .rightBracket rest)
            (callsBehind (readItems finish room .rightBracket "']'" rest)
              fun _ behind _ => suffixesCalls finish room false behind)
      | _, .dot =>
          callsBehind (expect finish .identifier "identifier" rest) fun _ behind _ =>
            suffixesCalls finish room false behind
      | _, _ => 0
termination_by 16 * tokens.length
decreasing_by
  all_goals (try simp only [List.length_cons] at *); omega

def itemsCalls (finish : Span) (room : Nat) (closing : TokenKind) (tokens : List Token) : Nat :=
  match closedBy? closing tokens with
  | some _ => 1
  | none =>
      1 + max (rangeCalls finish room tokens)
        (callsBehind (readRange finish room tokens) fun _ behind _ =>
          moreItemsCalls finish room behind)
termination_by 16 * tokens.length + 9
decreasing_by
  all_goals omega

def moreItemsCalls (finish : Span) (room : Nat) (tokens : List Token) : Nat :=
  match tokens with
  | [] => 0
  | next :: rest =>
      if next.kind = .comma then
        max (rangeCalls finish room rest)
          (callsBehind (readRange finish room rest) fun _ behind _ =>
            moreItemsCalls finish room behind)
      else 0
termination_by 16 * tokens.length
decreasing_by
  all_goals (try simp only [List.length_cons] at *); omega

def primaryCalls (finish : Span) (room : Nat) (tokens : List Token) : Nat :=
  match tokens with
  | [] => 1
  | next :: rest =>
      match next.kind with
      | .leftParenthesis => 1 + assignmentCalls finish room rest
      | .leftBracket => 1 + itemsCalls finish room .rightBracket rest
      | .leftBrace =>
          match closedBy? .rightBrace rest with
          | some _ => 2
          | none => 2 + entriesCalls finish room rest
      | _ => 1
termination_by 16 * tokens.length + 2
decreasing_by
  all_goals (try simp only [List.length_cons] at *); omega

def entriesCalls (finish : Span) (room : Nat) (tokens : List Token) : Nat :=
  callsBehind (expect finish .identifier "property name" tokens) fun _ afterKey _ =>
    callsBehind (expect finish .colon "':'" afterKey) fun _ afterColon _ =>
      max (binaryCalls finish room 0 afterColon)
        (callsBehind (readBinary finish room 0 afterColon) fun
          | _, [], _ => 0
          | _, next :: behind, _ =>
              if next.kind = .comma then entriesCalls finish room behind else 0)
termination_by 16 * tokens.length
decreasing_by
  all_goals (try simp only [List.length_cons] at *); omega

end

def statementsCalls (finish : Span) (tokens : List Token) : Nat :=
  match tokens with
  | [] => 0
  | next :: rest =>
      if next.kind.isSeparator then
        if (rest.dropWhile fun token => token.kind.isSeparator).isEmpty then 0
        else
          max
            (assignmentCalls finish mostNested
              (rest.dropWhile fun token => token.kind.isSeparator))
            (callsBehind
              (readAssignment finish mostNested
                (rest.dropWhile fun token => token.kind.isSeparator))
              fun _ behind _ => statementsCalls finish behind)
      else 0
termination_by tokens.length
decreasing_by
  have bound := (List.dropWhile_suffix (l := rest) fun token => token.kind.isSeparator).length_le
  simp only [List.length_cons]
  omega

def bodyCalls (finish : Span) (tokens : List Token) : Nat :=
  max
    (assignmentCalls finish mostNested (tokens.dropWhile fun token => token.kind.isSeparator))
    (callsBehind
      (readAssignment finish mostNested (tokens.dropWhile fun token => token.kind.isSeparator))
      fun _ behind _ => statementsCalls finish behind)

/-- The depth of a formula is only looked at when the formula has been read. -/
def ofTokens (tokens : List Token) : Except SyntaxFault (Formula Span) :=
  let body := tokens.takeWhile fun token => token.kind != .endOfText
  let finish := spanAt ⟨.start, .start⟩ (tokens.drop body.length)
  if mostCalls < bodyCalls finish body then .error .exhausted
  else
    match readBody finish body with
    | .error fault => .error fault
    | .ok formula =>
        if greatestDepth < formula.depth then .error (.tooDeep formula.place) else .ok formula

end FormulaPlot.Formula
