import FormulaPlot.Proofs.Formula.Slices

/-!
Walks beside the text. The nodes of a formula are walked in the order in which they start, and the
parts of a node are listed in the order in which they are written, wherever no range has a step.
The step of a range is written in the middle and walked last.
-/

namespace FormulaPlot

set_option autoImplicit false

namespace Formula

section Holds

variable {label : Type}

/-- A formula has another one as a part of its own. -/
inductive Holds : Formula label → Formula label → Prop
  | inner {place : label} {inner : Formula label} : Holds (group place inner) inner
  | operand {place : label} {operator : TokenKind} {operand : Formula label} :
      Holds (unary place operator operand) operand
  | left {place : label} {operator : TokenKind} {left right : Formula label} :
      Holds (binary place operator left right) left
  | right {place : label} {operator : TokenKind} {left right : Formula label} :
      Holds (binary place operator left right) right
  | argument {place : label} {name : String} {arguments : List (Formula label)}
      {argument : Formula label} :
      argument ∈ arguments → Holds (call place name arguments) argument
  | target {place : label} {target value : Formula label} :
      Holds (assignment place target value) target
  | value {place : label} {target value : Formula label} :
      Holds (assignment place target value) value
  | body {place : label} {name : String} {parameters : List String} {body : Formula label} :
      Holds (definition place name parameters body) body
  | indexed {place : label} {target : Formula label} {indices : List (Formula label)} :
      Holds (index place target indices) target
  | position {place : label} {target position : Formula label} {indices : List (Formula label)} :
      position ∈ indices → Holds (index place target indices) position
  | owner {place : label} {target : Formula label} {name : String} :
      Holds (member place target name) target
  | first {place : label} {first last : Formula label} : Holds (range place first last) first
  | last {place : label} {first last : Formula label} : Holds (range place first last) last
  | steppedFirst {place : label} {first last step : Formula label} :
      Holds (steppedRange place first last step) first
  | steppedLast {place : label} {first last step : Formula label} :
      Holds (steppedRange place first last step) last
  | step {place : label} {first last step : Formula label} :
      Holds (steppedRange place first last step) step
  | element {place : label} {element : Formula label} {elements : List (Formula label)} :
      element ∈ elements → Holds (array place elements) element
  | entry {place : label} {key : String} {value : Formula label}
      {entries : List (String × Formula label)} :
      (key, value) ∈ entries → Holds (object place entries) value
  | statement {place : label} {statement : Formula label} {statements : List (Formula label)} :
      statement ∈ statements → Holds (block place statements) statement

theorem mem_children_iff (formula child : Formula label) :
    child ∈ formula.children ↔ formula.Holds child := by
  constructor
  · intro member
    cases formula with
    | constant => exact absurd member List.not_mem_nil
    | symbol => exact absurd member List.not_mem_nil
    | group place inner =>
        cases List.mem_singleton.mp member
        exact .inner
    | unary place operator operand =>
        cases List.mem_singleton.mp member
        exact .operand
    | binary place operator left right =>
        rw [children, List.mem_cons, List.mem_singleton] at member
        rcases member with rfl | rfl
        · exact .left
        · exact .right
    | call place name arguments => exact .argument member
    | assignment place target value =>
        rw [children, List.mem_cons, List.mem_singleton] at member
        rcases member with rfl | rfl
        · exact .target
        · exact .value
    | definition place name parameters body =>
        cases List.mem_singleton.mp member
        exact .body
    | index place target indices =>
        rcases List.mem_cons.mp member with rfl | among
        · exact .indexed
        · exact .position among
    | member place target name =>
        cases List.mem_singleton.mp member
        exact .owner
    | range place first last =>
        rw [children, List.mem_cons, List.mem_singleton] at member
        rcases member with rfl | rfl
        · exact .first
        · exact .last
    | steppedRange place first last step =>
        rw [children, List.mem_cons, List.mem_cons, List.mem_singleton] at member
        rcases member with rfl | rfl | rfl
        · exact .steppedFirst
        · exact .steppedLast
        · exact .step
    | array place elements => exact .element member
    | object place entries =>
        rcases List.mem_map.mp member with ⟨⟨key, value⟩, among, rfl⟩
        exact .entry among
    | block place statements => exact .statement member
  · intro holds
    cases holds with
    | argument member => exact member
    | position among => exact List.mem_cons_of_mem _ among
    | element member => exact member
    | entry among => exact List.mem_map_of_mem among
    | statement member => exact member
    | _ => simp [children]

def isStepped : Formula label → Bool
  | steppedRange .. => true
  | _ => false

theorem written_eq {formula : Formula label} (plain : formula.isStepped = false) :
    formula.written = formula.children := by
  cases formula with
  | steppedRange => contradiction
  | _ => rfl

end Holds

/-- A formula starts in front of another one, or at the same place. -/
def StartsBefore (first second : Formula Span) : Prop :=
  first.place.start.offset ≤ second.place.start.offset

/-- A node takes up some of the text, and its parts are written inside it one behind the other. -/
structure Placed (node : Formula Span) : Prop where
  present : node.place.start.offset < node.place.stop.offset
  within : ∀ child ∈ node.children, child.place.Within node.place
  ordered : node.written.Pairwise Precedes

section Placed

variable {formula node : Formula Span}

theorem parts_of_forall_mem_walk {property : Formula Span → Prop}
    (all : ∀ node ∈ formula.walk, property node) :
    property formula ∧ ∀ child ∈ formula.children, ∀ node ∈ child.walk, property node :=
  ⟨all formula (mem_walk_self formula),
    fun _ isChild node deeper => all node (walk_child isChild deeper)⟩

theorem within_of_mem_walk (placed : ∀ node ∈ formula.walk, node.Placed)
    (member : node ∈ formula.walk) : node.place.Within formula.place := by
  induction formula using parts_induction with
  | step formula induction =>
      rcases mem_walk_iff.mp member with rfl | ⟨child, isChild, deeper⟩
      · exact ⟨Nat.le_refl _, Nat.le_refl _⟩
      · have ⟨whole, parts⟩ := parts_of_forall_mem_walk placed
        have inner := induction child isChild (parts child isChild) deeper
        have outer := whole.within child isChild
        exact ⟨Nat.le_trans outer.1 inner.1, Nat.le_trans inner.2 outer.2⟩

/-- No part is listed twice, since each of them takes up text of its own. -/
theorem Placed.children_nodup (placed : node.Placed)
    (present : ∀ child ∈ node.children, child.place.start.offset < child.place.stop.offset) :
    node.children.Nodup := by
  apply (written_perm node).nodup_iff.mp
  apply placed.ordered.imp_of_mem
  rintro first second member _ precedes rfl
  have some := present first ((written_perm node).mem_iff.mp member)
  exact absurd precedes (Nat.not_le_of_lt some)

/-- A step ends in front of the end of its range. -/
theorem Placed.step_precedes {place : Span} {first last step : Formula Span}
    (placed : (steppedRange place first last step).Placed) : Precedes step last :=
  (List.pairwise_cons.mp (List.pairwise_cons.mp placed.ordered).2).1 last List.mem_cons_self

theorem Placed.children_ordered_iff (placed : node.Placed)
    (present : ∀ child ∈ node.children, child.place.start.offset < child.place.stop.offset) :
    node.children.Pairwise Precedes ↔ node.isStepped = false := by
  constructor
  · intro ordered
    cases node with
    | steppedRange place first last step =>
        have late : Precedes last step :=
          (List.pairwise_cons.mp (List.pairwise_cons.mp ordered).2).1 step List.mem_cons_self
        have early := placed.step_precedes
        have taken := present step (by simp [children])
        have other := present last (by simp [children])
        unfold Precedes at late early
        omega
    | _ => rfl
  · intro plain
    rw [← written_eq plain]
    exact placed.ordered

/-- A walk is in order if it is in order inside every part, and the node has no step. -/
theorem walk_ordered_step (placed : ∀ node ∈ formula.walk, node.Placed) :
    formula.walk.Pairwise StartsBefore ↔
      formula.isStepped = false ∧ ∀ child ∈ formula.children, child.walk.Pairwise StartsBefore := by
  have ⟨whole, parts⟩ := parts_of_forall_mem_walk placed
  rw [walk_eq, List.pairwise_cons, List.pairwise_flatMap]
  constructor
  · rintro ⟨_, inside, across⟩
    refine ⟨?_, inside⟩
    cases formula with
    | steppedRange place first last step =>
        have behind := (List.pairwise_cons.mp (List.pairwise_cons.mp across).2).1 step
          List.mem_cons_self last (mem_walk_self last) step (mem_walk_self step)
        have early := whole.step_precedes
        have taken := (parts step (by simp [children]) step (mem_walk_self step)).present
        unfold StartsBefore at behind
        unfold Precedes at early
        omega
    | _ => rfl
  · rintro ⟨plain, inside⟩
    refine ⟨?_, inside, ?_⟩
    · intro node deeper
      rcases List.mem_flatMap.mp deeper with ⟨child, isChild, member⟩
      exact (within_of_mem_walk placed (walk_child isChild member)).1
    · have ordered := whole.ordered
      rw [written_eq plain] at ordered
      apply ordered.imp_of_mem
      intro first second isFirst isSecond precedes early isEarly late isLate
      -- an early node starts before it ends, and ends before the late part starts
      have taken := (parts first isFirst early isEarly).present
      have ends := (within_of_mem_walk (parts first isFirst) isEarly).2
      have starts := (within_of_mem_walk (parts second isSecond) isLate).1
      unfold Precedes at precedes
      unfold StartsBefore
      omega

theorem walk_ordered_iff (placed : ∀ node ∈ formula.walk, node.Placed) :
    formula.walk.Pairwise StartsBefore ↔ ∀ node ∈ formula.walk, node.isStepped = false := by
  induction formula using parts_induction with
  | step formula induction =>
      have ⟨_, parts⟩ := parts_of_forall_mem_walk placed
      rw [walk_ordered_step placed]
      constructor
      · rintro ⟨plain, inside⟩ node member
        rcases mem_walk_iff.mp member with rfl | ⟨child, isChild, deeper⟩
        · exact plain
        · have below := induction child isChild (parts child isChild)
          exact below.mp (inside child isChild) node deeper
      · intro plain
        have ⟨own, others⟩ := parts_of_forall_mem_walk plain
        exact ⟨own, fun child isChild =>
          (induction child isChild (parts child isChild)).mpr (others child isChild)⟩

end Placed

end Formula

open FormulaPlot.Formula FormulaPlot.Grammar FormulaPlot.Scanning

/-- Every token but the end takes up some of the text. -/
theorem Scanning.Tiles.present {here : Location} {depth : Nat} {characters : List Char}
    {tokens : List Token} (tiles : Tiles here depth characters tokens) :
    ∀ token ∈ tokens, token.kind ≠ .endOfText →
      token.span.start.offset < token.span.stop.offset := by
  induction tiles with
  | finished => exact List.forall_mem_singleton.mpr fun other => absurd rfl other
  | gap blank tiles induction => exact induction
  | folded deep tiles induction => exact induction
  | newline tiles induction =>
      refine List.forall_mem_cons.mpr ⟨fun _ => ?_, induction⟩
      rw [Location.next_offset]
      exact Nat.lt_succ_self _
  | lexeme noGap noNewline found tiles induction =>
      refine List.forall_mem_cons.mpr ⟨fun _ => ?_, induction⟩
      rw [Location.after_offset, List.length_cons]
      exact Nat.lt_add_of_pos_right (Nat.succ_pos _)

theorem Grammar.Spans.present {tokens : List Token} {span : Span} (order : Token.InOrder tokens)
    (present : ∀ token ∈ tokens, token.span.start.offset < token.span.stop.offset)
    (spans : Spans tokens span) : span.start.offset < span.stop.offset := by
  rcases spans with ⟨first, last, isFirst, isLast, rfl⟩
  have member := List.mem_of_mem_head? isFirst
  exact Nat.lt_of_lt_of_le (present first member) (order.to_last isLast member)

theorem placed_of_read {text : String} {formula : Formula Span}
    (read : Formula.read text = .ok formula) : ∀ node ∈ formula.walk, node.Placed := by
  intro node member
  rcases tiles_of_read read with ⟨tokens, finish, tiles, inFront, derived, _⟩
  have order := tiles.in_order.sublist (List.sublist_append_left _ _)
  rcases derived.nodes_inside member with ⟨before, part, behind, rfl, found⟩
  have inner := order.sublist ((List.sublist_append_left part behind).trans
    (List.sublist_append_right before _))
  have present : ∀ token ∈ part, token.span.start.offset < token.span.stop.offset :=
    fun token inside => tiles.present token (by simp [inside]) (inFront token (by simp [inside]))
  exact ⟨found.spans.present inner present, (Spread.places inner found.spans found.spread).1,
    found.parts.ordered inner⟩

/-- What a traversal of a formula says about the text that it was read from. -/
structure FollowsText (formula : Formula Span) : Prop where
  held : ∀ node ∈ formula.walk, node.children.Nodup ∧
    ∀ child, child ∈ node.children ↔ node.Holds child
  written : ∀ node ∈ formula.walk, node.written.Perm node.children ∧
    node.written.Pairwise Precedes
  listed : ∀ node ∈ formula.walk,
    node.children.Pairwise Precedes ↔ node.isStepped = false
  walked : formula.walk.Pairwise StartsBefore ↔ ∀ node ∈ formula.walk, node.isStepped = false

/-- Every node of an accepted text lists each of its parts once. They stand in the order of the
text, and the nodes are walked in the order of the text, wherever no range has a step. -/
theorem traversal_follows_text {text : String} {formula : Formula Span}
    (read : Formula.read text = .ok formula) : FollowsText formula := by
  have placed := placed_of_read read
  have present : ∀ node ∈ formula.walk, ∀ child ∈ node.children,
      child.place.start.offset < child.place.stop.offset := by
    intro node member child isChild
    have inside := walk_of_mem member (walk_child isChild (mem_walk_self child))
    exact (placed child inside).present
  constructor
  · intro node member
    exact ⟨(placed node member).children_nodup (present node member), mem_children_iff node⟩
  · intro node member
    exact ⟨written_perm node, (placed node member).ordered⟩
  · intro node member
    exact (placed node member).children_ordered_iff (present node member)
  · exact walk_ordered_iff placed

/-- A definition with a matrix, an object and a range without a step. -/
theorem definition_follows_text :
    ∃ formula, Formula.read "f(x, t) = [2 x, -t ^ 3][1:2].a; {k: 1}" = .ok formula ∧
      FollowsText formula := by
  cases read : Formula.read "f(x, t) = [2 x, -t ^ 3][1:2].a; {k: 1}" with
  | error problem =>
      have accepted : (Formula.read "f(x, t) = [2 x, -t ^ 3][1:2].a; {k: 1}").isOk = true := by
        decide +kernel
      rw [read] at accepted
      contradiction
  | ok formula => exact ⟨formula, rfl, traversal_follows_text read⟩

/-- The step of a range is walked behind its end. -/
theorem step_walked_last :
    ∃ formula, Formula.read "1:2:10" = .ok formula ∧ ¬formula.walk.Pairwise StartsBefore ∧
      ¬formula.children.Pairwise Precedes := by
  have starts : (Formula.read "1:2:10").map (fun formula =>
      formula.walk.map fun node => node.place.start.offset) = .ok [0, 0, 4, 2] := by
    decide +kernel
  have parts : (Formula.read "1:2:10").map (fun formula =>
      formula.children.map fun node => (node.place.start.offset, node.place.stop.offset)) =
        .ok [(0, 1), (4, 6), (2, 3)] := by
    decide +kernel
  cases read : Formula.read "1:2:10" with
  | error problem =>
      rw [read] at starts
      contradiction
  | ok formula =>
      simp only [read, Except.map, Except.ok.injEq] at starts parts
      refine ⟨formula, rfl, fun walked => ?_, fun listed => ?_⟩
      · have ordered : (formula.walk.map fun node => node.place.start.offset).Pairwise (· ≤ ·) :=
          List.pairwise_map.mpr walked
        rw [starts] at ordered
        exact absurd ordered (by decide)
      · have ordered : (formula.children.map fun node =>
            (node.place.start.offset, node.place.stop.offset)).Pairwise fun first second =>
              first.2 ≤ second.1 := List.pairwise_map.mpr listed
        rw [parts] at ordered
        exact absurd ordered (by decide)

end FormulaPlot
