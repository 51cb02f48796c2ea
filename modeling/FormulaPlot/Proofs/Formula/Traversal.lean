import FormulaPlot.Formula.Traversal

/-!
Walks and depths by the parts of a formula, and induction over those parts. A walk lists the nodes
in preorder.
-/

namespace FormulaPlot.Formula

set_option autoImplicit false

variable {label : Type}

theorem size_le_total {formula : Formula label} {formulas : List (Formula label)}
    (member : formula ∈ formulas) : sizeOf formula ≤ totalSize formulas := by
  induction formulas with
  | nil => simp at member
  | cons first rest induction =>
      simp only [totalSize]
      rcases List.mem_cons.mp member with same | behind
      · rw [same]
        omega
      · have bound := induction behind
        omega

theorem size_child_lt {formula child : Formula label} (member : child ∈ formula.children) :
    sizeOf child < sizeOf formula := by
  have within := size_le_total member
  have bound := total_size_children_lt formula
  omega

/-- What holds of a formula whenever it holds of its parts holds of every formula. -/
theorem parts_induction {property : Formula label → Prop}
    (step : ∀ formula, (∀ child ∈ formula.children, property child) → property formula)
    (formula : Formula label) : property formula := by
  apply step
  intro child member
  have smaller := size_child_lt member
  exact parts_induction step child
termination_by sizeOf formula

theorem walk_from_append (first second : List (Formula label)) :
    walkFrom (first ++ second) = walkFrom first ++ walkFrom second := by
  induction first using walkFrom.induct with
  | case1 => simp [walkFrom]
  | case2 formula rest induction =>
      rw [List.cons_append, walkFrom, walkFrom, ← List.append_assoc, induction]
      rfl

theorem walk_from_eq (pending : List (Formula label)) :
    walkFrom pending = pending.flatMap walk := by
  induction pending with
  | nil => simp [walkFrom]
  | cons formula rest induction =>
      rw [← List.singleton_append, walk_from_append, induction]
      rfl

theorem walk_eq (formula : Formula label) :
    formula.walk = formula :: formula.children.flatMap walk := by
  unfold walk
  rw [walkFrom, List.append_nil, walk_from_eq]
  rfl

mutual

/-- A node, then the nodes of its parts. -/
def preorder : Formula label → List (Formula label)
  | constant place value lexeme => [constant place value lexeme]
  | symbol place name => [symbol place name]
  | group place inner => group place inner :: inner.preorder
  | unary place operator operand => unary place operator operand :: operand.preorder
  | binary place operator left right =>
      binary place operator left right :: (left.preorder ++ right.preorder)
  | call place name arguments => call place name arguments :: preorderAll arguments
  | assignment place target value =>
      assignment place target value :: (target.preorder ++ value.preorder)
  | definition place name parameters body =>
      definition place name parameters body :: body.preorder
  | index place target indices =>
      index place target indices :: (target.preorder ++ preorderAll indices)
  | member place target name => member place target name :: target.preorder
  | range place first last => range place first last :: (first.preorder ++ last.preorder)
  | steppedRange place first last step =>
      steppedRange place first last step ::
        (first.preorder ++ (last.preorder ++ step.preorder))
  | array place elements => array place elements :: preorderAll elements
  | object place entries => object place entries :: preorderEntries entries
  | block place statements => block place statements :: preorderAll statements

def preorderAll : List (Formula label) → List (Formula label)
  | [] => []
  | formula :: rest => formula.preorder ++ preorderAll rest

def preorderEntries : List (String × Formula label) → List (Formula label)
  | [] => []
  | (_, formula) :: rest => formula.preorder ++ preorderEntries rest

end

theorem preorder_all_eq (formulas : List (Formula label)) :
    preorderAll formulas = formulas.flatMap preorder := by
  induction formulas with
  | nil => rfl
  | cons formula rest induction => rw [preorderAll, induction, List.flatMap_cons]

theorem preorder_entries_eq (entries : List (String × Formula label)) :
    preorderEntries entries = (entries.map Prod.snd).flatMap preorder := by
  induction entries with
  | nil => rfl
  | cons entry rest induction =>
      obtain ⟨key, formula⟩ := entry
      rw [preorderEntries, induction, List.map_cons, List.flatMap_cons]

theorem preorder_eq (formula : Formula label) :
    formula.preorder = formula :: formula.children.flatMap preorder := by
  cases formula <;> simp [preorder, children, preorder_all_eq, preorder_entries_eq]

/-- The stack of pending nodes follows the recursion. -/
theorem walk_eq_preorder (formula : Formula label) : formula.walk = formula.preorder := by
  induction formula using parts_induction with
  | step formula induction =>
      rw [walk_eq, preorder_eq, List.flatMap_def, List.flatMap_def,
        List.map_congr_left induction]

theorem mem_walk_iff {formula node : Formula label} :
    node ∈ formula.walk ↔ node = formula ∨ ∃ child ∈ formula.children, node ∈ child.walk := by
  rw [walk_eq, List.mem_cons, List.mem_flatMap]

theorem mem_walk_self (formula : Formula label) : formula ∈ formula.walk :=
  mem_walk_iff.mpr (.inl rfl)

theorem walk_child {formula child : Formula label} (member : child ∈ formula.children) :
    child.walk ⊆ formula.walk := fun _ deeper => mem_walk_iff.mpr (.inr ⟨child, member, deeper⟩)

theorem walk_of_mem {formula node : Formula label} (member : node ∈ formula.walk) :
    node.walk ⊆ formula.walk := by
  induction formula using parts_induction with
  | step formula induction =>
      rcases mem_walk_iff.mp member with rfl | ⟨child, isChild, deeper⟩
      · exact List.Subset.refl _
      · exact List.Subset.trans (induction child isChild deeper) (walk_child isChild)

theorem depth_eq (formula : Formula label) :
    formula.depth = depthFrom 1 (formula.children.reverse.map fun child => (child, 2)) := by
  rw [depth, depthFrom, List.append_nil]
  rfl

theorem forall_levels (formulas : List (Formula label)) (level limit : Nat) :
    (∀ entry ∈ formulas.reverse.map (fun child => (child, level)),
      entry.2 + entry.1.depth ≤ limit) ↔ ∀ child ∈ formulas, level + child.depth ≤ limit := by
  simp

theorem total_size_levelled (formulas : List (Formula label)) (level : Nat) :
    totalSize ((formulas.reverse.map fun child => (child, level)).map Prod.fst) =
      totalSize formulas := by
  simp only [List.map_map, Function.comp_def, List.map_id', total_size_reverse]

/-- A bound on the depth of all pending formulas, each counted from its own level. -/
theorem depth_from_le_iff (pending : List (Formula label × Nat)) (deepest bound : Nat) :
    depthFrom deepest pending ≤ bound ↔
      deepest ≤ bound ∧ ∀ entry ∈ pending, entry.2 + entry.1.depth ≤ bound + 1 := by
  cases pending with
  | nil => simp [depthFrom]
  | cons entry rest =>
      obtain ⟨formula, level⟩ := entry
      have own := fun limit => depth_from_le_iff
        (formula.children.reverse.map fun child => (child, 2)) 1 limit
      have all := depth_from_le_iff
        (formula.children.reverse.map (fun child => (child, level + 1)) ++ rest)
        (max deepest level) bound
      simp only [← depth_eq, forall_levels] at own
      rw [depthFrom, all, List.forall_mem_cons, List.forall_mem_append, forall_levels]
      constructor
      · rintro ⟨reached, below, others⟩
        have within := (own (bound + 1 - level)).mpr
          ⟨by omega, fun child member => by have deep := below child member; omega⟩
        exact ⟨by omega, by simp only; omega, others⟩
      · rintro ⟨reached, within, others⟩
        simp only at within
        have parts := (own (bound + 1 - level)).mp (by omega)
        exact ⟨by omega, fun child member => by have deep := parts.2 child member; omega, others⟩
termination_by totalSize (pending.map Prod.fst)
decreasing_by
  all_goals
    have smaller := total_size_children_lt formula
    simp only [List.map_append, List.map_cons, total_size_append, total_size_levelled, totalSize]
    omega

theorem depth_le_iff (formula : Formula label) (bound : Nat) :
    formula.depth ≤ bound ↔ 1 ≤ bound ∧ ∀ child ∈ formula.children, child.depth + 1 ≤ bound := by
  rw [depth_eq, depth_from_le_iff, forall_levels]
  constructor
  · rintro ⟨positive, below⟩
    exact ⟨positive, fun child member => by have deep := below child member; omega⟩
  · rintro ⟨positive, below⟩
    exact ⟨positive, fun child member => by have deep := below child member; omega⟩

theorem depth_of_mem_walk {formula node : Formula label} (member : node ∈ formula.walk) :
    node.depth ≤ formula.depth := by
  induction formula using parts_induction with
  | step formula induction =>
      rcases mem_walk_iff.mp member with rfl | ⟨child, isChild, deeper⟩
      · exact Nat.le_refl _
      · have within := induction child isChild deeper
        have below := ((depth_le_iff formula _).mp (Nat.le_refl _)).2 child isChild
        omega

theorem depth_eq_of_bounds {formula : Formula label} {depth : Nat}
    (bounds : ∀ bound, formula.depth ≤ bound ↔ depth ≤ bound) : formula.depth = depth :=
  Nat.le_antisymm ((bounds depth).mpr (Nat.le_refl _)) ((bounds formula.depth).mp (Nat.le_refl _))

theorem depth_leaf {formula : Formula label} (leaf : formula.children = []) :
    formula.depth = 1 := by
  apply depth_eq_of_bounds
  intro bound
  rw [depth_le_iff, leaf]
  exact and_iff_left fun child member => absurd member List.not_mem_nil

theorem depth_group (place : label) (inner : Formula label) :
    (group place inner).depth = inner.depth + 1 := by
  apply depth_eq_of_bounds
  intro bound
  rw [depth_le_iff]
  simp only [children, List.forall_mem_singleton]
  omega

theorem depth_unary (place : label) (operator : TokenKind) (operand : Formula label) :
    (unary place operator operand).depth = operand.depth + 1 := by
  apply depth_eq_of_bounds
  intro bound
  rw [depth_le_iff]
  simp only [children, List.forall_mem_singleton]
  omega

theorem depth_binary (place : label) (operator : TokenKind) (left right : Formula label) :
    (binary place operator left right).depth = max left.depth right.depth + 1 := by
  apply depth_eq_of_bounds
  intro bound
  rw [depth_le_iff]
  rw [children, List.forall_mem_cons, List.forall_mem_singleton]
  omega

end FormulaPlot.Formula
