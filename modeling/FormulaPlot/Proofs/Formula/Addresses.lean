import FormulaPlot.Proofs.Formula.Traversal
import Mathlib.Data.List.Basic

/-!
Addresses of nodes, and the traversals as recursions over the parts of a formula. Both traversals
come to every address once. A walk goes through the parts of a node in their order, and the search
for the depth goes through them in the opposite order. In both of them a node stands in front of
everything below it.
-/

namespace FormulaPlot.Formula

set_option autoImplicit false

variable {label : Type}

/-- The node at an address. An address tells, from the root on, the number of the part to go to. -/
def node? (formula : Formula label) : List Nat → Option (Formula label)
  | [] => some formula
  | number :: rest => formula.children[number]?.bind fun child => child.node? rest

theorem node_cons_eq_some_iff {formula node : Formula label} {number : Nat} {rest : List Nat} :
    formula.node? (number :: rest) = some node ↔
      ∃ child, formula.children[number]? = some child ∧ child.node? rest = some node := by
  rw [node?, Option.bind_eq_some_iff]

/-- All nodes of a formula beside their addresses, each address once. A node stands in front of
those below it, and the parts of a node stand in an order of their numbers. -/
structure Enumerated (before : Nat → Nat → Prop) (formula : Formula label)
    (entries : List (List Nat × Formula label)) : Prop where
  complete : ∀ address node, (address, node) ∈ entries ↔ formula.node? address = some node
  once : (entries.map Prod.fst).Nodup
  ordered : entries.Pairwise fun first second => List.Lex before first.1 second.1

/-- A way through the parts of every node, each of them with its number. -/
structure Arrangement (label : Type) where
  before : Nat → Nat → Prop
  parts : Formula label → List (Formula label × Nat)
  irreflexive : ∀ number, ¬before number number
  numbered : ∀ formula part, part ∈ parts formula ↔ formula.children[part.2]? = some part.1
  ordered : ∀ formula, (parts formula).Pairwise fun first second => before first.2 second.2

namespace Arrangement

theorem zip_idx_ordered (formulas : List (Formula label)) :
    formulas.zipIdx.Pairwise fun first second => first.2 < second.2 := by
  apply List.pairwise_map.mp
  rw [List.zipIdx_map_snd]
  exact List.pairwise_lt_range' 1

def forwards : Arrangement label where
  before := (· < ·)
  parts formula := formula.children.zipIdx
  irreflexive := Nat.lt_irrefl
  numbered _ _ := List.mem_zipIdx_iff_getElem?
  ordered formula := zip_idx_ordered formula.children

def backwards : Arrangement label where
  before := (· > ·)
  parts formula := formula.children.zipIdx.reverse
  irreflexive := Nat.lt_irrefl
  numbered _ _ := List.mem_reverse.trans List.mem_zipIdx_iff_getElem?
  ordered formula := List.pairwise_reverse.mpr (zip_idx_ordered formula.children)

variable (arrangement : Arrangement label)

theorem child_of_part {formula : Formula label} {part : Formula label × Nat}
    (isPart : part ∈ arrangement.parts formula) : part.1 ∈ formula.children :=
  List.mem_of_getElem? ((arrangement.numbered formula part).mp isPart)

/-- The nodes with their addresses, a node first and then what is below its parts. -/
def entries (formula : Formula label) : List (List Nat × Formula label) :=
  ([], formula) :: (arrangement.parts formula).attach.flatMap fun part =>
    (entries part.1.1).map fun entry => (part.1.2 :: entry.1, entry.2)
termination_by sizeOf formula
decreasing_by exact size_child_lt (arrangement.child_of_part part.2)

theorem entries_eq (formula : Formula label) :
    arrangement.entries formula =
      ([], formula) :: (arrangement.parts formula).flatMap fun part =>
        (arrangement.entries part.1).map fun entry => (part.2 :: entry.1, entry.2) := by
  have parts := @List.attach_map_val _ _ (arrangement.parts formula) fun part =>
    (arrangement.entries part.1).map fun entry => (part.2 :: entry.1, entry.2)
  rw [entries, List.flatMap_def, List.flatMap_def, ← parts]

theorem map_entries_eq {result : Type} (view : List Nat × Formula label → result)
    (formula : Formula label) :
    (arrangement.entries formula).map view =
      view ([], formula) :: (arrangement.parts formula).flatMap fun part =>
        (arrangement.entries part.1).map fun entry => view (part.2 :: entry.1, entry.2) := by
  rw [entries_eq, List.map_cons, List.map_flatMap]
  simp only [List.map_map, Function.comp_def]

/-- What stands behind the root is below one of its parts. -/
theorem mem_entries_cons_iff {formula node : Formula label} {number : Nat} {rest : List Nat} :
    (number :: rest, node) ∈ arrangement.entries formula ↔
      ∃ child, formula.children[number]? = some child ∧
        (rest, node) ∈ arrangement.entries child := by
  rw [entries_eq, List.mem_cons, List.mem_flatMap]
  constructor
  · rintro (root | ⟨part, isPart, inside⟩)
    · cases root
    · obtain ⟨entry, deeper, same⟩ := List.mem_map.mp inside
      cases same
      exact ⟨part.1, (arrangement.numbered formula part).mp isPart, deeper⟩
  · rintro ⟨child, isChild, deeper⟩
    have isPart := (arrangement.numbered formula (child, number)).mpr isChild
    exact .inr ⟨(child, number), isPart, List.mem_map_of_mem deeper⟩

theorem mem_entries_iff (formula node : Formula label) (address : List Nat) :
    (address, node) ∈ arrangement.entries formula ↔ formula.node? address = some node := by
  induction address generalizing formula with
  | nil =>
      rw [entries_eq, List.mem_cons, node?]
      constructor
      · rintro (root | inside)
        · cases root
          rfl
        · obtain ⟨part, _, below⟩ := List.mem_flatMap.mp inside
          obtain ⟨entry, _, same⟩ := List.mem_map.mp below
          cases same
      · intro same
        cases same
        exact .inl rfl
  | cons number rest induction =>
      rw [mem_entries_cons_iff, node_cons_eq_some_iff]
      simp only [induction]

theorem entries_ordered (formula : Formula label) :
    (arrangement.entries formula).Pairwise fun first second =>
      List.Lex arrangement.before first.1 second.1 := by
  induction formula using parts_induction with
  | step formula induction =>
      rw [entries_eq, List.pairwise_cons, List.pairwise_flatMap]
      -- the root against all others, two nodes below one part, two nodes below different parts
      refine ⟨?_, ?_, ?_⟩
      · intro entry member
        obtain ⟨part, _, inside⟩ := List.mem_flatMap.mp member
        obtain ⟨deeper, _, rfl⟩ := List.mem_map.mp inside
        exact .nil
      · intro part isPart
        have below := induction part.1 (arrangement.child_of_part isPart)
        exact List.pairwise_map.mpr (below.imp .cons)
      · apply (arrangement.ordered formula).imp
        intro first second precedes early isEarly late isLate
        obtain ⟨_, _, rfl⟩ := List.mem_map.mp isEarly
        obtain ⟨_, _, rfl⟩ := List.mem_map.mp isLate
        exact .rel precedes

theorem entries_enumerated (formula : Formula label) :
    formula.Enumerated arrangement.before (arrangement.entries formula) where
  complete address node := arrangement.mem_entries_iff formula node address
  once := by
    apply List.pairwise_map.mpr
    apply (arrangement.entries_ordered formula).imp
    intro first second precedes same
    rw [same] at precedes
    exact List.lex_irrefl arrangement.irreflexive second.1 precedes
  ordered := arrangement.entries_ordered formula

end Arrangement

open Arrangement

/-- A walk goes through the parts of a node from the first to the last. -/
theorem walk_eq_entries (formula : Formula label) :
    formula.walk = (forwards.entries formula).map Prod.snd := by
  induction formula using parts_induction with
  | step formula induction =>
      have parts : (forwards.parts formula).map Prod.fst = formula.children :=
        List.zipIdx_map_fst 0 formula.children
      rw [walk_eq, map_entries_eq, ← parts, List.flatMap_map]
      apply congrArg (formula :: ·)
      apply List.flatMap_congr
      intro part isPart
      exact induction part.1 (forwards.child_of_part isPart)

/-- The nodes with their levels, as the search for the depth takes them off its stack. -/
def visitsFrom : List (Formula label × Nat) → List (Formula label × Nat)
  | [] => []
  | (formula, level) :: rest =>
      (formula, level) ::
        visitsFrom (formula.children.reverse.map (fun child => (child, level + 1)) ++ rest)
termination_by pending => totalSize (pending.map Prod.fst)
decreasing_by
  have smaller := total_size_children_lt formula
  simp only [List.map_append, List.map_cons, total_size_append, total_size_levelled, totalSize]
  omega

def visits (formula : Formula label) : List (Formula label × Nat) := visitsFrom [(formula, 1)]

theorem depth_from_eq (deepest : Nat) (pending : List (Formula label × Nat)) :
    depthFrom deepest pending = ((visitsFrom pending).map Prod.snd).foldl max deepest := by
  induction pending using visitsFrom.induct generalizing deepest with
  | case1 => rw [depthFrom, visitsFrom, List.map_nil, List.foldl_nil]
  | case2 formula level rest induction =>
      rw [depthFrom, visitsFrom, List.map_cons, List.foldl_cons, induction]

/-- The search for the depth goes through the parts of a node from the last to the first. Every
pending node stands for all nodes below it, each as many levels deeper as its address is long. -/
theorem visits_from_eq (pending : List (Formula label × Nat)) :
    visitsFrom pending = pending.flatMap fun root =>
      (backwards.entries root.1).map fun entry => (entry.2, entry.1.length + root.2) := by
  induction pending using visitsFrom.induct with
  | case1 => rw [visitsFrom, List.flatMap_nil]
  | case2 formula level rest induction =>
      have parts : (backwards.parts formula).map Prod.fst = formula.children.reverse := by
        rw [backwards, List.map_reverse, List.zipIdx_map_fst]
      rw [visitsFrom, induction, List.flatMap_append, List.flatMap_cons, map_entries_eq, ← parts,
        List.map_map, List.flatMap_map]
      simp only [Function.comp_apply, List.length_nil, Nat.zero_add, List.length_cons,
        Nat.succ_add_eq_add_succ, List.cons_append]

theorem visits_eq_entries (formula : Formula label) :
    formula.visits =
      (backwards.entries formula).map fun entry => (entry.2, entry.1.length + 1) := by
  rw [visits, visits_from_eq, List.flatMap_cons, List.flatMap_nil, List.append_nil]

theorem depth_eq_visits (formula : Formula label) :
    formula.depth = (formula.visits.map Prod.snd).foldl max 0 := by
  rw [depth, visits, depth_from_eq]

/-- The height of a leaf is one, and that of any other node one more than that of its highest
part. -/
def height (formula : Formula label) : Nat :=
  1 + (formula.children.attach.map fun child => height child.1).max?.getD 0
termination_by sizeOf formula
decreasing_by exact size_child_lt child.2

theorem height_eq (formula : Formula label) :
    formula.height = 1 + (formula.children.map height).max?.getD 0 := by
  rw [height, List.attach_map_val]

theorem greatest_le_iff (values : List Nat) (bound : Nat) :
    values.max?.getD 0 ≤ bound ↔ ∀ value ∈ values, value ≤ bound := by
  cases greatest : values.max? with
  | none =>
      rw [List.max?_eq_none_iff.mp greatest]
      simp
  | some value => exact List.max?_le_iff greatest

theorem depth_by_parts (formula : Formula label) :
    formula.depth = 1 + (formula.children.map depth).max?.getD 0 := by
  apply depth_eq_of_bounds
  intro bound
  have parts := greatest_le_iff (formula.children.map depth) (bound - 1)
  rw [List.forall_mem_map] at parts
  rw [depth_le_iff]
  constructor
  · rintro ⟨positive, below⟩
    have within := parts.mpr fun child isChild => by
      have deep := below child isChild
      omega
    omega
  · intro within
    refine ⟨by omega, fun child isChild => ?_⟩
    have deep := parts.mp (by omega) child isChild
    omega

theorem depth_eq_height (formula : Formula label) : formula.depth = formula.height := by
  induction formula using parts_induction with
  | step formula induction =>
      rw [depth_by_parts, height_eq, List.map_congr_left induction]

/-- A walk is the preorder, and the depth is the height. Both traversals come to every address
once, with the parts of a node in one order and in the other; the search for the depth keeps the
highest level that it sees, and the level of a node is one more than the length of its address. -/
theorem traversals_are_recursive (formula : Formula label) :
    (formula.walk = formula.preorder ∧
      formula.walk = formula :: formula.children.flatMap walk ∧
      ∃ entries, formula.Enumerated (· < ·) entries ∧ formula.walk = entries.map Prod.snd) ∧
    (formula.depth = formula.height ∧
      formula.depth = 1 + (formula.children.map depth).max?.getD 0 ∧
      formula.depth = (formula.visits.map Prod.snd).foldl max 0 ∧
      ∃ entries, formula.Enumerated (· > ·) entries ∧
        formula.visits = entries.map fun entry => (entry.2, entry.1.length + 1)) := by
  refine ⟨⟨walk_eq_preorder formula, walk_eq formula, ?_⟩,
    depth_eq_height formula, depth_by_parts formula, depth_eq_visits formula, ?_⟩
  · exact ⟨forwards.entries formula, forwards.entries_enumerated formula, walk_eq_entries formula⟩
  · exact ⟨backwards.entries formula, backwards.entries_enumerated formula,
      visits_eq_entries formula⟩

/-- The first operand of a sum is walked first and measured last. -/
example :
    let sum : Formula Nat := binary 0 .plus (symbol 1 "x") (group 2 (symbol 3 "y"))
    sum.walk.map place = [0, 1, 2, 3] ∧
      sum.visits.map (fun visit => (visit.1.place, visit.2)) =
        [(0, 1), (2, 2), (3, 3), (1, 2)] := by
  decide +kernel

end FormulaPlot.Formula
