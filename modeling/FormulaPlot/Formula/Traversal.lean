import FormulaPlot.Formula.Tree

/-!
Walks over formulas. Pending nodes are kept on a stack, so that neither deep nor wide formulas need
room elsewhere.
-/

namespace FormulaPlot.Formula

set_option autoImplicit false

variable {label : Type}

noncomputable def totalSize : List (Formula label) → Nat
  | [] => 0
  | formula :: rest => sizeOf formula + totalSize rest

theorem total_size_append (first second : List (Formula label)) :
    totalSize (first ++ second) = totalSize first + totalSize second := by
  induction first with
  | nil => simp [totalSize]
  | cons formula rest induction =>
      simp only [List.cons_append, totalSize, induction]
      omega

theorem total_size_reverse (formulas : List (Formula label)) :
    totalSize formulas.reverse = totalSize formulas := by
  induction formulas with
  | nil => rfl
  | cons formula rest induction =>
      simp only [List.reverse_cons, total_size_append, totalSize, induction]
      omega

theorem total_size_le (formulas : List (Formula label)) :
    totalSize formulas ≤ sizeOf formulas := by
  induction formulas with
  | nil => simp [totalSize]
  | cons formula rest induction =>
      simp only [totalSize, List.cons.sizeOf_spec]
      omega

theorem total_size_entries_le (entries : List (String × Formula label)) :
    totalSize (entries.map Prod.snd) ≤ sizeOf entries := by
  induction entries with
  | nil => simp [totalSize]
  | cons entry rest induction =>
      obtain ⟨key, formula⟩ := entry
      simp only [List.map_cons, totalSize, List.cons.sizeOf_spec, Prod.mk.sizeOf_spec]
      omega

/-- The parts of a node are together smaller than the node. -/
theorem total_size_children_lt (formula : Formula label) :
    totalSize formula.children < sizeOf formula := by
  cases formula with
  | call place name arguments =>
      have bound := total_size_le arguments
      simp only [children, call.sizeOf_spec]
      omega
  | index place target indices =>
      have bound := total_size_le indices
      simp only [children, totalSize, index.sizeOf_spec]
      omega
  | array place elements =>
      have bound := total_size_le elements
      simp only [children, array.sizeOf_spec]
      omega
  | object place entries =>
      have bound := total_size_entries_le entries
      simp only [children, object.sizeOf_spec]
      omega
  | block place statements =>
      have bound := total_size_le statements
      simp only [children, block.sizeOf_spec]
      omega
  | _ =>
      simp only [children, totalSize]
      simp
      try omega

def walkFrom : List (Formula label) → List (Formula label)
  | [] => []
  | formula :: rest => formula :: walkFrom (formula.children ++ rest)
termination_by pending => totalSize pending
decreasing_by
  have bound := total_size_children_lt formula
  simp only [total_size_append, totalSize]
  omega

/-- All nodes, each before its parts. -/
def walk (formula : Formula label) : List (Formula label) := walkFrom [formula]

def depthFrom (deepest : Nat) : List (Formula label × Nat) → Nat
  | [] => deepest
  | (formula, level) :: rest =>
      depthFrom (max deepest level)
        (formula.children.reverse.map (fun child => (child, level + 1)) ++ rest)
termination_by pending => totalSize (pending.map Prod.fst)
decreasing_by
  have bound := total_size_children_lt formula
  simp only [List.map_append, List.map_map, List.map_cons, totalSize, total_size_append,
    Function.comp_def, List.map_reverse, List.map_id', total_size_reverse]
  omega

/-- The number of nodes on a longest path from the root to a leaf. -/
def depth (formula : Formula label) : Nat := depthFrom 0 [(formula, 1)]

/-- What a node holds besides its parts. -/
inductive Detail where
  | nothing
  | constant (value : Float) (lexeme : String)
  | name (name : String)
  | operator (kind : TokenKind)
  | definition (name : String) (parameters : List String)
  | range (stepped : Bool)
  | keys (names : List String)
  deriving BEq

def detail : Formula label → Detail
  | constant _ value lexeme => .constant value lexeme
  | symbol _ name => .name name
  | unary _ operator _ => .operator operator
  | binary _ operator _ _ => .operator operator
  | call _ name _ => .name name
  | definition _ name parameters _ => .definition name parameters
  | member _ _ name => .name name
  | range .. => .range false
  | steppedRange .. => .range true
  | object _ entries => .keys (entries.map Prod.fst)
  | _ => .nothing

/-- Two formulas agree when their walks do, node by node: kind, label, detail and number of
parts. -/
def agrees [BEq label] (first second : Formula label) : Bool :=
  let view (formula : Formula label) :=
    formula.walk.map fun node => (node.kind, node.place, node.detail, node.children.length)
  view first == view second

end FormulaPlot.Formula
