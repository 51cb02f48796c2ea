import FormulaPlot.Formula.Reading
import FormulaPlot.Proofs.Formula.Addresses

/-!
Sizes of formulas. The depth and the products of a node are told from its parts, and the signs of
products from the tokens.
-/

namespace FormulaPlot.Formula

set_option autoImplicit false

variable {label : Type}

/-- The signs of products among some tokens. -/
def stars (tokens : List Token) : Nat := tokens.countP fun token => token.kind == .star

theorem stars_cons (token : Token) (rest : List Token) :
    stars (token :: rest) = stars rest + if token.kind = .star then 1 else 0 := by
  rw [stars, List.countP_cons]
  simp only [stars, beq_iff_eq]

theorem stars_cons_of_ne {token : Token} (rest : List Token) (other : token.kind ≠ .star) :
    stars (token :: rest) = stars rest := by
  rw [stars_cons, if_neg other, Nat.add_zero]

theorem not_star_of_sign {kind : TokenKind} (isSign : kind.isSign = true) : kind ≠ .star := by
  rintro rfl
  contradiction

theorem not_star_of_power {kind : TokenKind} (isPower : kind.isPower = true) : kind ≠ .star := by
  rintro rfl
  contradiction

def isProduct : Formula label → Bool
  | binary _ .star _ _ => true
  | _ => false

theorem is_product_binary (place : label) (kind : TokenKind) (left right : Formula label) :
    (binary place kind left right).isProduct = (kind == .star) := by
  cases kind <;> rfl

/-- The products in a formula. -/
def products (formula : Formula label) : Nat := formula.walk.countP isProduct

def productsIn : List (Formula label) → Nat
  | [] => 0
  | formula :: rest => formula.products + productsIn rest

/-- The depth of the deepest of some formulas. -/
def deepest (formulas : List (Formula label)) : Nat := (formulas.map depth).max?.getD 0

@[simp] theorem products_in_nil : productsIn ([] : List (Formula label)) = 0 := rfl

@[simp] theorem products_in_cons (formula : Formula label) (rest : List (Formula label)) :
    productsIn (formula :: rest) = formula.products + productsIn rest := rfl

@[simp] theorem deepest_nil : deepest ([] : List (Formula label)) = 0 := rfl

theorem deepest_le_iff (formulas : List (Formula label)) (bound : Nat) :
    deepest formulas ≤ bound ↔ ∀ formula ∈ formulas, formula.depth ≤ bound := by
  rw [deepest, greatest_le_iff, List.forall_mem_map]

@[simp] theorem deepest_cons (formula : Formula label) (rest : List (Formula label)) :
    deepest (formula :: rest) = max formula.depth (deepest rest) := by
  have bounds : ∀ bound,
      deepest (formula :: rest) ≤ bound ↔ max formula.depth (deepest rest) ≤ bound := by
    intro bound
    rw [Nat.max_le, deepest_le_iff, deepest_le_iff, List.forall_mem_cons]
  exact Nat.le_antisymm ((bounds _).mpr (Nat.le_refl _)) ((bounds _).mp (Nat.le_refl _))

theorem depth_eq_deepest (formula : Formula label) :
    formula.depth = 1 + deepest formula.children := depth_by_parts formula

theorem products_eq (formula : Formula label) :
    formula.products = (if formula.isProduct then 1 else 0) + productsIn formula.children := by
  have parts : ∀ formulas : List (Formula label),
      (formulas.flatMap walk).countP isProduct = productsIn formulas := by
    intro formulas
    induction formulas with
    | nil => rfl
    | cons formula rest induction =>
        rw [List.flatMap_cons, List.countP_append, induction, products_in_cons, products]
  rw [products, walk_eq, List.countP_cons, parts, Nat.add_comm]

/-- Apart from products, a node has the products of its parts. -/
theorem sizes_of_parts (formula : Formula label) (plain : formula.isProduct = false) :
    formula.depth = 1 + deepest formula.children ∧
      formula.products = productsIn formula.children := by
  refine ⟨depth_eq_deepest formula, ?_⟩
  rw [products_eq, plain]
  exact Nat.zero_add _

theorem sizes_of_one (formula : Formula label) {part : Formula label}
    (plain : formula.isProduct = false) (only : formula.children = [part]) :
    formula.depth = 1 + part.depth ∧ formula.products = part.products := by
  obtain ⟨tall, many⟩ := sizes_of_parts formula plain
  rw [only, deepest_cons, deepest_nil, Nat.max_zero] at tall
  rw [only, products_in_cons, products_in_nil, Nat.add_zero] at many
  exact ⟨tall, many⟩

theorem sizes_of_two (formula : Formula label) {left right : Formula label}
    (plain : formula.isProduct = false) (both : formula.children = [left, right]) :
    formula.depth = 1 + max left.depth right.depth ∧
      formula.products = left.products + right.products := by
  obtain ⟨tall, many⟩ := sizes_of_parts formula plain
  rw [both, deepest_cons, deepest_cons, deepest_nil, Nat.max_zero] at tall
  rw [both, products_in_cons, products_in_cons, products_in_nil, Nat.add_zero] at many
  exact ⟨tall, many⟩

theorem sizes_joined (kind : TokenKind) (left right : Formula Span) :
    (joined kind left right).depth = 1 + max left.depth right.depth ∧
      (joined kind left right).products =
        left.products + right.products + if kind = .star then 1 else 0 := by
  refine ⟨depth_binary _ _ _ _ |>.trans (Nat.add_comm _ _), ?_⟩
  rw [products_eq, joined, is_product_binary, children]
  simp only [products_in_cons, products_in_nil, beq_iff_eq]
  omega

/-- Names have neither parts nor products. -/
theorem sizes_of_symbols {formulas : List (Formula label)}
    (symbols : formulas.all isSymbol = true) : deepest formulas ≤ 1 ∧ productsIn formulas = 0 := by
  induction formulas with
  | nil => exact ⟨Nat.zero_le 1, rfl⟩
  | cons formula rest induction =>
      rw [List.all_cons, Bool.and_eq_true] at symbols
      obtain ⟨low, plain⟩ := induction symbols.2
      cases formula with
      | symbol place name =>
          obtain ⟨tall, many⟩ := sizes_of_parts (.symbol place name : Formula label) rfl
          simp only [children, deepest_nil, products_in_nil] at tall many
          rw [deepest_cons, products_in_cons]
          omega
      | _ => exact absurd symbols.1 Bool.false_ne_true

theorem sizes_of_assign {target value formula : Formula Span}
    (made : assign target value = .ok formula) :
    target.depth ≤ formula.depth ∧ value.depth < formula.depth ∧
      formula.products = target.products + value.products := by
  have kept : ∀ place, .ok (assignment place target value) = (.ok formula : Except SyntaxFault _) →
      target.depth ≤ formula.depth ∧ value.depth < formula.depth ∧
        formula.products = target.products + value.products := by
    intro place same
    injection same with same
    obtain ⟨tall, many⟩ := sizes_of_two (.assignment place target value) rfl rfl
    rw [← same]
    omega
  cases target with
  | call place name arguments =>
      rw [assign] at made
      split at made
      · next symbols =>
          injection made with same
          obtain ⟨above, more⟩ : formula.depth = 1 + value.depth ∧
              formula.products = value.products := by
            rw [← same]
            exact sizes_of_one _ rfl rfl
          obtain ⟨tall, many⟩ := sizes_of_parts (.call place name arguments : Formula Span) rfl
          obtain ⟨low, plain⟩ := sizes_of_symbols symbols
          have positive := depth_eq_deepest value
          simp only [children] at tall many
          omega
      · contradiction
  | symbol place name => exact kept _ made
  | index place base indices => exact kept _ made
  | member place base name => exact kept _ made
  | _ => contradiction

end FormulaPlot.Formula
