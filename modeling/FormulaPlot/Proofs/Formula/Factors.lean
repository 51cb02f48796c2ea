import FormulaPlot.Proofs.Formula.Openings
import FormulaPlot.Proofs.Formula.Sizes

/-!
Texts without factors that follow another one without a sign. In such a text every product of the
tree has its sign.
-/

namespace FormulaPlot

set_option autoImplicit false

namespace Formula

theorem stars_append (head tail : List Token) : stars (head ++ tail) = stars head + stars tail :=
  List.countP_append

theorem stars_joined {between : Token} (head tail : List Token) (other : between.kind ≠ .star) :
    stars (head ++ between :: tail) = stars head + stars tail := by
  rw [stars_append, stars_cons_of_ne _ other]

end Formula

namespace Grammar

open FormulaPlot.Formula Cursor

/-- The factors around a token, as a measure. -/
def Enclosure.crowd (enclosure : Enclosure) : Int := enclosure.factors

open Enclosure (crowd)

/-- Brackets around a part leave its signs of products as they are. -/
theorem stars_bracketed {opening closing : Token} (tokens : List Token)
    (brackets : Brackets opening closing) :
    stars (opening :: (tokens ++ [closing])) = stars tokens := by
  have opens : opening.kind ≠ .star := by
    intro isStar
    have opens := brackets.opens
    rw [isStar] at opens
    contradiction
  have closes : closing.kind ≠ .star := by
    intro isStar
    have closes := brackets.closes
    rw [isStar] at closes
    contradiction
  rw [stars_cons_of_ne _ opens, stars_append, stars_cons_of_ne _ closes]
  rfl

theorem Cursor.crowd_factor (cursor : Cursor) : 0 < cursor.factor.operand.crowd :=
  Int.ofNat_lt.mpr (Nat.succ_pos _)

/-- What no factor without a sign is around has no more products than signs. -/
def Cursor.Marked (cursor : Cursor) (tokens : List Token) (products : Nat) : Prop :=
  cursor.Within crowd 0 tokens → products ≤ stars tokens

/-- A node without parts is no product. -/
theorem marked_of_alone {formula : Formula Span} (alone : formula.children = [])
    (tokens : List Token) : formula.products ≤ stars tokens := by
  have plain : formula.isProduct = false := by
    cases formula <;> first | rfl | contradiction
  rw [(sizes_of_parts _ plain).2, alone]
  exact Nat.zero_le _

mutual

theorem Statement.marked {room : Nat} {tokens : List Token} {formula : Formula Span}
    {cursor : Cursor} (fresh : cursor.Fresh) :
    Statement room tokens formula → cursor.Marked tokens formula.products
  | .range derived => derived.marked fresh
  | .assignment target isTarget isAssign value => fun within => by
      rw [within_assigned fresh target.starts (target.past fresh) isAssign] at within
      have first := target.marked fresh within.1
      have second := value.marked cursor.fresh_assigned within.2
      rw [stars_joined _ _ (by rw [isAssign]; decide), (sizes_of_parts _ rfl).2]
      simp only [children, products_in_cons, products_in_nil]
      omega
  | .definition head symbols isAssign body => fun within => by
      rw [within_assigned fresh head.starts (head.past fresh) isAssign] at within
      have second := body.marked cursor.fresh_assigned within.2
      rw [stars_joined _ _ (by rw [isAssign]; decide), (sizes_of_parts _ rfl).2]
      simp only [children, products_in_cons, products_in_nil]
      omega

theorem Range.marked {room : Nat} {tokens : List Token} {formula : Formula Span}
    {cursor : Cursor} (fresh : cursor.Fresh) :
    Range room tokens formula → cursor.Marked tokens formula.products
  | .single derived => derived.marked fresh
  | .range first isColon last => fun within => by
      rw [within_joined fresh first.starts (first.past fresh).beside (step_colon isColon)]
        at within
      have one := first.marked fresh within.1
      have other := last.marked fresh within.2
      rw [stars_joined _ _ (by rw [isColon]; decide), (sizes_of_parts _ rfl).2]
      simp only [children, products_in_cons, products_in_nil]
      omega
  | .stepped first isColon step isSecond last => fun within => by
      rw [within_joined fresh first.starts (first.past fresh).beside (step_colon isColon),
        within_joined fresh step.starts (step.past fresh).beside (step_colon isSecond)] at within
      have one := first.marked fresh within.1
      have middle := step.marked fresh within.2.1
      have other := last.marked fresh within.2.2
      rw [stars_joined _ _ (by rw [isColon]; decide), stars_joined _ _ (by rw [isSecond]; decide),
        (sizes_of_parts _ rfl).2]
      simp only [children, products_in_cons, products_in_nil]
      omega

theorem Level.marked {room level : Nat} {tokens : List Token} {formula : Formula Span}
    {cursor : Cursor} (fresh : cursor.Fresh) :
    Level room level tokens formula → cursor.Marked tokens formula.products
  | .operand _ derived => derived.marked fresh.spot
  | .tighter derived => derived.marked fresh
  | @Level.operation _ _ head tail operator left right first found last => fun within => by
      have behind := first.past fresh
      rw [within_joined fresh first.starts behind.beside (step_operator behind.spot found)]
        at within
      have one := first.marked fresh within.1
      have other := last.marked fresh within.2
      have sizes := (sizes_joined operator.kind left right).2
      rw [joined] at sizes
      rw [stars_append, stars_cons, sizes]
      omega
  | .product left right isFactor apart => fun within => by
      rw [within_factor (left.past fresh) isFactor apart] at within
      have crowded := within.2.reaches rfl right.starts_operand
      exact absurd crowded (Int.not_le.mpr cursor.crowd_factor)

theorem Operand.marked {room : Nat} {tokens : List Token} {formula : Formula Span}
    {cursor : Cursor} (starts : cursor.spot = .start) :
    Operand room tokens formula → cursor.Marked tokens formula.products
  | .power derived => derived.marked starts
  | .signed isSign operand => fun within => by
      rw [within_sign starts isSign] at within
      have inner := operand.marked (show cursor.deeper.spot = .start from rfl) within.2
      rw [stars_cons_of_ne _ (not_star_of_sign isSign), (sizes_of_parts _ rfl).2]
      simpa only [children, products_in_cons, products_in_nil, Nat.add_zero] using inner

theorem Power.marked {room : Nat} {tokens : List Token} {formula : Formula Span}
    {cursor : Cursor} (starts : cursor.spot = .start) :
    Power room tokens formula → cursor.Marked tokens formula.products
  | .base derived => derived.marked starts
  | .raised base isPower exponent => fun within => by
      rw [within_power starts base isPower] at within
      have below := base.marked starts within.1
      have above := exponent.marked (show cursor.deeper.spot = .start from rfl) within.2
      rw [stars_joined _ _ (not_star_of_power isPower), (sizes_of_parts _ rfl).2]
      simp only [children, products_in_cons, products_in_nil]
      omega

theorem Postfix.marked {room : Nat} {tokens : List Token} {formula : Formula Span}
    {cursor : Cursor} (starts : cursor.spot = .start) :
    Postfix room tokens formula → cursor.Marked tokens formula.products
  | .primary derived => derived.marked starts
  | .call head opens items closes => fun within => by
      have pair := Brackets.of_kinds opens closes ⟨rfl, rfl⟩
      rw [within_suffix starts head (by rw [opens]; rfl) pair items] at within
      have inner := items.marked cursor.fresh_inside within.2
      rw [stars_append, stars_bracketed _ pair, (sizes_of_parts _ rfl).2]
      simp only [children]
      omega
  | .index target opens items closes => fun within => by
      have pair := Brackets.of_kinds opens closes ⟨rfl, rfl⟩
      rw [within_suffix starts target (by rw [opens]; rfl) pair items] at within
      have first := target.marked starts within.1
      have inner := items.marked cursor.fresh_inside within.2
      rw [stars_append, stars_bracketed _ pair, (sizes_of_parts _ rfl).2]
      simp only [children, products_in_cons]
      omega
  | .member target isDot isName => fun within => by
      rw [within_member starts target isDot isName] at within
      have first := target.marked starts within
      rw [stars_append, (sizes_of_parts _ rfl).2]
      simp only [children, products_in_cons, products_in_nil]
      omega

theorem Primary.marked {room : Nat} {tokens : List Token} {formula : Formula Span}
    {cursor : Cursor} (starts : cursor.spot = .start) :
    Primary room tokens formula → cursor.Marked tokens formula.products
  | .number _ => fun _ => marked_of_alone rfl _
  | .name _ => fun _ => marked_of_alone rfl _
  | .group opens inner closes => fun within => by
      have pair := Brackets.of_kinds opens closes ⟨rfl, rfl⟩
      rw [within_bracketed (meets_factor_of_start starts _) pair
        (inner.past cursor.fresh_inside)] at within
      have marked := inner.marked cursor.fresh_inside within.2
      rw [stars_bracketed _ pair, (sizes_of_parts _ rfl).2]
      simpa only [children, products_in_cons, products_in_nil, Nat.add_zero] using marked
  | .array opens items closes => fun within => by
      have pair := Brackets.of_kinds opens closes ⟨rfl, rfl⟩
      rw [within_bracketed (meets_factor_of_start starts _) pair
        (items.past cursor.fresh_inside)] at within
      rw [stars_bracketed _ pair, (sizes_of_parts _ rfl).2]
      exact items.marked cursor.fresh_inside within.2
  | .emptyObject _ _ => fun _ => marked_of_alone rfl _
  | .object opens entries closes => fun within => by
      have pair := Brackets.of_kinds opens closes ⟨rfl, rfl⟩
      rw [within_bracketed (meets_factor_of_start starts _) pair
        (entries.past cursor.fresh_inside)] at within
      rw [stars_bracketed _ pair, (sizes_of_parts _ rfl).2]
      exact entries.marked cursor.fresh_inside within.2

theorem Items.marked {room : Nat} {tokens : List Token} {formulas : List (Formula Span)}
    {cursor : Cursor} (fresh : cursor.Fresh) :
    Items room tokens formulas → cursor.Marked tokens (productsIn formulas)
  | .none => fun _ => Nat.zero_le _
  | .some derived => derived.marked fresh

theorem Sequence.marked {room : Nat} {tokens : List Token} {formulas : List (Formula Span)}
    {cursor : Cursor} (fresh : cursor.Fresh) :
    Sequence room tokens formulas → cursor.Marked tokens (productsIn formulas)
  | .last derived => fun within => by
      rw [products_in_cons, products_in_nil, Nat.add_zero]
      exact derived.marked fresh within
  | .more derived isComma others => fun within => by
      rw [within_joined fresh derived.starts (derived.past fresh) (step_comma isComma)] at within
      have first := derived.marked fresh within.1
      have rest := others.marked fresh within.2
      rw [stars_joined _ _ (by rw [isComma]; decide), products_in_cons]
      omega

theorem Entries.marked {room : Nat} {tokens : List Token}
    {entries : List (String × Formula Span)} {cursor : Cursor} (fresh : cursor.Fresh) :
    Entries room tokens entries → cursor.Marked tokens (productsIn (entries.map Prod.snd))
  | .last isName isColon value => fun within => by
      rw [within_property fresh isName isColon value.starts] at within
      rw [stars_cons_of_ne _ (by rw [isName]; decide), stars_cons_of_ne _ (by rw [isColon]; decide),
        List.map_singleton, products_in_cons, products_in_nil, Nat.add_zero]
      exact value.marked fresh within
  | .more isName isColon value isComma others => fun within => by
      rw [within_property fresh isName isColon (StartsOperand.append value.starts _),
        within_joined fresh value.starts (value.past fresh).beside (step_comma isComma)] at within
      have first := value.marked fresh within.1
      have rest := others.marked fresh within.2
      rw [stars_cons_of_ne _ (by rw [isName]; decide), stars_cons_of_ne _ (by rw [isColon]; decide),
        stars_joined _ _ (by rw [isComma]; decide), List.map_cons, products_in_cons]
      exact Nat.add_le_add first rest

end

theorem Following.marked {room : Nat} {tokens : List Token} {statements : List (Formula Span)}
    {cursor : Cursor} (derived : Following room tokens statements) :
    cursor.Marked tokens (productsIn statements) := by
  induction derived generalizing cursor with
  | none _ => exact fun _ => Nat.zero_le _
  | @more separators head tail statement statements all present first others induction =>
      intro within
      rw [all.within_append_iff (all.past present) (StartsOperand.append first.starts tail),
        within_append] at within
      have one := first.marked fresh_start within.1
      have rest := induction within.2
      rw [stars_append, stars_append, products_in_cons]
      omega

/-- Where no factor follows another one without a sign, the products of the tree are among the
signs of the text. -/
theorem Body.products_le {room : Nat} {tokens : List Token} {formula : Formula Span}
    (derived : Body room tokens formula)
    (alone : ∀ enclosure ∈ nesting tokens, enclosure.factors = 0) :
    formula.products ≤ stars tokens := by
  have within : Cursor.start.Within crowd 0 tokens := by
    intro enclosure member
    rw [crowd, alone enclosure member]
    exact Int.le_refl 0
  cases derived with
  | @statement separators tokens _ all first =>
      rw [all.within_append_iff all.past_start first.starts] at within
      have marked := first.marked fresh_start within
      rw [stars_append]
      omega
  | @block separators head tail start last statement statements all first others present
      isFirst isLast =>
      rw [all.within_append_iff all.past_start (StartsOperand.append first.starts tail),
        within_append] at within
      have one := first.marked fresh_start within.1
      have rest := others.marked within.2
      rw [stars_append, stars_append, (sizes_of_parts _ rfl).2]
      simp only [children, products_in_cons]
      omega

end Grammar

end FormulaPlot
