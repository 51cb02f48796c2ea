import FormulaPlot.Proofs.Formula.Openings

/-!
The room that a derivation takes, told from how deep its tokens are nested. A formula is derived
with some room just when none of its tokens is nested deeper than that room allows, however much
room it was derived with at first.
-/

namespace FormulaPlot.Grammar

open FormulaPlot.Formula Cursor
open Enclosure (level)

set_option autoImplicit false

namespace Cursor

variable {cursor other : Cursor} {head tail tokens : List Token}

theorem level_inside (cursor : Cursor) :
    cursor.inside.operand.level - 1 = cursor.operand.level := by
  rw [inside, Enclosure.level_opened, Int.add_sub_cancel]

theorem level_deeper (cursor : Cursor) :
    cursor.deeper.operand.level - 1 = cursor.operand.level := by
  rw [deeper, Enclosure.level_opened, Int.add_sub_cancel]

theorem Fresh.level_assigned (fresh : cursor.Fresh) :
    cursor.assigned.operand.level - 1 = cursor.operand.level := by
  rw [assigned, Enclosure.level_opened, Int.add_sub_cancel, fresh.level]

theorem Fresh.level_factor (fresh : cursor.Fresh) :
    cursor.factor.operand.level = cursor.operand.level - 1 := by
  rw [factor, Enclosure.level_multiplied, fresh.level]

/-- Tokens are derived with just as much room as they are nested deep above some level. -/
structure Fits (cursor : Cursor) (ground : Int) (tokens : List Token) (room : Nat)
    (derives : Nat → Prop) : Prop where
  within : cursor.Within level (ground + room) tokens
  narrows : ∀ narrow : Nat, cursor.Within level (ground + narrow) tokens → derives narrow

section Fits

variable {one : Cursor} {ground : Int} {room : Nat} {derives wanted whole : Nat → Prop}

theorem Fits.imp (fits : cursor.Fits ground tokens room derives)
    (implies : ∀ narrow, derives narrow → whole narrow) :
    cursor.Fits ground tokens room whole :=
  ⟨fits.within, fun narrow within => implies narrow (fits.narrows narrow within)⟩

theorem Fits.leaf (within : cursor.Within level ground tokens)
    (derived : ∀ narrow, derives narrow) :
    cursor.Fits ground tokens room derives :=
  ⟨within.mono (by omega), fun narrow _ => derived narrow⟩

theorem Fits.along (fits : other.Fits ground tail room derives)
    (same : ∀ bound, cursor.Within level bound tokens ↔ other.Within level bound tail) :
    cursor.Fits ground tokens room derives :=
  ⟨(same _).mpr fits.within, fun narrow within => fits.narrows narrow ((same _).mp within)⟩

/-- Tokens around a part that stand on the level above which it is nested. -/
theorem Fits.wrapped (fits : other.Fits ground tail room derives)
    (split : ∀ bound, cursor.Within level bound tokens ↔
      ground ≤ bound ∧ other.Within level bound tail) :
    cursor.Fits ground tokens room derives :=
  ⟨(split _).mpr ⟨by omega, fits.within⟩,
    fun narrow within => fits.narrows narrow ((split _).mp within).2⟩

/-- What is in brackets is nested above the operand that the brackets are. -/
theorem Fits.bracketed {opening closing : Token} (starts : cursor.spot = .start)
    (brackets : Brackets opening closing)
    (same : (cursor.inside.past tail).outer = cursor.inside.outer)
    (fits : cursor.inside.Fits (cursor.inside.operand.level - 1) tail room derives) :
    cursor.Fits cursor.operand.level (opening :: (tail ++ [closing])) room derives := by
  rw [level_inside] at fits
  exact fits.wrapped fun _ => within_bracketed (meets_factor_of_start starts _) brackets same

/-- Two parts that are nested above the same level. -/
theorem Fits.both (left : one.Fits ground head room derives)
    (right : other.Fits ground tail room wanted)
    (split : ∀ bound, cursor.Within level bound tokens ↔
      one.Within level bound head ∧ other.Within level bound tail)
    (builds : ∀ narrow, derives narrow → wanted narrow → whole narrow) :
    cursor.Fits ground tokens room whole := by
  refine ⟨(split _).mpr ⟨left.within, right.within⟩, fun narrow within => ?_⟩
  have ⟨first, second⟩ := (split _).mp within
  exact builds narrow (left.narrows narrow first) (right.narrows narrow second)

/-- A level of nesting takes one unit of room, since there is a token on it. -/
theorem Fits.raise (fits : cursor.Fits ground tokens room derives)
    (reaches : ∀ bound, cursor.Within level bound tokens → ground ≤ bound)
    (lifts : ∀ narrow, derives narrow → whole (narrow + 1)) :
    cursor.Fits (ground - 1) tokens (room + 1) whole := by
  refine ⟨fits.within.mono (by omega), fun narrow within => ?_⟩
  have reached := reaches _ within
  obtain ⟨above, rfl⟩ : ∃ above, narrow = above + 1 := ⟨narrow - 1, by omega⟩
  exact lifts above (fits.narrows above (within.mono (by omega)))

/-- The value behind the sign of an assignment is nested one level deeper than its target. -/
theorem Fits.assigned (fresh : cursor.Fresh)
    (fits : cursor.assigned.Fits (cursor.assigned.operand.level - 1) tokens room derives)
    (first : StartsOperand tokens) :
    cursor.assigned.Fits (cursor.operand.level - 1) tokens (room + 1)
      fun narrow => ∃ above, narrow = above + 1 ∧ derives above := by
  have above := fresh.level_assigned
  rw [above] at fits
  apply fits.raise
  · intro bound within
    have reached := within.reaches rfl first
    omega
  · exact fun narrow derived => ⟨narrow, rfl, derived⟩

end Fits

end Cursor

mutual

theorem Statement.fits {room : Nat} {tokens : List Token} {formula : Formula Span}
    {cursor : Cursor} (fresh : cursor.Fresh) :
    Statement room tokens formula →
      cursor.Fits (cursor.operand.level - 1) tokens room (Statement · tokens formula)
  | .range derived => (derived.fits fresh).imp fun _ => .range
  | .assignment target isTarget isAssign value => by
      have assigned := Fits.assigned fresh (value.fits cursor.fresh_assigned) value.starts
      apply (target.fits fresh).both assigned
      · exact fun bound => within_assigned fresh target.starts (target.past fresh) isAssign
      · rintro _ head ⟨narrow, rfl, tail⟩
        exact .assignment head isTarget isAssign tail
  | .definition head symbols isAssign body => by
      have assigned := Fits.assigned fresh (body.fits cursor.fresh_assigned) body.starts
      apply (head.fits fresh).both assigned
      · exact fun bound => within_assigned fresh head.starts (head.past fresh) isAssign
      · rintro _ call ⟨narrow, rfl, tail⟩
        exact .definition call symbols isAssign tail

theorem Range.fits {room : Nat} {tokens : List Token} {formula : Formula Span}
    {cursor : Cursor} (fresh : cursor.Fresh) :
    Range room tokens formula →
      cursor.Fits (cursor.operand.level - 1) tokens room (Range · tokens formula)
  | .single derived => (derived.fits fresh).imp fun _ => .single
  | .range first isColon last => by
      apply (first.fits fresh).both (last.fits fresh)
      · exact fun bound =>
          within_joined fresh first.starts (first.past fresh).beside (step_colon isColon)
      · exact fun narrow head tail => .range head isColon tail
  | .stepped first isColon step isSecond last => by
      have behind := (step.fits fresh).both (last.fits fresh)
        (fun bound =>
          within_joined fresh step.starts (step.past fresh).beside (step_colon isSecond))
        fun _ => And.intro
      apply (first.fits fresh).both behind
      · exact fun bound =>
          within_joined fresh first.starts (first.past fresh).beside (step_colon isColon)
      · exact fun narrow head ⟨middle, tail⟩ => .stepped head isColon middle isSecond tail

theorem Level.fits {room level : Nat} {tokens : List Token} {formula : Formula Span}
    {cursor : Cursor} (fresh : cursor.Fresh) :
    Level room level tokens formula →
      cursor.Fits (cursor.operand.level - 1) tokens room (Level · level tokens formula)
  | .operand above derived => (derived.fits fresh.spot).imp fun _ => .operand above
  | .tighter derived => (derived.fits fresh).imp fun _ => .tighter
  | .operation left found right => by
      apply (left.fits fresh).both (right.fits fresh)
      · have behind := left.past fresh
        exact fun bound =>
          within_joined fresh left.starts behind.beside (step_operator behind.spot found)
      · exact fun narrow head tail => .operation head found tail
  | .product left right isFactor apart => by
      have last : cursor.factor.Fits _ _ _ _ := right.fits rfl
      rw [fresh.level_factor] at last
      apply (left.fits fresh).both last
      · exact fun bound => within_factor (left.past fresh) isFactor apart
      · exact fun narrow head tail => .product head tail isFactor apart

theorem Operand.fits {room : Nat} {tokens : List Token} {formula : Formula Span}
    {cursor : Cursor} (starts : cursor.spot = .start) :
    Operand room tokens formula →
      cursor.Fits (cursor.operand.level - 1) tokens room (Operand · tokens formula)
  | .power derived => by
      apply (derived.fits starts).raise
      · exact fun bound within => within.reaches starts derived.starts_operand
      · exact fun narrow => .power
  | .signed isSign operand => by
      have inner : cursor.deeper.Fits _ _ _ _ := operand.fits rfl
      rw [level_deeper] at inner
      have signed := inner.wrapped fun bound => within_sign starts isSign
      apply signed.raise
      · exact fun bound within => ((within_sign starts isSign).mp within).1
      · exact fun narrow => .signed isSign

theorem Power.fits {room : Nat} {tokens : List Token} {formula : Formula Span}
    {cursor : Cursor} (starts : cursor.spot = .start) :
    Power room tokens formula →
      cursor.Fits cursor.operand.level tokens room (Power · tokens formula)
  | .base derived => (derived.fits starts).imp fun _ => .base
  | .raised base isPower exponent => by
      have last : cursor.deeper.Fits _ _ _ _ := exponent.fits rfl
      rw [level_deeper] at last
      apply (base.fits starts).both last
      · exact fun bound => within_power starts base isPower
      · exact fun narrow head tail => .raised head isPower tail

theorem Postfix.fits {room : Nat} {tokens : List Token} {formula : Formula Span}
    {cursor : Cursor} (starts : cursor.spot = .start) :
    Postfix room tokens formula →
      cursor.Fits cursor.operand.level tokens room (Postfix · tokens formula)
  | .primary derived => (derived.fits starts).imp fun _ => .primary
  | .call head opens items closes => by
      have inner := items.fits cursor.fresh_inside
      rw [level_inside] at inner
      apply (head.fits starts).both inner
      · exact fun bound => within_suffix starts head (by rw [opens]; rfl)
          (.of_kinds opens closes ⟨rfl, rfl⟩) items
      · exact fun narrow name arguments => .call name opens arguments closes
  | .index target opens items closes => by
      have inner := items.fits cursor.fresh_inside
      rw [level_inside] at inner
      apply (target.fits starts).both inner
      · exact fun bound => within_suffix starts target (by rw [opens]; rfl)
          (.of_kinds opens closes ⟨rfl, rfl⟩) items
      · exact fun narrow target indices => .index target opens indices closes
  | .member target isDot isName => by
      have inner := (target.fits starts).along fun bound =>
        within_member starts target isDot isName
      exact inner.imp fun narrow target => .member target isDot isName

theorem Primary.fits {room : Nat} {tokens : List Token} {formula : Formula Span}
    {cursor : Cursor} (starts : cursor.spot = .start) :
    Primary room tokens formula →
      cursor.Fits cursor.operand.level tokens room (Primary · tokens formula)
  | .number isNumber => by
      apply Fits.leaf
      · rw [within_cons, step_number starts isNumber]
        exact ⟨Int.le_refl _, within_nil _ _ _⟩
      · exact fun narrow => .number isNumber
  | .name isName => by
      apply Fits.leaf
      · rw [within_cons, step_name starts isName]
        exact ⟨Int.le_refl _, within_nil _ _ _⟩
      · exact fun narrow => .name isName
  | .group opens inner closes => by
      have group := Fits.bracketed starts (.of_kinds opens closes ⟨rfl, rfl⟩)
        (inner.past cursor.fresh_inside) (inner.fits cursor.fresh_inside)
      exact group.imp fun narrow inner => .group opens inner closes
  | .array opens items closes => by
      have array := Fits.bracketed starts (.of_kinds opens closes ⟨rfl, rfl⟩)
        (items.past cursor.fresh_inside) (items.fits cursor.fresh_inside)
      exact array.imp fun narrow items => .array opens items closes
  | .emptyObject opens closes => by
      apply Fits.leaf
      · rw [← List.nil_append [_], within_bracketed (meets_factor_of_start starts _)
          (.of_kinds opens closes ⟨rfl, rfl⟩) rfl]
        exact ⟨Int.le_refl _, within_nil _ _ _⟩
      · exact fun narrow => .emptyObject opens closes
  | .object opens entries closes => by
      have object := Fits.bracketed starts (.of_kinds opens closes ⟨rfl, rfl⟩)
        (entries.past cursor.fresh_inside) (entries.fits cursor.fresh_inside)
      exact object.imp fun narrow entries => .object opens entries closes

theorem Items.fits {room : Nat} {tokens : List Token} {formulas : List (Formula Span)}
    {cursor : Cursor} (fresh : cursor.Fresh) :
    Items room tokens formulas →
      cursor.Fits (cursor.operand.level - 1) tokens room (Items · tokens formulas)
  | .none => .leaf (within_nil _ _ _) fun _ => .none
  | .some derived => (derived.fits fresh).imp fun _ => .some

theorem Sequence.fits {room : Nat} {tokens : List Token} {formulas : List (Formula Span)}
    {cursor : Cursor} (fresh : cursor.Fresh) :
    Sequence room tokens formulas →
      cursor.Fits (cursor.operand.level - 1) tokens room (Sequence · tokens formulas)
  | .last derived => (derived.fits fresh).imp fun _ => .last
  | .more derived isComma others => by
      apply (derived.fits fresh).both (others.fits fresh)
      · exact fun bound =>
          within_joined fresh derived.starts (derived.past fresh) (step_comma isComma)
      · exact fun narrow head tail => .more head isComma tail

theorem Entries.fits {room : Nat} {tokens : List Token}
    {entries : List (String × Formula Span)} {cursor : Cursor} (fresh : cursor.Fresh) :
    Entries room tokens entries →
      cursor.Fits (cursor.operand.level - 1) tokens room (Entries · tokens entries)
  | .last isName isColon value => by
      have property := (value.fits fresh).along fun bound =>
        within_property fresh isName isColon value.starts
      exact property.imp fun narrow value => .last isName isColon value
  | .more isName isColon value isComma others => by
      have properties := (value.fits fresh).both (others.fits fresh)
        (fun bound =>
          within_joined fresh value.starts (value.past fresh).beside (step_comma isComma))
        fun _ => And.intro
      have all := properties.along fun bound =>
        within_property fresh isName isColon (StartsOperand.append value.starts _)
      exact all.imp fun narrow ⟨head, tail⟩ => .more isName isColon head isComma tail

end

theorem Statement.fits_start {room : Nat} {tokens : List Token} {formula : Formula Span}
    (derived : Statement room tokens formula) :
    Cursor.start.Fits (-1) tokens room (Statement · tokens formula) := derived.fits fresh_start

theorem Following.fits {room : Nat} {tokens : List Token} {statements : List (Formula Span)}
    {cursor : Cursor} (positive : 0 < room) (derived : Following room tokens statements) :
    cursor.Fits (-1) tokens room (Following · tokens statements) := by
  induction derived generalizing cursor with
  | none separators =>
      have shallow : level .nothing ≤ -1 + room := by
        rw [Enclosure.level_nothing]
        omega
      exact ⟨separators.within shallow, fun _ _ => .none separators⟩
  | @more separators head tail statement statements all present first others induction =>
      apply first.fits_start.both induction
      · intro bound
        rw [all.within_append_iff (all.past present) (StartsOperand.append first.starts tail),
          within_append]
      · exact fun _ head tail => .more all present head tail

theorem Body.fits {room : Nat} {tokens : List Token} {formula : Formula Span}
    (derived : Body room tokens formula) :
    Cursor.start.Fits (-1) tokens room (Body · tokens formula) := by
  cases derived with
  | @statement separators tokens _ all first =>
      have text := first.fits_start.along fun bound =>
        all.within_append_iff all.past_start first.starts
      exact text.imp fun _ => .statement all
  | @block separators head tail start last statement statements all first others present
      isFirst isLast =>
      have reached := first.fits_start.within.reaches rfl first.starts
      have positive : 0 < room := by
        rw [Cursor.start, Enclosure.level_nothing] at reached
        omega
      apply first.fits_start.both (others.fits positive)
      · intro bound
        rw [all.within_append_iff all.past_start (StartsOperand.append first.starts tail),
          within_append]
      · exact fun _ head tail => .block all head tail present isFirst isLast

/-- A text is derived with some room just when no token needs more of it. -/
theorem Body.derived_iff {room : Nat} {tokens : List Token} {formula : Formula Span}
    (derived : Body room tokens formula) (narrow : Nat) :
    Body narrow tokens formula ↔
      ∀ enclosure ∈ nesting tokens, enclosure.openings < narrow + enclosure.factors := by
  have same : Cursor.start.Within level (-1 + narrow) tokens ↔
      ∀ enclosure ∈ nesting tokens, enclosure.openings < narrow + enclosure.factors := by
    apply forall₂_congr
    intro enclosure _
    unfold Enclosure.level
    omega
  rw [← same]
  exact ⟨fun again => again.fits.within, derived.fits.narrows narrow⟩

end FormulaPlot.Grammar
