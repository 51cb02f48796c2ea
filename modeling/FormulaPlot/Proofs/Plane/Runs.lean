import FormulaPlot.Proofs.Numeric.Counts
import FormulaPlot.Proofs.Plane.Resolution

/-!
Runs of a sampled curve. A run takes in as many samples as are linked to one another, so that the
polylines of a curve are its longest runs of two samples or more, each with all of its points.
-/

namespace FormulaPlot

open FormulaPlot.Scalar

set_option autoImplicit false

/-- Every finite density is rounded to a count within the limits. -/
theorem sample_count_of_finite {samples : Float} (finite : samples.isFinite = true)
    {least greatest : Int} (ordered : least ≤ greatest) :
    ∃ count, sampleCount samples least greatest = .ok count ∧ least ≤ count ∧
      count ≤ greatest := by
  obtain ⟨whole, floor⟩ := floor_of_finite (Binary64.finite_add_half finite)
  refine ⟨max least (min greatest whole), ?_, ?_, ?_⟩
  · rw [sampleCount, floor]
    rfl
  · omega
  · omega

namespace Curve

/-! Longest runs -/

/-- Two places or more, each linked to the next, that nothing in front or behind is linked to. -/
structure LongestRun (links : Nat → Prop) (first last : Nat) : Prop where
  several : first < last
  linked : ∀ index, first ≤ index → index < last → links index
  begins : ∀ before, before + 1 = first → ¬links before
  ends : ¬links last

section Runs

variable {α : Type} (joined : Point α → Point α → Bool) (found : List (Option (Point α)))

/-- A sample and the next one are there and joined. -/
def LinkedIn (index : Nat) : Prop :=
  ∃ here next, found[index]? = some (some here) ∧ found[index + 1]? = some (some next) ∧
    joined here next = true

/-- The points of a run are the samples from its first to its last place. -/
def Traces (span : Nat × Nat) (points : List (Point α)) : Prop :=
  List.Forall₂ (fun index point => found[index]? = some (some point))
    (List.range' span.1 (span.2 + 1 - span.1)) points

/-- The longest runs between two places, in their order, and their polylines. -/
structure RunsBetween (start stop : Nat) (spans : List (Nat × Nat))
    (polylines : List (List (Point α))) : Prop where
  ordered : spans.Pairwise fun one other => one.2 < other.1
  longest : ∀ first last, (first, last) ∈ spans ↔
    LongestRun (LinkedIn joined found) first last ∧ start ≤ first ∧ last < stop
  traced : List.Forall₂ (Traces found) spans polylines

/-- A run that is not finished, given backwards: it begins at a place, and what is behind it has not
been looked at. -/
structure Pending (start : Nat) (run : List (Point α)) (rest : List (Option (Point α))) : Prop where
  split : ∃ before, before.length = start ∧ found = before ++ (run.reverse.map some ++ rest)
  linked : ∀ index, start ≤ index → index + 1 < start + run.length → LinkedIn joined found index
  begins : ∀ before, before + 1 = start → ¬LinkedIn joined found before

variable {joined found} {start middle stop : Nat} {spans others : List (Nat × Nat)}
  {polylines more : List (List (Point α))} {run : List (Point α)}
  {rest : List (Option (Point α))}

/-- No longest run crosses a place where two neighbours are not linked. -/
theorem RunsBetween.append (one : RunsBetween joined found start middle spans polylines)
    (other : RunsBetween joined found middle stop others more)
    (apart : ∀ before, before + 1 = middle → ¬LinkedIn joined found before) (low : start ≤ middle)
    (high : middle ≤ stop) :
    RunsBetween joined found start stop (spans ++ others) (polylines ++ more) where
  ordered := by
    refine List.pairwise_append.mpr ⟨one.ordered, other.ordered, ?_⟩
    intro here before there behind
    have below := ((one.longest here.1 here.2).mp before).2.2
    have above := ((other.longest there.1 there.2).mp behind).2.1
    omega
  longest first last := by
    rw [List.mem_append, one.longest, other.longest]
    constructor
    · rintro (⟨long, within⟩ | ⟨long, within⟩)
      · exact ⟨long, by omega⟩
      · exact ⟨long, by omega⟩
    · rintro ⟨long, within⟩
      rcases Nat.lt_or_ge last middle with before | behind
      · exact .inl ⟨long, within.1, before⟩
      · rcases Nat.lt_or_ge first middle with across | after
        · have crossed := long.linked (middle - 1) (by omega) (by omega)
          exact absurd crossed (apart (middle - 1) (by omega))
        · exact .inr ⟨long, after, within.2⟩
  traced := List.rel_append one.traced other.traced

theorem runs_between_nothing (few : stop ≤ start + 1) :
    RunsBetween joined found start stop [] [] where
  ordered := .nil
  longest first last := by
    refine iff_of_false List.not_mem_nil ?_
    rintro ⟨long, low, high⟩
    have several := long.several
    omega
  traced := .nil

namespace Pending

theorem sample (pending : Pending joined found start run rest) {index : Nat}
    (within : index < run.length) {point : Point α} (here : run.reverse[index]? = some point) :
    found[start + index]? = some (some point) := by
  obtain ⟨before, length, same⟩ := pending.split
  rw [same, ← length, List.getElem?_append_right (Nat.le_add_right _ _), Nat.add_sub_cancel_left,
    List.getElem?_append_left (by simpa using within), List.getElem?_map, here]
  rfl

theorem next (pending : Pending joined found start run rest) :
    found[start + run.length]? = rest.head? := by
  obtain ⟨before, length, same⟩ := pending.split
  rw [same, ← length, List.getElem?_append_right (Nat.le_add_right _ _), Nat.add_sub_cancel_left,
    List.getElem?_append_right (by simp), List.length_map, List.length_reverse, Nat.sub_self,
    List.head?_eq_getElem?]

theorem length (pending : Pending joined found start run rest) :
    found.length = start + run.length + rest.length := by
  obtain ⟨before, length, same⟩ := pending.split
  rw [same, ← length]
  simp only [List.length_append, List.length_map, List.length_reverse]
  omega

/-- A run that goes on no further is a longest one, unless it is a single sample or none. -/
theorem finished (pending : Pending joined found start run rest)
    (apart : ∀ before, before + 1 = start + run.length → ¬LinkedIn joined found before) :
    ∃ spans, RunsBetween joined found start (start + run.length) spans (finishedRun run) := by
  unfold finishedRun
  split
  · next several =>
      refine ⟨[(start, start + run.length - 1)], ?_, ?_, ?_⟩
      · exact List.pairwise_singleton _ _
      · intro first last
        rw [List.mem_singleton, Prod.mk.injEq]
        constructor
        · rintro ⟨rfl, rfl⟩
          refine ⟨⟨by omega, ?_, pending.begins, apart _ (by omega)⟩, by omega⟩
          intro index low high
          exact pending.linked index low (by omega)
        · rintro ⟨long, low, high⟩
          have several := long.several
          constructor
          · by_contra later
            exact long.begins (first - 1) (by omega)
              (pending.linked (first - 1) (by omega) (by omega))
          · by_contra earlier
            exact long.ends (pending.linked last (by omega) (by omega))
      · refine .cons ?_ .nil
        have count : start + run.length - 1 + 1 - start = run.reverse.length := by
          rw [List.length_reverse]
          omega
        show List.Forall₂ _ (List.range' start (start + run.length - 1 + 1 - start)) run.reverse
        rw [count, List.forall₂_iff_get]
        refine ⟨by simp, ?_⟩
        intro index _ within
        have size : index < run.length := by simpa using within
        rw [List.get_eq_getElem, List.getElem_range', Nat.one_mul]
        exact pending.sample size (List.getElem?_eq_getElem within)
  · next few => exact ⟨[], runs_between_nothing (by omega)⟩

/-! Reading on -/

variable {point previous : Point α} {older : List (Point α)}

theorem not_linked_gap (pending : Pending joined found start run (none :: rest)) :
    ¬LinkedIn joined found (start + run.length) := by
  rintro ⟨_, _, here, _⟩
  rw [pending.next] at here
  exact absurd (Option.some.inj here) nofun

theorem not_linked_before_gap (pending : Pending joined found start run (none :: rest)) :
    ∀ before, before + 1 = start + run.length → ¬LinkedIn joined found before := by
  rintro before same ⟨_, _, _, there, _⟩
  rw [same, pending.next] at there
  exact absurd (Option.some.inj there) nofun

theorem behind_gap (pending : Pending joined found start run (none :: rest)) :
    Pending joined found (start + run.length + 1) [] rest where
  split := by
    obtain ⟨before, count, same⟩ := pending.split
    refine ⟨before ++ (run.reverse.map some ++ [none]), ?_, ?_⟩
    · simp only [List.length_append, List.length_map, List.length_reverse, List.length_singleton,
        count, Nat.add_assoc]
    · simp only [same, List.append_assoc, List.singleton_append, List.reverse_nil, List.map_nil,
        List.nil_append]
  linked index low high := by
    rw [List.length_nil] at high
    omega
  begins before same := by
    obtain rfl : before = start + run.length := by omega
    exact pending.not_linked_gap

/-- The first sample of a run. -/
theorem opened (pending : Pending joined found start [] (some point :: rest)) :
    Pending joined found start [point] rest where
  split := pending.split
  linked index low high := by
    rw [List.length_singleton] at high
    omega
  begins := pending.begins

theorem last (pending : Pending joined found start (previous :: older) rest) :
    found[start + older.length]? = some (some previous) := by
  apply pending.sample (by simp)
  rw [List.reverse_cons, List.getElem?_append_right (by simp), List.length_reverse, Nat.sub_self]
  rfl

theorem extended (pending : Pending joined found start (previous :: older) (some point :: rest))
    (joins : joined previous point = true) :
    Pending joined found start (point :: previous :: older) rest where
  split := by
    obtain ⟨before, count, same⟩ := pending.split
    refine ⟨before, count, ?_⟩
    rw [same, List.reverse_cons (a := point), List.map_append, List.append_assoc]
    rfl
  linked index low high := by
    rcases Nat.lt_or_ge (index + 1) (start + (previous :: older).length) with within | behind
    · exact pending.linked index low within
    · simp only [List.length_cons] at high behind
      obtain rfl : index = start + older.length := by omega
      exact ⟨previous, point, pending.last, pending.next, joins⟩
  begins := pending.begins

theorem not_linked_across
    (pending : Pending joined found start (previous :: older) (some point :: rest))
    (parts : joined previous point = false) :
    ∀ before, before + 1 = start + (previous :: older).length →
      ¬LinkedIn joined found before := by
  rintro before same ⟨here, there, one, other, joins⟩
  rw [same, pending.next] at other
  rw [List.length_cons] at same
  obtain rfl : before = start + older.length := by omega
  rw [pending.last] at one
  cases one
  cases other
  rw [parts] at joins
  contradiction

theorem reopened
    (pending : Pending joined found start (previous :: older) (some point :: rest))
    (parts : joined previous point = false) :
    Pending joined found (start + (previous :: older).length) [point] rest where
  split := by
    obtain ⟨before, count, same⟩ := pending.split
    refine ⟨before ++ (previous :: older).reverse.map some, ?_, ?_⟩
    · simp only [List.length_append, List.length_map, List.length_reverse, count]
    · rw [same, List.append_assoc]
      rfl
  linked index low high := by
    rw [List.length_singleton] at high
    omega
  begins := pending.not_linked_across parts

end Pending

/-- Reading on from a pending run, the longest runs are found one after another. -/
theorem runs_from_pending (rest : List (Option (Point α))) (start : Nat) (run : List (Point α))
    (pending : Pending joined found start run rest) :
    ∃ spans, RunsBetween joined found start found.length spans (runsFrom joined run rest) := by
  induction rest generalizing start run with
  | nil =>
      have apart : ∀ before, before + 1 = start + run.length →
          ¬LinkedIn joined found before := by
        rintro before same ⟨_, _, _, there, _⟩
        rw [same, pending.next] at there
        contradiction
      have length := pending.length
      rw [List.length_nil, Nat.add_zero] at length
      rw [length]
      exact pending.finished apart
  | cons sample rest ih =>
      have length := pending.length
      rw [List.length_cons] at length
      cases sample with
      | none =>
          obtain ⟨spans, before⟩ := pending.finished pending.not_linked_before_gap
          obtain ⟨others, after⟩ := ih _ _ pending.behind_gap
          have nothing : RunsBetween joined found (start + run.length) (start + run.length + 1)
              [] [] := runs_between_nothing le_rfl
          have behind := nothing.append after pending.behind_gap.begins (by omega) (by omega)
          exact ⟨_, before.append behind pending.not_linked_before_gap (by omega) (by omega)⟩
      | some point =>
          cases run with
          | nil => exact ih _ _ pending.opened
          | cons previous older =>
              cases joins : joined previous point with
              | true =>
                  simp only [runsFrom, joins, if_true]
                  exact ih _ _ (pending.extended joins)
              | false =>
                  obtain ⟨spans, before⟩ := pending.finished (pending.not_linked_across joins)
                  obtain ⟨others, after⟩ := ih _ _ (pending.reopened joins)
                  simp only [runsFrom, joins, Bool.false_eq_true, if_false]
                  exact ⟨_, before.append after (pending.not_linked_across joins) (by omega)
                    (by omega)⟩

theorem runs_are_longest (joined : Point α → Point α → Bool) (found : List (Option (Point α))) :
    ∃ spans, RunsBetween joined found 0 found.length spans (runs joined found) :=
  runs_from_pending found 0 [] ⟨⟨[], rfl, rfl⟩, nofun, nofun⟩

end Runs

/-! Samples -/

section Samples

variable {α : Type} [Scalar α] (curve : α → Option α) (domain : Interval α) (count : Nat)
  (greatest : α)

/-- The curve has a value at a place of the grid: a finite one, of a size not beyond the bound. -/
structure Good (index : Nat) (y : α) : Prop where
  within : index ≤ count
  defined : curve (place domain count index) = some y
  finite : isFinite y = true
  bounded : ¬greatest < abs y

/-- Two neighbours have values that do not differ by more than a threshold. -/
def Linked (threshold : α) (index : Nat) : Prop :=
  ∃ y next, Good curve domain count greatest index y ∧
    Good curve domain count greatest (index + 1) next ∧ ¬threshold < abs (next - y)

/-- The points of the curve from the first to the last place of a run. -/
def Draws (span : Nat × Nat) (points : List (Point α)) : Prop :=
  List.Forall₂
    (fun index point => ∃ y, Good curve domain count greatest index y ∧
      point = ⟨place domain count index, y⟩)
    (List.range' span.1 (span.2 + 1 - span.1)) points

variable {curve domain count greatest}

theorem sample_eq_some_iff {x : α} {point : Point α} :
    sample curve greatest x = some point ↔
      ∃ y, curve x = some y ∧ isFinite y = true ∧ ¬greatest < abs y ∧ point = ⟨x, y⟩ := by
  unfold sample
  split
  · next none => simp [none]
  · next y defined =>
      split
      · next bad =>
          refine iff_of_false nofun ?_
          rintro ⟨value, same, finite, bounded, _⟩
          cases defined.symm.trans same
          simp [finite, bounded] at bad
      · next good =>
          simp only [Bool.or_eq_true, Bool.not_eq_true', decide_eq_true_iff, not_or,
            Bool.not_eq_false] at good
          constructor
          · rintro ⟨⟩
            exact ⟨y, defined, good.1, good.2, rfl⟩
          · rintro ⟨value, same, _, _, here⟩
            cases defined.symm.trans same
            rw [here]

theorem samples_at_iff {index : Nat} {point : Point α} :
    (samples curve domain count greatest)[index]? = some (some point) ↔
      ∃ y, Good curve domain count greatest index y ∧ point = ⟨place domain count index, y⟩ := by
  rw [samples, List.getElem?_map, Option.map_eq_some_iff]
  constructor
  · rintro ⟨_, there, found⟩
    obtain ⟨within, rfl⟩ := List.getElem?_eq_some_iff.mp there
    rw [List.getElem_range] at found
    obtain ⟨y, defined, finite, bounded, here⟩ := sample_eq_some_iff.mp found
    rw [List.length_range] at within
    exact ⟨y, ⟨Nat.le_of_lt_succ within, defined, finite, bounded⟩, here⟩
  · rintro ⟨y, good, here⟩
    refine ⟨index, List.getElem?_range (Nat.lt_succ_of_le good.within), ?_⟩
    exact sample_eq_some_iff.mpr ⟨y, good.defined, good.finite, good.bounded, here⟩

theorem linked_iff {threshold : α} {index : Nat} :
    LinkedIn (joins threshold) (samples curve domain count greatest) index ↔
      Linked curve domain count greatest threshold index := by
  unfold LinkedIn Linked
  simp only [samples_at_iff, joins, Bool.not_eq_true', decide_eq_false_iff_not]
  constructor
  · rintro ⟨_, _, ⟨y, good, rfl⟩, ⟨next, other, rfl⟩, near⟩
    exact ⟨y, next, good, other, near⟩
  · rintro ⟨y, next, good, other, near⟩
    exact ⟨_, _, ⟨y, good, rfl⟩, ⟨next, other, rfl⟩, near⟩

/-- The polylines of a curve are its longest runs of linked samples, each drawn with all of its
points: nothing is lost, and neither a gap nor a jump is bridged. -/
theorem polylines_are_longest_runs (curve : α → Option α) (domain visible : Interval α)
    (greatest : α) {density : Float} (finite : density.isFinite = true) :
    ∃ count, resolution density = .ok count ∧ 32 ≤ count ∧ count ≤ 5000 ∧
      ∃ spans : List (Nat × Nat), spans.Pairwise (fun one other => one.2 < other.1) ∧
        (∀ first last, (first, last) ∈ spans ↔
          LongestRun (Linked curve domain count greatest (jumpThreshold visible)) first last) ∧
        List.Forall₂ (Draws curve domain count greatest) spans
          (polylines curve domain count visible greatest) := by
  obtain ⟨count, counted, least, most⟩ :=
    sample_count_of_finite finite (show leastSamples ≤ greatestSamples by decide)
  have low : 32 ≤ count := least
  have high : count ≤ 5000 := most
  refine ⟨count.toNat, by rw [resolution, counted]; rfl, by omega, by omega, ?_⟩
  obtain ⟨spans, between⟩ := runs_are_longest (joins (jumpThreshold visible))
    (samples curve domain count.toNat greatest)
  have same : LinkedIn (joins (jumpThreshold visible)) (samples curve domain count.toNat greatest) =
      Linked curve domain count.toNat greatest (jumpThreshold visible) :=
    funext fun index => propext linked_iff
  refine ⟨spans, between.ordered, ?_, ?_⟩
  · intro first last
    rw [between.longest, same]
    refine ⟨And.left, fun long => ⟨long, Nat.zero_le _, ?_⟩⟩
    have several := long.several
    obtain ⟨_, _, _, next, _⟩ := long.linked (last - 1) (by omega) (by omega)
    have within := next.within
    rw [samples, List.length_map, List.length_range]
    omega
  · exact between.traced.imp fun _ _ traced => traced.imp fun _ _ => samples_at_iff.mp

end Samples

/-! A curve with a pole -/

def reciprocal (x : Float) : Option Float := if x == 0.0 then none else some (1.0 / x)

/-- The reciprocal has two runs of sixteen samples, one on each side of its pole. -/
theorem reciprocal_runs :
    (32.0 : Float).isFinite = true ∧ resolution 32.0 = .ok 32 ∧
      (polylines reciprocal ⟨-1.0, 1.0⟩ 32 Interval.standard greatestValue).map List.length =
        [16, 16] ∧
      ∃ spans : List (Nat × Nat), spans.Pairwise (fun one other => one.2 < other.1) ∧
        (∀ first last, (first, last) ∈ spans ↔
          LongestRun (Linked reciprocal ⟨-1.0, 1.0⟩ 32 greatestValue
            (jumpThreshold Interval.standard)) first last) ∧
        List.Forall₂ (Draws reciprocal ⟨-1.0, 1.0⟩ 32 greatestValue) spans
          (polylines reciprocal ⟨-1.0, 1.0⟩ 32 Interval.standard greatestValue) := by
  have finite : (32.0 : Float).isFinite = true := by decide
  have counted : resolution 32.0 = .ok 32 := by decide +kernel
  obtain ⟨count, found, _, _, spans⟩ :=
    polylines_are_longest_runs reciprocal ⟨-1.0, 1.0⟩ Interval.standard greatestValue finite
  rw [counted] at found
  cases found
  exact ⟨finite, counted, by decide +kernel, spans⟩

end Curve

end FormulaPlot
