/-!
Sets of characters given by ascending, disjoint ranges of code points.
-/

namespace FormulaPlot.Text

set_option autoImplicit false

abbrev Ranges := List (Nat × Nat)

def Ranges.contains : Ranges → Nat → Bool
  | [], _ => false
  | (low, high) :: rest, code =>
      if code < low then false else decide (code ≤ high) || Ranges.contains rest code

theorem Ranges.exists_mem_of_contains {ranges : Ranges} {code : Nat}
    (found : ranges.contains code = true) :
    ∃ range ∈ ranges, range.1 ≤ code ∧ code ≤ range.2 := by
  induction ranges with
  | nil => simp [contains] at found
  | cons range rest induction =>
      obtain ⟨low, high⟩ := range
      by_cases below : code < low
      · simp [contains, below] at found
      · by_cases inside : code ≤ high
        · exact ⟨(low, high), by simp, by omega, inside⟩
        · simp only [contains, below, inside, if_false, decide_false, Bool.false_or] at found
          obtain ⟨range, member, bounds⟩ := induction found
          exact ⟨range, by simp [member], bounds⟩

end FormulaPlot.Text
