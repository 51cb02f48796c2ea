import FormulaPlot.Formula.Safety
import FormulaPlot.Formula.Typesetting
import FormulaPlot.Proofs.Formula.Derivations

/-!
The marks of typeset formulas. No mark is the beginning of another and none starts like a number,
so a text of marks and numbers can be taken apart in one way only. All brackets are taken for square
ones, since parentheses, braces and bars stand in each other's places.
-/

namespace FormulaPlot.Typesetting

open FormulaPlot.Grammar FormulaPlot.Scanning FormulaPlot.Text

set_option autoImplicit false

def identifier (name : String) : Sense := (.identifier, name)

/-- The marks with what they stand for. A fraction and a logarithm with its base are names of their
own. -/
def marks : List (String × List Sense) :=
  [("\\left(", [bracketSense]), ("\\right)", [endBracketSense]), ("\x7b", [bracketSense]),
    ("\x7d", [endBracketSense]), ("\\left|", [identifier "abs", bracketSense]),
    ("\\right|", [endBracketSense]), ("\\frac", [identifier "frac"]),
    ("\\sqrt", [identifier "sqrt"]), ("\\ln", [identifier "log"]),
    ("\\log_", [identifier "log_"]), ("\\pi", [identifier "pi"]), ("x", [identifier "x"]),
    ("y", [identifier "y"]), ("e", [identifier "e"]), ("+", [(.plus, "+")]), ("-", [minusSense]),
    ("\\cdot ", [(.star, "*")]), ("\\bmod ", [(.percent, "%")]), ("^", [powerSense]),
    (",", [commaSense])] ++
  ElementaryFunction.all.map fun function =>
    (functionName function.name, [identifier function.name])

theorem marks_prefix_free : ∀ first ∈ marks, ∀ second ∈ marks,
    first.1.toList <+: second.1.toList → first = second := by
  decide +kernel

theorem mark_starts : ∀ mark ∈ marks,
    mark.1.toList.head?.any (fun first => !isDigit first && first != '.') = true := by
  decide +kernel

/-- A text that starts with a character with which no number goes on. -/
def Stops (text : String) : Prop := text.toList.head?.any stopsNumber = true

theorem mark_stops : ∀ mark ∈ marks, mark.1 ≠ "e" → Stops mark.1 := by
  unfold Stops
  decide +kernel

/-- A text is made of marks and numbers, each number read to its end. -/
inductive Shown : List Char → List Sense → Prop
  | nothing : Shown [] []
  | mark {mark : String} {senses others : List Sense} {rest : List Char} :
      (mark, senses) ∈ marks → Shown rest others → Shown (mark.toList ++ rest) (senses ++ others)
  | number {lexeme : String} {others : List Sense} {rest : List Char} :
      IsNumeral lexeme → Leads stopsNumber rest → Shown rest others →
      Shown (lexeme.toList ++ rest) ((.number, lexeme) :: others)

theorem mark_not_empty {mark : String} {senses : List Sense} {rest : List Char}
    (known : (mark, senses) ∈ marks) : mark.toList ++ rest ≠ [] := by
  intro empty
  have starts := mark_starts _ known
  rw [(List.append_eq_nil_iff.mp empty).1] at starts
  contradiction

theorem numeral_not_empty {lexeme : String} {rest : List Char} (numeral : IsNumeral lexeme) :
    lexeme.toList ++ rest ≠ [] := by
  have ⟨character, more, shape, _⟩ := numeral
  rw [shape]
  exact List.cons_ne_nil _ _

theorem mark_not_numeral {mark lexeme : String} {senses : List Sense} {rest behind : List Char}
    (known : (mark, senses) ∈ marks) (numeral : IsNumeral lexeme) :
    mark.toList ++ rest ≠ lexeme.toList ++ behind := by
  intro same
  have starts := mark_starts _ known
  have ⟨character, more, shape, numeric⟩ := numeral.starts
  rw [shape] at same
  cases letters : mark.toList with
  | nil =>
      rw [letters] at starts
      contradiction
  | cons first others =>
      rw [letters] at starts same
      rw [(List.cons.inj same).1] at starts
      simp only [List.head?_cons, Option.any_some, Bool.and_eq_true, Bool.not_eq_true',
        bne_iff_ne, ne_eq] at starts
      rcases digit_or_point_of_starts numeric with digit | point
      · rw [starts.1] at digit
        contradiction
      · exact starts.2 point

theorem marks_unique {first second : String} {senses others : List Sense}
    {rest behind : List Char} (known : (first, senses) ∈ marks) (other : (second, others) ∈ marks)
    (same : first.toList ++ rest = second.toList ++ behind) :
    senses = others ∧ rest = behind := by
  have before : first.toList <+: second.toList ++ behind := ⟨rest, same⟩
  have equal : (first, senses) = (second, others) := by
    rcases List.prefix_or_prefix_of_prefix before (List.prefix_append _ _) with short | long
    · exact marks_prefix_free _ known _ other short
    · exact (marks_prefix_free _ other _ known long).symm
  rw [Prod.mk.injEq] at equal
  rw [equal.1] at same
  exact ⟨equal.2, List.append_cancel_left same⟩

/-- Numbers at the front of a text are as long as they can be. -/
theorem numerals_unique {first second : String} {rest behind : List Char}
    (numeral : IsNumeral first) (stops : Leads stopsNumber rest) (other : IsNumeral second)
    (stopsOther : Leads stopsNumber behind)
    (same : first.toList ++ rest = second.toList ++ behind) : first = second ∧ rest = behind := by
  have length := numeral.length stops
  rw [same, other.length stopsOther] at length
  have parts := List.append_inj same length.symm
  exact ⟨String.toList_inj.mp parts.1, parts.2⟩

theorem Shown.unique {first second : List Char} {senses others : List Sense}
    (shown : Shown first senses) (again : Shown second others) (same : first = second) :
    senses = others := by
  induction shown generalizing second others with
  | nothing =>
      cases again with
      | nothing => rfl
      | mark known _ => exact absurd same.symm (mark_not_empty known)
      | number numeral _ _ => exact absurd same.symm (numeral_not_empty numeral)
  | mark known shown induction =>
      cases again with
      | nothing => exact absurd same (mark_not_empty known)
      | mark other again =>
          have ⟨equal, behind⟩ := marks_unique known other same
          rw [equal, induction again behind]
      | number numeral _ _ => exact absurd same (mark_not_numeral known numeral)
  | number numeral stops shown induction =>
      cases again with
      | nothing => exact absurd same (numeral_not_empty numeral)
      | mark known _ => exact absurd same.symm (mark_not_numeral known numeral)
      | number other stopsOther again =>
          have ⟨equal, behind⟩ := numerals_unique numeral stops other stopsOther same
          rw [equal, induction again behind]

/-- A text shows senses in front of everything that cannot go on with its last number. -/
def Shows (text : String) (senses : List Sense) : Prop :=
  ∀ rest others, Leads stopsNumber rest → Shown rest others →
    Shown (text.toList ++ rest) (senses ++ others)

variable {first second text mark : String} {senses others : List Sense}

theorem shows_nothing : Shows "" [] := fun _ _ _ shown => shown

theorem shows_mark (known : (mark, senses) ∈ marks) : Shows mark senses :=
  fun _ _ _ shown => .mark known shown

theorem shows_number {lexeme : String} (numeral : IsNumeral lexeme) :
    Shows lexeme [(.number, lexeme)] :=
  fun _ _ stops shown => .number numeral stops shown

theorem leads_of_stops (stops : Stops text) (rest : List Char) :
    Leads stopsNumber (text.toList ++ rest) := by
  unfold Stops at stops
  cases letters : text.toList with
  | nil =>
      rw [letters] at stops
      contradiction
  | cons character more =>
      rw [letters] at stops
      exact stops

theorem Stops.append (stops : Stops first) (second : String) : Stops (first ++ second) := by
  unfold Stops at stops ⊢
  rw [String.toList_append]
  cases letters : first.toList with
  | nil =>
      rw [letters] at stops
      contradiction
  | cons character more =>
      rw [letters] at stops
      exact stops

theorem Shows.append (shows : Shows first senses) (behind : Shows second others)
    (stops : Stops second) : Shows (first ++ second) (senses ++ others) := by
  intro rest last leads shown
  rw [String.toList_append, List.append_assoc, List.append_assoc]
  exact shows _ _ (leads_of_stops stops rest) (behind _ _ leads shown)

/-- A mark in front of any text. -/
theorem Shows.behind (shows : Shows text others) (known : (mark, senses) ∈ marks) :
    Shows (mark ++ text) (senses ++ others) := by
  intro rest last leads shown
  rw [String.toList_append, List.append_assoc, List.append_assoc]
  exact .mark known (shows _ _ leads shown)

theorem Shows.within {opening closing : String} {start finish : List Sense}
    (shows : Shows text senses) (opens : (opening, start) ∈ marks)
    (closes : (closing, finish) ∈ marks) (noName : closing ≠ "e") :
    Shows (opening ++ text ++ closing) (start ++ (senses ++ finish)) := by
  rw [String.append_assoc]
  exact (shows.append (shows_mark closes) (mark_stops _ closes noName)).behind opens

end FormulaPlot.Typesetting
