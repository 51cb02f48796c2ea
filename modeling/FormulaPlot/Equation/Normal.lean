import FormulaPlot.Text.Blank
import FormulaPlot.Text.Word

/-!
The normal form of an entered text: no white space at its ends, `^` for powers and `log` for
logarithms.
-/

namespace FormulaPlot.Equation

open FormulaPlot.Text

set_option autoImplicit false

def powersAsCarets : List Char → List Char
  | '*' :: '*' :: rest => '^' :: powersAsCarets rest
  | character :: rest => character :: powersAsCarets rest
  | [] => []

/-- The text behind the opening parenthesis of a call of `ln`, white space before it aside. -/
def behindLn? : List Char → Option (List Char)
  | 'l' :: 'n' :: rest =>
      match rest.dropWhile isBlank with
      | '(' :: behind => some behind
      | _ => none
  | _ => none

theorem length_of_behindLn? {characters behind : List Char}
    (found : behindLn? characters = some behind) : behind.length < characters.length := by
  unfold behindLn? at found
  split at found
  · rename_i rest
    have bound := (List.dropWhile_suffix (l := rest) isBlank).length_le
    split at found
    · rename_i tail same
      rw [same] at bound
      simp only [Option.some.injEq] at found
      subst found
      simp only [List.length_cons] at bound ⊢
      omega
    · simp at found
  · simp at found

def logCall : List Char := ['l', 'o', 'g', '(']

/-- A call of `ln` becomes one of `log` where its name starts a word. -/
def lnAsLog (insideWord : Bool) : List Char → List Char
  | [] => []
  | character :: rest =>
      if insideWord then character :: lnAsLog (isWordCharacter character) rest
      else
        match _found : behindLn? (character :: rest) with
        | some behind => logCall ++ lnAsLog false behind
        | none => character :: lnAsLog (isWordCharacter character) rest
termination_by characters => characters.length
decreasing_by
  · simp
  · exact length_of_behindLn? _found
  · simp

def normalize (raw : String) : String :=
  String.ofList (lnAsLog false (powersAsCarets (strip raw.toList)))

/-- The parts of a text between its equals signs. -/
def splitAtEquals : List Char → List (List Char)
  | [] => [[]]
  | character :: rest =>
      if character = '=' then [] :: splitAtEquals rest
      else
        match splitAtEquals rest with
        | [] => [[character]]
        | part :: parts => (character :: part) :: parts

/-- Whether a one-letter word occurs between other characters than those of words. -/
def hasLetterWord (letter : Char) (before : Option Char) : List Char → Bool
  | [] => false
  | character :: rest =>
      (character == letter && isWordBoundary before (some character) &&
          isWordBoundary (some character) rest.head?) ||
        hasLetterWord letter (some character) rest

def mentionsY (characters : List Char) : Bool := hasLetterWord 'y' none characters

end FormulaPlot.Equation
