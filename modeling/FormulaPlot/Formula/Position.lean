/-!
Places in a source text. Lines and columns count from one, offsets from zero.
-/

namespace FormulaPlot

set_option autoImplicit false

structure Location where
  line : Nat
  column : Nat
  offset : Nat
  deriving DecidableEq, Repr

namespace Location

def start : Location := ⟨1, 1, 0⟩

def next (location : Location) (character : Char) : Location :=
  if character = '\n' then ⟨location.line + 1, 1, location.offset + 1⟩
  else ⟨location.line, location.column + 1, location.offset + 1⟩

def after (location : Location) (characters : List Char) : Location :=
  characters.foldl next location

@[simp] theorem next_offset (location : Location) (character : Char) :
    (location.next character).offset = location.offset + 1 := by
  unfold next
  split <;> rfl

@[simp] theorem after_offset (location : Location) (characters : List Char) :
    (location.after characters).offset = location.offset + characters.length := by
  induction characters generalizing location with
  | nil => simp [after]
  | cons character rest induction =>
      have step := induction (location.next character)
      simp only [after, List.foldl_cons, List.length_cons, next_offset] at step ⊢
      omega

theorem after_append (location : Location) (first second : List Char) :
    location.after (first ++ second) = (location.after first).after second := by
  simp [after]

def text (location : Location) : String :=
  toString location.line ++ ":" ++ toString location.column

end Location

structure Span where
  start : Location
  stop : Location
  deriving DecidableEq, Repr

namespace Span

def text (span : Span) : String := span.start.text ++ "-" ++ span.stop.text

/-- From the start of one span to the end of another. -/
def through (first last : Span) : Span := ⟨first.start, last.stop⟩

end Span

end FormulaPlot
