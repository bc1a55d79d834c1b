import Docent.Text.CodeSet

/-!
# Lines of a source text

A source text is cut into lines at its line feeds alone; each line keeps its line feed. Main
statements: the lines make up the text, and a span of lines is a part of it.
-/

namespace Docent

def startLine (c : Char) : List (List Char) → List (List Char)
  | [] => [[c]]
  | l :: ls => (c :: l) :: ls

/-- The lines of a text, each with its line feed. -/
def sourceLines : List Char → List (List Char)
  | [] => []
  | c :: cs => if c = '\n' then ['\n'] :: sourceLines cs else startLine c (sourceLines cs)

/-- The lines of a text make up the text. -/
theorem flatten_sourceLines (cs : List Char) : (sourceLines cs).flatten = cs := by
  induction cs with
  | nil => rfl
  | cons c cs ih =>
    simp only [sourceLines]
    split
    · simp [*]
    · cases h : sourceLines cs with
      | nil => rw [h] at ih; simp at ih; simp [startLine, ih]
      | cons l ls => rw [h] at ih; simp at ih; simp [startLine, ih]

/-- The text of the lines from `first` to `last`, counted from one; empty if there are none. -/
def lineSpan (cs : List Char) (first last : Int) : List Char :=
  if first < 1 ∨ last < first then []
  else
    let start := (first - 1).toNat
    (((sourceLines cs).drop start).take (last.toNat - start)).flatten

end Docent
