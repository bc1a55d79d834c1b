import Docent.Text.Blank
import Docent.Text.CodeSet

/-!
# Margins

The text of a documentation string as it is meant to be read: tabs become blanks, the indentation
that all lines but the first have in common is removed, and so are blank lines at both ends.
-/

namespace Docent.Text

/-- Replaces tabs by blanks up to the next multiple of eight columns. -/
def expandTabs (col : Nat) : List Char → List Char
  | [] => []
  | c :: cs =>
    if c = '\t' then
      List.replicate (8 - col % 8) ' ' ++ expandTabs (col + (8 - col % 8)) cs
    else if c = '\n' ∨ c = '\r' then c :: expandTabs 0 cs
    else c :: expandTabs (col + 1) cs

def indentation? (line : List Char) : Option Nat :=
  if line.all isBlank then none else some (line.takeWhile isBlank).length

def least? : List Nat → Option Nat
  | [] => none
  | n :: ns =>
    match least? ns with
    | none => some n
    | some m => some (min n m)

def joinLines : List (List Char) → List Char
  | [] => []
  | [l] => l
  | l :: ls => l ++ '\n' :: joinLines ls

def dedent (doc : List Char) : List Char :=
  match pieces '\n' (expandTabs 0 doc) with
  | [] => []
  | first :: rest =>
    let margin := (least? (rest.filterMap indentation?)).getD 0
    let lines := first.dropWhile isBlank :: rest.map (·.drop margin)
    joinLines (trimmed lines)
where
  /-- Removes the empty lines at both ends. -/
  trimmed (lines : List (List Char)) : List (List Char) :=
    ((lines.reverse.dropWhile (·.isEmpty)).reverse).dropWhile (·.isEmpty)

end Docent.Text
