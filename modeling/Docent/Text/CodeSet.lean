/-!
# Sets of characters written as ranges of code points

A property of the Unicode standard is stored as text: ranges `41-5A` and single code points `AA`
in hexadecimal, in ascending order, separated by blanks and line feeds. `CodeSet.ofText` reads that text and
`CodeSet.has` asks for a character.
-/

namespace Docent.Text

def hexDigit? (c : Char) : Option Nat :=
  if '0' ≤ c ∧ c ≤ '9' then some (c.toNat - 48)
  else if 'a' ≤ c ∧ c ≤ 'f' then some (c.toNat - 87)
  else if 'A' ≤ c ∧ c ≤ 'F' then some (c.toNat - 55)
  else none

/-- The number written by hexadecimal digits; a character that is no digit counts as zero. -/
def hexValue (digits : List Char) : Nat :=
  digits.foldl (fun n c => 16 * n + (hexDigit? c).getD 0) 0

def pieces (sep : Char) : List Char → List (List Char)
  | [] => [[]]
  | c :: cs =>
    match pieces sep cs with
    | [] => [[c]]
    | p :: ps => if c = sep then [] :: p :: ps else (c :: p) :: ps

theorem pieces_ne_nil (sep : Char) (cs : List Char) : pieces sep cs ≠ [] := by
  cases cs with
  | nil => simp [pieces]
  | cons c cs =>
    simp only [pieces]
    cases pieces sep cs with
    | nil => simp
    | cons p ps => by_cases h : c = sep <;> simp [h]

def words (text : String) : List (List Char) :=
  (pieces ' ' (text.toList.map fun c => if c = '\n' then ' ' else c)).filter (!·.isEmpty)

/-- Ascending, separate ranges of code points, both ends included. -/
structure CodeSet where
  ranges : Array (Nat × Nat)

namespace CodeSet

def range (item : List Char) : Nat × Nat :=
  match pieces '-' item with
  | [a, b] => (hexValue a, hexValue b)
  | _ => (hexValue item, hexValue item)

def ofText (text : String) : CodeSet :=
  ⟨((words text).map range).toArray⟩

/-- Halves the stretch of ranges in which the code point can lie until one range is left. -/
def search (ranges : Array (Nat × Nat)) (n : Nat) : Nat → Nat → Nat → Bool
  | 0, _, _ => false
  | fuel + 1, lo, hi =>
    if lo ≥ hi then false
    else
      let mid := (lo + hi) / 2
      match ranges[mid]? with
      | none => false
      | some (a, b) =>
        if n < a then search ranges n fuel lo mid
        else if b < n then search ranges n fuel (mid + 1) hi
        else true

def has (s : CodeSet) (c : Char) : Bool :=
  search s.ranges c.toNat (s.ranges.size + 1) 0 s.ranges.size

end CodeSet

end Docent.Text
