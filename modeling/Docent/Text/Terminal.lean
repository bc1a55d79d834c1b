import Docent.Grammar.Shape

/-!
# Sequences that steer a terminal

A sequence that steers a terminal is an escape character and a bracket, parameters, and a letter. It
is left out of what is not shown on a terminal. Main statement: a text without an escape character
stays as it is.
-/

namespace Docent.Text

def steering : Shape :=
  let isParameter (c : Char) : Bool := isDigit c || c = ';' || c = '?'
  let isLetter (c : Char) : Bool := ('a' ≤ c && c ≤ 'z') || ('A' ≤ c && c ≤ 'Z')
  .exactly "[" ++ .many (.one isParameter) ++ .one isLetter

/-- The characters after a number of them, without the sequences that steer a terminal. -/
def unsteeredAfter : Nat → List Char → List Char
  | _, [] => []
  | n + 1, _ :: cs => unsteeredAfter n cs
  | 0, c :: cs =>
    if c = '\x1b' then
      match steering cs with
      | some n => unsteeredAfter n cs
      | none => c :: unsteeredAfter 0 cs
    else c :: unsteeredAfter 0 cs

def unsteered (s : String) : String := String.ofList (unsteeredAfter 0 s.toList)

theorem unsteeredAfter_zero {cs : List Char} (h : '\x1b' ∉ cs) : unsteeredAfter 0 cs = cs := by
  induction cs with
  | nil => rfl
  | cons c cs ih =>
    rw [List.mem_cons, not_or] at h
    rw [unsteeredAfter, if_neg (Ne.symm h.1), ih h.2]

theorem unsteered_eq_self {s : String} (h : '\x1b' ∉ s.toList) : unsteered s = s := by
  rw [unsteered, unsteeredAfter_zero h, String.ofList_toList]

example : unsteered "a\x1b[1;31mb\x1b[0m\x1b[" = "ab\x1b[" := by decide

end Docent.Text
