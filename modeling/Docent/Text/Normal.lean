import Docent.Text.NormalTable

/-!
# The compatibility normal form

Normal form KC for texts that are identifiers: every character is decomposed, marks are put into
the order of their combining classes, and pairs are composed again. A text of ASCII characters is
its own normal form, which `normalForm_ascii` states.
-/

namespace Docent.Text

open NormalTable

/-- The row of a sorted table with the greatest head that is no more than `n`. -/
def rowBelow (table : Array (List Nat)) (n : Nat) : Nat → Nat → Nat → List Nat
  | 0, _, _ => []
  | fuel + 1, lo, hi =>
    if hi ≤ lo + 1 then (table[lo]?).getD []
    else
      let mid := (lo + hi) / 2
      if ((table[mid]?).getD []).headD 0 ≤ n then rowBelow table n fuel mid hi
      else rowBelow table n fuel lo mid

def rowFor (table : Array (List Nat)) (n : Nat) : List Nat :=
  rowBelow table n (table.size + 1) 0 table.size

def decompose (n : Nat) : List Nat :=
  if n < 0x80 then [n]
  else if 0xAC00 ≤ n ∧ n ≤ 0xD7A3 then
    -- a syllable is put together from two or three letters by their numbers
    let s := n - 0xAC00
    let tail := if s % 28 = 0 then [] else [0x11A7 + s % 28]
    (0x1100 + s / 588) :: (0x1161 + s % 588 / 28) :: tail
  else
    match rowFor shifts n with
    | [a, b, t] => if a ≤ n ∧ n ≤ b then [t + (n - a)] else expand
    | _ => expand
where
  /-- The decomposition by the table of expansions. -/
  expand : List Nat :=
    match rowFor expansions n with
    | a :: image => if a = n then image else [n]
    | [] => [n]

def combiningClass (n : Nat) : Nat :=
  if n < 0x300 then 0
  else
    match rowFor combiningClasses n with
    | [a, b, k] => if a ≤ n ∧ n ≤ b then k else 0
    | _ => 0

/-- Puts a mark before the marks at the end of a reversed text that have a greater class. -/
def placeMark (n : Nat) : List Nat → List Nat
  | [] => [n]
  | m :: ms =>
    if combiningClass n ≠ 0 ∧ combiningClass n < combiningClass m then m :: placeMark n ms
    else n :: m :: ms

def orderMarks (ns : List Nat) : List Nat :=
  (ns.foldl (fun done n => placeMark n done) []).reverse

def composite? (a b : Nat) : Option Nat :=
  if 0x1100 ≤ a ∧ a < 0x1113 ∧ 0x1161 ≤ b ∧ b < 0x1176 then
    some (0xAC00 + ((a - 0x1100) * 21 + (b - 0x1161)) * 28)
  else if 0xAC00 ≤ a ∧ a ≤ 0xD7A3 ∧ (a - 0xAC00) % 28 = 0 ∧ 0x11A8 ≤ b ∧ b < 0x11C3 then
    some (a + (b - 0x11A7))
  else
    (compositions.find? fun row => row.take 2 == [a, b]).bind (·[2]?)

/-- Composes a starter with the marks after it: `blocked` is the class of the last mark that was
kept, `kept` the kept ones in reverse. -/
def composeMarks (starter : Nat) (kept : List Nat) (blocked : Nat) :
    List Nat → List Nat
  | [] => starter :: kept.reverse
  | n :: ns =>
    let k := combiningClass n
    -- a mark is blocked by a kept one of the same or a greater class
    let free := kept.isEmpty || (blocked < k && blocked ≠ 0)
    match if free then composite? starter n else none with
    | some c => composeMarks c kept blocked ns
    | none =>
      if k = 0 then starter :: kept.reverse ++ composeMarks n [] 0 ns
      else composeMarks starter (n :: kept) k ns

def compose : List Nat → List Nat
  | [] => []
  | n :: ns => if combiningClass n = 0 then composeMarks n [] 0 ns else n :: compose ns

def normalForm (cs : List Char) : List Char :=
  if cs.all (·.toNat < 0x80) then cs
  else (compose (orderMarks (cs.flatMap fun c => decompose c.toNat))).map Char.ofNat

theorem normalForm_ascii (cs : List Char) (h : ∀ c ∈ cs, c.toNat < 0x80) :
    normalForm cs = cs := by
  simp [normalForm]
  intro x hx hge
  have := h x hx
  omega

end Docent.Text
