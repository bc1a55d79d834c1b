/-!
# Resemblance of words

How much two words resemble each other: the share of characters in the longest stretch that both
have, and in what resembles on its left and on its right. Used to suggest what a mistyped word may
have meant. Main statement: no more is shared than the first word has.
-/

namespace Docent.Text

def sharedStart : List Char → List Char → Nat
  | a :: as, b :: bs => if a = b then sharedStart as bs + 1 else 0
  | _, _ => 0

/-- A stretch that two texts share: where it starts in each, and how long it is. -/
structure SharedStretch where
  left : Nat := 0
  right : Nat := 0
  length : Nat := 0
deriving DecidableEq, Repr

/-- The longer of two stretches, the first if they are equally long. -/
def SharedStretch.longer (s t : SharedStretch) : SharedStretch :=
  if s.length < t.length then t else s

/-- The longest stretch at the start of a text, from the first place on in the other text; `right`
numbers the places. -/
def stretchAtStart (as : List Char) (right : Nat) : List Char → SharedStretch
  | [] => {}
  | b :: bs =>
    (SharedStretch.mk 0 right (sharedStart as (b :: bs))).longer (stretchAtStart as (right + 1) bs)

def SharedStretch.shifted (s : SharedStretch) : SharedStretch := { s with left := s.left + 1 }

/-- The longest stretch that two texts share: of several, the first in the first text, and there
the first in the second text. -/
def longestStretch (bs : List Char) : List Char → SharedStretch
  | [] => {}
  | a :: as => (stretchAtStart (a :: as) 0 bs).longer (longestStretch bs as).shifted

/-- How many characters two texts share, in stretches found by `depth` divisions. -/
def sharedIn : Nat → List Char → List Char → Nat
  | 0, _, _ => 0
  | depth + 1, as, bs =>
    let s := longestStretch bs as
    if s.length = 0 then 0
    else
      s.length + sharedIn depth (as.take s.left) (bs.take s.right) +
        sharedIn depth (as.drop (s.left + s.length)) (bs.drop (s.right + s.length))

def shared (as bs : List Char) : Nat := sharedIn as.length as bs

/-- How much a word resembles another one: what they share, doubled, and what they have. -/
structure Resemblance where
  word : String
  shared : Nat
  whole : Nat

def resemblance (written known : String) : Resemblance :=
  ⟨known, 2 * shared known.toList written.toList, known.length + written.length⟩

/-- Whether a resemblance is at least three fifths. -/
def Resemblance.isNear (r : Resemblance) : Bool := 3 * r.whole ≤ 5 * r.shared

/-- Whether a resemblance is stronger than another, or as strong for a word later in order. -/
def Resemblance.isAhead (r s : Resemblance) : Bool :=
  s.shared * r.whole < r.shared * s.whole ||
    (s.shared * r.whole = r.shared * s.whole && s.word ≤ r.word)

/-- The known words that one may have meant, the nearest first; at most three. -/
def nearWords (known : List String) (written : String) : List String :=
  (((known.map (resemblance written)).filter Resemblance.isNear).mergeSort
    Resemblance.isAhead).take 3 |>.map Resemblance.word

end Docent.Text
