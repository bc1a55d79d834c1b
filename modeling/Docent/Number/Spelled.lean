import Docent.Number.Shortest

/-!
# Texts of numbers

The three ways in which numbers are written: in full, with the fewest digits that read back;
with a fixed number of places; and in general form, with six digits and no idle zeros.
-/

namespace Docent.Binary64

/-- How a number with digits `d₁ d₂ … dₙ` is written: positionally while the place of the point
after the first digit lies within bounds, otherwise with an exponent. -/
structure Spelling where
  leastExponent : Int
  greatestExponent : Int
  keepPoint : Bool

/-- Numbers written in full are positional from a ten-thousandth up to below `10 ^ 16`, and always
show a point. -/
def full : Spelling := ⟨-4, 15, true⟩

/-- Numbers in general form are positional from a ten-thousandth up to below a million, and show a
point only before digits. -/
def general : Spelling := ⟨-4, 5, false⟩

def exponentText (e : Int) : String :=
  let digits := toString e.natAbs
  (if e < 0 then "e-" else "e+") ++ (if digits.length < 2 then "0" ++ digits else digits)

def dropZeros (cs : List Char) : List Char :=
  (cs.reverse.dropWhile (· = '0')).reverse

def positional (s : Spelling) (digits : List Char) (whole : Int) : List Char :=
  let (front, back) :=
    if whole ≤ 0 then (['0'], List.replicate (-whole).toNat '0' ++ digits)
    else
      let n := whole.toNat
      (digits.take n ++ List.replicate (n - digits.length) '0', digits.drop n)
  let back := dropZeros back
  if back.isEmpty then front ++ (if s.keepPoint then ['.', '0'] else []) else front ++ '.' :: back

def scientific (digits : List Char) (e : Int) : List Char :=
  match digits with
  | [] => []
  | d :: ds =>
    let back := dropZeros ds
    (if back.isEmpty then [d] else d :: '.' :: back) ++ (exponentText e).toList

def spell (s : Spelling) (x : Decimal) : String :=
  let digits := Nat.toDigits 10 x.digits
  let e : Int := x.exponent + digits.length - 1
  String.ofList <|
    if s.leastExponent ≤ e ∧ e ≤ s.greatestExponent then positional s digits (e + 1)
    else scientific digits e

def signed (negative : Bool) (text : String) : String :=
  if negative then "-" ++ text else text

def text : Binary64 → String
  | .nan => "nan"
  | .infinite s => signed s "inf"
  | .finite s digits power =>
    signed s (if digits = 0 then "0.0" else spell full (shortest digits power))

/-- The text of a number in general form, with six digits. -/
def generalText : Binary64 → String
  | .nan => "nan"
  | .infinite s => signed s "inf"
  | .finite s digits power =>
    let (num, den) := magnitude digits power
    signed s (if digits = 0 then "0" else spell general (toPrecision 6 num den))

def fixedText (places : Nat) : Binary64 → String
  | .nan => "nan"
  | .infinite s => signed s "inf"
  | .finite s digits power =>
    let (num, den) := magnitude digits power
    let units := Nat.toDigits 10 (toPlaces places num den)
    let padded := List.replicate (places + 1 - units.length) '0' ++ units
    let whole := padded.take (padded.length - places)
    let back := padded.drop (padded.length - places)
    signed s (String.ofList (if places = 0 then whole else whole ++ '.' :: back))

end Docent.Binary64
