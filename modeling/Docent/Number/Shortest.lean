import Docent.Number.Binary64

/-!
# Decimal digits of floating-point numbers

`shortest` gives the fewest decimal digits that read back as the number, and of those the ones
nearest to it. `toPrecision` and `toPlaces` round the exact value to a given number of digits, or
of decimal places, a tie to the even neighbour.
-/

namespace Docent.Binary64

/-- The greatest power of ten not above a positive quotient: first from the digits of its whole
part, then by scaling up. -/
def decimalExponent (num den : Nat) : Int :=
  if den ≤ num then Int.ofNat ((Nat.toDigits 10 (num / den)).length - 1)
  else
    let guess := (Nat.log2 den - Nat.log2 num) * 30103 / 100000
    search num den 400 (guess - 1)
where
  /-- The least number of tens, from a start on, that lift the quotient to one. -/
  search (num den : Nat) : Nat → Nat → Int
    | 0, k => -(Int.ofNat k)
    | fuel + 1, k =>
      if den ≤ num * Nat.pow 10 k then -(Int.ofNat k) else search num den fuel (k + 1)

/-- A quotient in units of a power of ten, again as a quotient. -/
def inTens (num den : Nat) : Int → Nat × Nat
  | .ofNat k => (num, den * Nat.pow 10 k)
  | .negSucc k => (num * Nat.pow 10 (k + 1), den)

/-- Digits of a decimal: `digits * 10 ^ exponent`. -/
structure Decimal where
  digits : Nat
  exponent : Int
deriving DecidableEq, Repr

/-- The numbers that read back as a given one lie between two bounds, in quarters of its unit;
the bounds themselves do if the number is even. -/
structure Neighbourhood where
  below : Nat
  value : Nat
  above : Nat
  closed : Bool

/-- The neighbourhood of `digits * 2 ^ power`; below a power of two it is half as wide. -/
def neighbourhood (digits : Nat) (power : Int) : Neighbourhood where
  below := if digits = Nat.pow 2 52 ∧ leastPower < power then 4 * digits - 1 else 4 * digits - 2
  value := 4 * digits
  above := 4 * digits + 2
  closed := digits % 2 = 0

/-- Whether the point `candidate` of a decimal grid reads back as the number: `num` and `den` turn
quarters of the unit into steps of the grid. -/
def readsBack (near : Neighbourhood) (num den candidate : Nat) : Bool :=
  let point := candidate * den
  if near.closed then near.below * num ≤ point && point ≤ near.above * num
  else near.below * num < point && point < near.above * num

/-- The point of the grid with step `10 ^ exponent` that is nearest among its two neighbours that
read back as the number. -/
def onGrid? (digits : Nat) (power exponent : Int) : Option Nat :=
  let near := neighbourhood digits power
  let (unit, base) := magnitude 1 (power - 2)
  let (num, den) := inTens unit base exponent
  let exact := near.value * num
  let lower := exact / den
  let upper := lower + 1
  match readsBack near num den lower, readsBack near num den upper with
  | false, false => none
  | true, false => some lower
  | false, true => some upper
  | true, true => some (roundDiv exact den)

/-- The fewest digits of a positive number that read back, tried with one digit, two, and so
on. -/
def shortest (digits : Nat) (power : Int) : Decimal :=
  let (num, den) := magnitude digits power
  let top := decimalExponent num den
  go top 17 0
where
  /-- Tries the next number of digits, at most seventeen. -/
  go (top : Int) : Nat → Nat → Decimal
    | 0, tried => ⟨0, top - tried⟩
    | left + 1, tried =>
      match onGrid? digits power (top - tried) with
      | some c => ⟨c, top - tried⟩
      | none => go top left (tried + 1)

def toPrecision (count num den : Nat) : Decimal :=
  let exponent := decimalExponent num den + 1 - count
  let (n, d) := inTens num den exponent
  let digits := roundDiv n d
  -- rounding up may have carried to one digit more
  if digits = Nat.pow 10 count then ⟨Nat.pow 10 (count - 1), exponent + 1⟩ else ⟨digits, exponent⟩

/-- A quotient rounded to a number of decimal places, in units of the last place. -/
def toPlaces (places num den : Nat) : Nat :=
  roundDiv (num * Nat.pow 10 places) den

end Docent.Binary64
