/-!
# Floating-point numbers of 64 bits

A finite number is a sign, a whole number below `2 ^ 53` and a power of two. `Binary64.nearest`
rounds a quotient of whole numbers to the nearest such number, a tie to the even one; what lies
beyond the greatest number becomes infinite. Sum, product and the reading of decimals round once.
-/

namespace Docent

/-- A floating-point number: the value of `finite negative digits power` is `digits * 2 ^ power`,
negated if `negative`. -/
inductive Binary64
  | nan
  | infinite (negative : Bool)
  | finite (negative : Bool) (digits : Nat) (power : Int)
deriving DecidableEq, Repr

/-! ### Rounding a quotient -/

/-- The whole number nearest to a quotient, the even one at a tie. -/
def roundDiv (num den : Nat) : Nat :=
  let q := num / den
  let r := num % den
  if 2 * r < den then q
  else if den < 2 * r then q + 1
  else q + q % 2

theorem roundDiv_mul (q den : Nat) (h : 0 < den) : roundDiv (q * den) den = q := by
  simp [roundDiv, Nat.mul_mod_left, Nat.mul_div_cancel _ h, h]

namespace Binary64

def leastPower : Int := -1074

/-- The greatest power of two that goes with a whole number below `2 ^ 53`. -/
def greatestPower : Int := 971

def zero (negative : Bool) : Binary64 := .finite negative 0 leastPower

/-- A quotient in units of `2 ^ power`, again as a quotient. -/
def inUnits (num den : Nat) : Int → Nat × Nat
  | .ofNat k => (num, den * Nat.pow 2 k)
  | .negSucc k => (num * Nat.pow 2 (k + 1), den)

def binaryExponent (num den : Nat) : Int :=
  let e : Int := (Nat.log2 num : Int) - (Nat.log2 den : Int)
  let (n, d) := inUnits num den e
  if n < d then e - 1 else e

def nearest (negative : Bool) (num den : Nat) : Binary64 :=
  if num = 0 then zero negative
  else
    let power := max leastPower (binaryExponent num den - 52)
    let (n, d) := inUnits num den power
    let digits := roundDiv n d
    -- rounding up may have carried to one digit more
    let (digits, power) :=
      if digits = Nat.pow 2 53 then (Nat.pow 2 52, power + 1) else (digits, power)
    if greatestPower < power then .infinite negative else .finite negative digits power

/-- The magnitude of `digits * 2 ^ power` as a quotient. -/
def magnitude (digits : Nat) : Int → Nat × Nat
  | .ofNat k => (digits * Nat.pow 2 k, 1)
  | .negSucc k => (digits, Nat.pow 2 (k + 1))

def ofScaled (negative : Bool) (digits : Nat) (power : Int) : Binary64 :=
  let (num, den) := magnitude digits power
  nearest negative num den

/-! ### Whole numbers and decimals -/

/-- The number nearest to a whole number, unless that is infinite. -/
def ofInt? (i : Int) : Option Binary64 :=
  match nearest (i < 0) i.natAbs 1 with
  | .infinite _ => none
  | x => some x

/-- The number nearest to `digits * 10 ^ exponent`; exponents beyond all numbers are not
multiplied out. -/
def ofDecimal (negative : Bool) (digits : Nat) (exponent : Int) : Binary64 :=
  if digits = 0 then zero negative
  else
    let size : Int := (Nat.log2 digits : Int)
    if 1100 < exponent then .infinite negative
    else if exponent < -1100 - size then zero negative
    else
      match exponent with
      | .ofNat k => nearest negative (digits * Nat.pow 10 k) 1
      | .negSucc k => nearest negative digits (Nat.pow 10 (k + 1))

/-! ### Arithmetic -/

def truncate? : Binary64 → Option Int
  | .finite negative digits power =>
    let (num, den) := magnitude digits power
    let n : Int := Int.ofNat (num / den)
    some (if negative then -n else n)
  | _ => none

def isZero : Binary64 → Bool
  | .finite _ digits _ => digits = 0
  | _ => false

def neg : Binary64 → Binary64
  | .nan => .nan
  | .infinite s => .infinite (!s)
  | .finite s d p => .finite (!s) d p

def mul : Binary64 → Binary64 → Binary64
  | .finite s d p, .finite t e q => ofScaled (s != t) (d * e) (p + q)
  | .nan, _ => .nan
  | _, .nan => .nan
  | .infinite s, .infinite t => .infinite (s != t)
  | .infinite s, .finite t e _ => if e = 0 then .nan else .infinite (s != t)
  | .finite t e _, .infinite s => if e = 0 then .nan else .infinite (s != t)

/-- A finite number as a whole number of units of `2 ^ power`, for a power not above its own. -/
def signedUnits (negative : Bool) (digits : Nat) (own power : Int) : Int :=
  let n : Int := Int.ofNat (digits * Nat.pow 2 (own - power).toNat)
  if negative then -n else n

/-- The sum, rounded once; the sum of opposite zeros is positive. -/
def add : Binary64 → Binary64 → Binary64
  | .finite s d p, .finite t e q =>
    let power := min p q
    let sum := signedUnits s d p power + signedUnits t e q power
    if sum = 0 then zero (s && t) else ofScaled (sum < 0) sum.natAbs power
  | .nan, _ => .nan
  | _, .nan => .nan
  | .infinite s, .infinite t => if s = t then .infinite s else .nan
  | .infinite s, _ => .infinite s
  | _, .infinite t => .infinite t

/-- Equality of values: zeros are equal, and what is undefined equals nothing. -/
def same (x y : Binary64) : Bool :=
  match x, y with
  | .nan, _ => false
  | _, .nan => false
  | x, y => x = y || (x.isZero && y.isZero)

end Binary64

end Docent
