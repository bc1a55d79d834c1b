import Docent.Number.Binary64
import Docent.Text.Blank
import Docent.Text.CodeSet
import Docent.Text.DecimalDigit

/-!
# Numerals

The parts of numbers in decimal notation, and the reading of texts that are numbers as a whole: with
white space around them, the decimal digits of any script, and single underscores between digits.
-/

namespace Docent.Numeral

/-! ### Parts of numbers -/

def digitsOf (cs : List Char) : List Char × List Char := cs.span Char.isDigit

def decimalValue (digits : List Char) : Nat :=
  digits.foldl (fun n c => n * 10 + (c.toNat - 48)) 0

def exponentOf (cs : List Char) : Option Int × List Char :=
  match cs with
  | c :: r =>
    if c = 'e' ∨ c = 'E' then
      let (negative, r) :=
        match r with
        | '-' :: r => (true, r)
        | '+' :: r => (false, r)
        | r => (false, r)
      match digitsOf r with
      | ([], _) => (none, cs)
      | (ds, rest) =>
        let n : Int := Int.ofNat (decimalValue ds)
        (some (if negative then -n else n), rest)
    else (none, cs)
  | [] => (none, cs)

/-- Splits off the digits after a point, if there are any. -/
def placesOf (cs : List Char) : Option (List Char) × List Char :=
  match cs with
  | '.' :: r =>
    match digitsOf r with
    | ([], _) => (none, cs)
    | (ds, rest) => (some ds, rest)
  | _ => (none, cs)

/-! ### Texts that are numbers -/

def isAsciiBlank (c : Char) : Bool := c = ' ' || (9 ≤ c.toNat && c.toNat ≤ 13)

/-- A text with its white space and digits replaced by those of ASCII; what is then not ASCII is no
part of a number. -/
def plainForm (cs : List Char) : List Char :=
  let toAscii (c : Char) : Char :=
    if c.toNat < 128 then (if Text.isBlank c then ' ' else c)
    else if Text.isBlank c then ' '
    else
      match Text.decimalDigit? c with
      | some d => Char.ofNat (48 + d)
      | none => '?'
  Text.trimBy isAsciiBlank (if cs.all fun c => c.toNat < 128 then cs else cs.map toAscii)

/-- A sign at the start of a text: whether it is that of negative numbers, and the rest. -/
def signOf (cs : List Char) : Bool × List Char :=
  match cs with
  | '-' :: r => (true, r)
  | '+' :: r => (false, r)
  | r => (false, r)

def digitIn? (base : Nat) (c : Char) : Option Nat :=
  (Text.hexDigit? c).filter (· < base)

/-- The number that the digits of a text write after a first part; a single underscore may stand
between two digits. -/
def wholeFrom? (base : Nat) : Nat → List Char → Option Nat
  | n, [] => some n
  | n, '_' :: c :: cs => (digitIn? base c).bind fun d => wholeFrom? base (n * base + d) cs
  | n, c :: cs => (digitIn? base c).bind fun d => wholeFrom? base (n * base + d) cs

def withoutBase (base : Nat) (cs : List Char) : List Char :=
  let marks :=
    if base = 16 then ['x', 'X'] else if base = 8 then ['o', 'O']
    else if base = 2 then ['b', 'B'] else []
  match cs with
  | '0' :: m :: r =>
    if marks.contains m then
      match r with
      | '_' :: r => r
      | r => r
    else cs
  | cs => cs

def whole? (base : Nat) (cs : List Char) : Option Int :=
  let (negative, digits) := signOf (plainForm cs)
  match withoutBase base digits with
  | [] => none
  | '_' :: _ => none
  | ds => (wholeFrom? base 0 ds).map fun n => if negative then -(n : Int) else n

/-- A text without its underscores, each of which has to stand between two digits. -/
def withoutUnderscores? : List Char → Option (List Char)
  | [] => some []
  | '_' :: _ => none
  | c :: '_' :: d :: cs =>
    if c.isDigit && d.isDigit then (withoutUnderscores? (d :: cs)).map (c :: ·) else none
  | c :: cs => (withoutUnderscores? cs).map (c :: ·)

def decimal? (negative : Bool) (cs : List Char) : Option Binary64 :=
  let (front, r) := digitsOf cs
  let (back, r) :=
    match r with
    | '.' :: r => digitsOf r
    | r => ([], r)
  let (exponent, r) := exponentOf r
  let digits := front ++ back
  if digits.isEmpty || !r.isEmpty then none
  else some (.ofDecimal negative (decimalValue digits) (exponent.getD 0 - back.length))

def real? (cs : List Char) : Option Binary64 := do
  let (negative, cs) := signOf (← withoutUnderscores? (plainForm cs))
  let word := String.ofList (cs.map Char.toLower)
  if word = "inf" ∨ word = "infinity" then return .infinite negative
  else if word = "nan" then return .nan
  else decimal? negative cs

end Docent.Numeral
