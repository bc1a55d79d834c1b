import Docent.Number.Numeral
import Docent.Value

/-!
# Values as numbers

A number or a truth value is a number as it is; a text is the number that it writes. All other
values are none.
-/

namespace Docent

/-- Why a value is not a number. -/
inductive NumberFault
  | notReal (v : Value)
  | notWhole (base : Nat) (v : Value)
  | tooManyDigits (count : Nat)
  | noReal (kind : String)
  | noWhole (kind : String)
  | infiniteWhole
  | undefinedWhole
  | tooLarge

namespace NumberFault

def message : NumberFault → String
  | notReal v => "could not convert string to float: " ++ v.quoted
  | notWhole base v =>
    s!"invalid literal for int() with base {base}: " ++
      String.ofList (v.quoted.toList.take 200)
  | tooManyDigits count =>
    s!"Exceeds the limit (4300 digits) for integer string conversion: value has {count} digits; " ++
      "use sys.set_int_max_str_digits() to increase the limit"
  | noReal kind => s!"float() argument must be a string or a real number, not '{kind}'"
  | noWhole kind =>
    "int() argument must be a string, a bytes-like object or a real number, not '" ++ kind ++ "'"
  | infiniteWhole => "cannot convert float infinity to integer"
  | undefinedWhole => "cannot convert float NaN to integer"
  | tooLarge => "int too large to convert to float"

end NumberFault

/-- The most digits that a whole number may be written with in base ten. -/
def mostDigits : Nat := 4300

/-- The whole number that a text writes in a base; `v` is the value that the text came from. -/
def wholeOf (base : Nat) (cs : List Char) (v : Value) : Except NumberFault Int :=
  let count := (cs.filter fun c => (Text.decimalDigit? c).isSome).length
  match Numeral.whole? base cs with
  | none => .error (.notWhole base v)
  | some i => if base = 10 ∧ mostDigits < count then .error (.tooManyDigits count) else .ok i

/-- The floating-point number that a text writes; `v` is the value that the text came from. -/
def realOf (cs : List Char) (v : Value) : Except NumberFault Binary64 :=
  match Numeral.real? cs with
  | some x => .ok x
  | none => .error (.notReal v)

def realOfInt (i : Int) : Except NumberFault Binary64 :=
  match Binary64.ofInt? i with
  | some x => .ok x
  | none => .error .tooLarge

/-- The characters of bytes; bytes beyond ASCII are no part of a number. -/
def byteChars (bs : List UInt8) : List Char :=
  bs.map fun b => if b < 128 then Char.ofNat b.toNat else '?'

namespace Value

def toReal (v : Value) : Except NumberFault Binary64 :=
  match v with
  | .float x => .ok x
  | .int i => realOfInt i
  | .bool b => realOfInt (if b then 1 else 0)
  | .text s => realOf s.toList v
  | .bytes bs => realOf (byteChars bs) v
  | v => .error (.noReal v.kindName)

/-- A value as a whole number; a floating-point number loses its places. -/
def toWhole (v : Value) : Except NumberFault Int :=
  match v with
  | .int i => .ok i
  | .bool b => .ok (if b then 1 else 0)
  | .float .nan => .error .undefinedWhole
  | .float (.infinite _) => .error .infiniteWhole
  | .float x => .ok (x.truncate?.getD 0)
  | .text s => wholeOf 10 s.toList v
  | .bytes bs => wholeOf 10 (byteChars bs) v
  | v => .error (.noWhole v.kindName)

end Value

end Docent
