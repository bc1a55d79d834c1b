import Docent.Number.Numeral
import Docent.Value

/-!
# Reading JSON

A reader for all of JSON. Numbers without a point and an exponent are whole; two escaped units
of sixteen bits that form a pair are one character; of two entries with one key the last counts.
-/

namespace Docent.Json

open Numeral

def isGap (c : Char) : Bool := c = ' ' || c = '\t' || c = '\n' || c = '\r'

def skipGap (cs : List Char) : List Char := cs.dropWhile isGap

/-! ### Strings -/

def unit? (a b c d : Char) : Option Nat :=
  match Text.hexDigit? a, Text.hexDigit? b, Text.hexDigit? c, Text.hexDigit? d with
  | some w, some x, some y, some z => some (((w * 16 + x) * 16 + y) * 16 + z)
  | _, _, _, _ => none

def shortEscape? (c : Char) : Option Char :=
  if c = '"' ∨ c = '\\' ∨ c = '/' then some c
  else if c = 'n' then some '\n'
  else if c = 'r' then some '\r'
  else if c = 't' then some '\t'
  else if c = 'b' then some (Char.ofNat 8)
  else if c = 'f' then some (Char.ofNat 12)
  else none

def ofPair (high low : Nat) : Char :=
  Char.ofNat (0x10000 + (high - 0xD800) * 0x400 + (low - 0xDC00))

def isHigh (n : Nat) : Bool := 0xD800 ≤ n && n < 0xDC00

def isLow (n : Nat) : Bool := 0xDC00 ≤ n && n < 0xE000

/-- Reads a string after its opening quote: its characters and the rest of the text. -/
def stringBody : List Char → Option (List Char × List Char)
  | [] => none
  | '"' :: r => some ([], r)
  | '\\' :: 'u' :: a :: b :: c :: d :: '\\' :: 'u' :: e :: f :: g :: h :: r =>
    match unit? a b c d, unit? e f g h with
    | some m, some n =>
      if isHigh m && isLow n then
        (stringBody r).map fun (s, rest) => (ofPair m n :: s, rest)
      else
        (stringBody ('\\' :: 'u' :: e :: f :: g :: h :: r)).map fun (s, rest) =>
          (Char.ofNat m :: s, rest)
    | _, _ => none
  | '\\' :: 'u' :: a :: b :: c :: d :: r =>
    match unit? a b c d with
    | some n => (stringBody r).map fun (s, rest) => (Char.ofNat n :: s, rest)
    | none => none
  | '\\' :: c :: r =>
    match shortEscape? c with
    | some x => (stringBody r).map fun (s, rest) => (x :: s, rest)
    | none => none
  | c :: r => (stringBody r).map fun (s, rest) => (c :: s, rest)

/-! ### Numbers -/

def number? (negative : Bool) (cs : List Char) : Option (Value × List Char) :=
  match digitsOf cs with
  | ([], _) => none
  | (whole, r) =>
    let (places, r) := placesOf r
    let (exponent, r) := exponentOf r
    match places, exponent with
    | none, none =>
      let n : Int := Int.ofNat (decimalValue whole)
      some (.int (if negative then -n else n), r)
    | _, _ =>
      -- places and an exponent together move the point
      let back := places.getD []
      let power : Int := exponent.getD 0 - back.length
      some (.float (.ofDecimal negative (decimalValue (whole ++ back)) power), r)

/-! ### Values -/

def expect? : List Char → List Char → Option (List Char)
  | [], r => some r
  | _ :: _, [] => none
  | x :: xs, c :: r => if x = c then expect? xs r else none

/-- Entries of which those with one key are reduced to the last. -/
def settle (entries : List (Value × Value)) : List (Value × Value) :=
  entries.foldl (fun es e => Value.put e.1 e.2 es) []

mutual

/-- Reads a value at the start of a text; `fuel` bounds how deeply values nest. -/
def value? : Nat → List Char → Option (Value × List Char)
  | 0, _ => none
  | fuel + 1, cs =>
    match skipGap cs with
    | [] => none
    | c :: r =>
      if c = 'n' then (expect? ['u', 'l', 'l'] r).map (Value.null, ·)
      else if c = 't' then (expect? ['r', 'u', 'e'] r).map (Value.bool true, ·)
      else if c = 'f' then (expect? ['a', 'l', 's', 'e'] r).map (Value.bool false, ·)
      else if c = '"' then (stringBody r).map fun (s, rest) => (.text (String.ofList s), rest)
      else if c = '[' then
        match skipGap r with
        | ']' :: rest => some (.list [], rest)
        | r =>
          match value? fuel r with
          | none => none
          | some (v, r) => (items? fuel r).map fun (vs, rest) => (.list (v :: vs), rest)
      else if c = '\x7b' then
        match skipGap r with
        | '\x7d' :: rest => some (.dict [], rest)
        | r =>
          match member? fuel r with
          | none => none
          | some (e, r) => (entries? fuel r).map fun (es, rest) => (.dict (settle (e :: es)), rest)
      else if c = '-' then number? true r
      else number? false (c :: r)

/-- Reads the items of a list after the first one, and the closing bracket. -/
def items? : Nat → List Char → Option (List Value × List Char)
  | 0, _ => none
  | fuel + 1, cs =>
    match skipGap cs with
    | ']' :: rest => some ([], rest)
    | ',' :: r =>
      match value? fuel r with
      | none => none
      | some (v, r) => (items? fuel r).map fun (vs, rest) => (v :: vs, rest)
    | _ => none

def member? : Nat → List Char → Option ((Value × Value) × List Char)
  | 0, _ => none
  | fuel + 1, cs =>
    match skipGap cs with
    | '"' :: r =>
      match stringBody r with
      | none => none
      | some (k, r) =>
        match skipGap r with
        | ':' :: r => (value? fuel r).map fun (v, rest) => ((.text (String.ofList k), v), rest)
        | _ => none
    | _ => none

/-- Reads the entries of an object after the first one, and the closing brace. -/
def entries? : Nat → List Char → Option (List (Value × Value) × List Char)
  | 0, _ => none
  | fuel + 1, cs =>
    match skipGap cs with
    | '\x7d' :: rest => some ([], rest)
    | ',' :: r =>
      match member? fuel r with
      | none => none
      | some (e, r) => (entries? fuel r).map fun (es, rest) => (e :: es, rest)
    | _ => none

end

def parse? (cs : List Char) : Option Value :=
  match value? (2 * cs.length + 2) cs with
  | some (v, rest) => if (skipGap rest).isEmpty then some v else none
  | none => none

end Docent.Json
