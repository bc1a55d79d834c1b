import Docent.Text.Quoted

/-!
# Texts in bytes

The bytes of a text in UTF-8 and the reading of bytes. A stretch of bytes that starts like a
character but does not go on like one is a flaw; so is a byte that starts none. Lenient reading puts
one replacement character in place of each flaw.
-/

namespace Docent.Utf8

def encode (s : String) : List UInt8 := s.toUTF8.toList

/-- What is wrong with a stretch of bytes. -/
inductive Fault
  | start
  | continuation
  | cutShort
deriving DecidableEq, Repr

def Fault.text : Fault → String
  | .start => "invalid start byte"
  | .continuation => "invalid continuation byte"
  | .cutShort => "unexpected end of data"

/-- A stretch of bytes that is no character. -/
structure Flaw where
  fault : Fault
  position : Nat
  bytes : List UInt8
deriving DecidableEq, Repr

def Flaw.message (f : Flaw) : String :=
  let place :=
    match f.bytes with
    | [b] => "byte 0x" ++ String.ofList (Text.hexDigits 2 b.toNat) ++ s!" in position {f.position}"
    | bs => s!"bytes in position {f.position}-{f.position + bs.length - 1}"
  s!"'utf-8' codec can't decode {place}: {f.fault.text}"

def isContinuation (b : UInt8) : Bool := 0x80 ≤ b && b < 0xC0

def fitsSecond (first second : UInt8) : Bool :=
  isContinuation second &&
    (if first = 0xE0 then 0xA0 ≤ second
    else if first = 0xED then second < 0xA0
    else if first = 0xF0 then 0x90 ≤ second
    else if first = 0xF4 then second < 0x90
    else true)

def following? (first : UInt8) : Option Nat :=
  if first < 0x80 then some 0
  else if first < 0xC2 then none
  else if first < 0xE0 then some 1
  else if first < 0xF0 then some 2
  else if first < 0xF5 then some 3
  else none

/-- The bits that the first byte of a character carries, with the number of bytes after it. -/
def leadBits (first : UInt8) : Nat → Nat
  | 0 => first.toNat
  | 1 => first.toNat % 32
  | 2 => first.toNat % 16
  | _ => first.toNat % 8

/-- Takes continuation bytes: the fault and how many were taken, or the character's number. -/
def continued : Nat → Nat → Nat → List UInt8 → Except (Fault × Nat) Nat
  | 0, _, n, _ => .ok n
  | _ + 1, taken, _, [] => .error (.cutShort, taken)
  | k + 1, taken, n, b :: bs =>
    if isContinuation b then continued k (taken + 1) (n * 64 + b.toNat % 64) bs
    else .error (.continuation, taken)

/-- Reads one character: its value and length, or the fault and the length of the flaw. -/
def character (first : UInt8) (rest : List UInt8) : Except (Fault × Nat) (Char × Nat) :=
  match following? first with
  | none => .error (.start, 1)
  | some 0 => .ok (Char.ofNat first.toNat, 1)
  | some (k + 1) =>
    match rest with
    | [] => .error (.cutShort, 1)
    | second :: rest =>
      if fitsSecond first second then
        (continued k 2 (leadBits first (k + 1) * 64 + second.toNat % 64) rest).map
          fun n => (Char.ofNat n, k + 2)
      else .error (.continuation, 1)

/-- Reads bytes as characters and flaws; `fuel` is at least the number of bytes. -/
def pieces : Nat → Nat → List UInt8 → List (Flaw ⊕ Char)
  | 0, _, _ => []
  | _, _, [] => []
  | fuel + 1, position, b :: bs =>
    match character b bs with
    | .ok (c, n) => .inr c :: pieces fuel (position + n) (bs.drop (n - 1))
    | .error (fault, n) =>
      .inl ⟨fault, position, b :: bs.take (n - 1)⟩ ::
        pieces fuel (position + n) (bs.drop (n - 1))

/-- The characters of bytes, with a replacement character for each flaw. -/
def lenient (bs : List UInt8) : List Char :=
  (pieces bs.length 0 bs).map fun p =>
    match p with
    | .inl _ => Char.ofNat 0xFFFD
    | .inr c => c

/-- The characters of bytes without a flaw, or the first flaw. -/
def strict (bs : List UInt8) : Except Flaw (List Char) :=
  (pieces bs.length 0 bs).mapM fun p =>
    match p with
    | .inl f => .error f
    | .inr c => .ok c

def mark : List UInt8 := [0xEF, 0xBB, 0xBF]

/-- The characters of a source file: a mark before them is left out, also a mark that is cut
short. -/
def sourceText (bs : List UInt8) : List Char :=
  if bs.isPrefixOf mark then []
  else if mark.isPrefixOf bs then lenient (bs.drop 3)
  else lenient bs

end Docent.Utf8
